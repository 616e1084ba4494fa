import Storyworld.Check.Document
import Storyworld.Proofs.CommandLine.Split
import Storyworld.CommandLine.Play
import Storyworld.CommandLine.Validate
import Storyworld.Condition.Eval
import Storyworld.Main
import Storyworld.Narration.Client
import Storyworld.Pattern.Match
import Storyworld.Proofs.Condition.Escape
import Storyworld.Proofs.Session.Refinement
import Storyworld.Proofs.Session.Undo
import Storyworld.Registry
import Storyworld.Session
import Storyworld.Proofs.Track.Range
import Storyworld.Proofs.Turn.Ending
import Storyworld.Proofs.Schema.Fits
import Storyworld.Proofs.Check.Clean
import Storyworld.Proofs.Check.Effects
import Storyworld.Proofs.Check.Document
import Storyworld.Proofs.Check.Play
import Storyworld.Proofs.Json.RoundTrip
import Storyworld.Proofs.State.Document
import Storyworld.Proofs.State.Save
import Storyworld.Proofs.Check.Stops
import Storyworld.Proofs.Turn.Frame
import Storyworld.Proofs.Check.LoadedEffects
import Storyworld.Proofs.Check.Loaded
import Storyworld.Proofs.Json.Stored
import Storyworld.Proofs.State.Whole
import Storyworld.Proofs.Session.Whole
import Storyworld.Proofs.CommandLine.Shell
import Storyworld.Proofs.CommandLine.Rounds
import Storyworld.Proofs.Files.Writing
import Storyworld.Proofs.CommandLine.Runs
import Storyworld.Proofs.Session.Log
import Storyworld.Proofs.Turn.Place
import Storyworld.Proofs.Turn.Asked
import Storyworld.Proofs.Check.Moves
import Storyworld.Proofs.Turn.Alike
import Storyworld.Proofs.Scenario.Reload
import Storyworld.Proofs.Turn.Belongings
import Storyworld.Proofs.Registry.Place
import Storyworld.Proofs.Turn.Target
import Storyworld.Proofs.Turn.Settling
import Storyworld.Proofs.Decimal.Infinite
import Storyworld.Proofs.Turn.Counters
import Storyworld.Proofs.Turn.Finite
import Storyworld.Proofs.Check.Flags
import Storyworld.Proofs.Turn.Consequences
import Storyworld.Proofs.Turn.Priority
import Storyworld.Proofs.Condition.Connectives
import Storyworld.Proofs.Turn.ReadBack
import Storyworld.Proofs.Track.Moving
import Storyworld.Proofs.Turn.OnePlace
import Storyworld.Proofs.Turn.Ceiling
import Storyworld.Proofs.Session.Differences
import Storyworld.Proofs.Session.Failures
import Storyworld.Proofs.Turn.Report
import Storyworld.Proofs.Turn.Additions
import Storyworld.Proofs.CommandLine.Verdicts
import Storyworld.Proofs.Registry.Rejections
import Storyworld.Proofs.Condition.Spacing
