import Storyworld.CommandLine.Shell
import Storyworld.Narration.Client
import Storyworld.Registry
import Storyworld.Session

/-!
The command that plays a scenario. The player types the id of an action and what it is aimed at, or
one of the words that start with a colon.
-/

namespace Storyworld.CommandLine.Play

open Console Narration

def command : Command where
  specs := [
    ⟨["-h", "--help"], .help, false⟩,
    ⟨["--rules"], .value, true⟩,
    ⟨["--id"], .value, true⟩,
    ⟨["--load"], .value, false⟩,
    ⟨["--save"], .value, false⟩,
    ⟨["--narrate"], .switch, false⟩,
    ⟨["--model"], .value, false⟩,
    ⟨["-v", "--verbose"], .switch, false⟩]
  takesFiles := false

/-- A text with blanks behind it up to a width. -/
def padded (width : Nat) (s : String) : String :=
  s ++ String.ofList (List.replicate (width - s.length) ' ')

def help (program : String) : String :=
  let start := "usage: " ++ program ++ " "
  let option (name description : String) := "  " ++ padded 15 name ++ description
  String.join ([
    start ++ "[-h] [--rules RULES | --id ID] [--load LOAD]",
    padded start.length "" ++ "[--save SAVE] [--narrate] [--model MODEL] [-v]",
    "",
    "Play a scenario interactively.",
    "",
    "options:",
    option "-h, --help" "show this help message and exit",
    option "--rules RULES" "Path to a rule document",
    option "--id ID" "Bundled scenario id (default: eco_pollution)",
    option "--load LOAD" "Resume from a saved state file",
    option "--save SAVE" "Write the state here on exit",
    option "--narrate" "Narrate turns with Claude",
    option "--model MODEL" "Model for narration",
    option "-v, --verbose" "Show engine debug logs"].map (· ++ "\n"))

/-! What is shown -/

def counterLine (c : String × Counter) : Except Fault String := do
  return "  " ++ c.1 ++ ": " ++ (← c.2.toValue.plain)

def trackLine (t : Track) : Except Fault String := do
  return "  " ++ t.name ++ ": " ++ (← t.value.plain) ++ "/" ++ (← t.max.plain)

def stateLines (g : Session) : List (Except Fault String) :=
  let label := (g.situation?.map Situation.label).getD g.state.situation
  let route := (g.state.route.filter (· ≠ "")).toList
  [.ok ("\n== " ++ label ++ " ==")] ++ g.state.counters.map counterLine ++
    g.state.tracks.map (fun t => trackLine t.2) ++ route.map fun r => .ok ("  route: " ++ r)

def actionLine (id : String) (d : ActionDetail) : String :=
  let hint := match d.description.filter (· ≠ "") with
    | some s => " -- " ++ s
    | none => ""
  "  " ++ padded 12 id ++ " " ++ d.label ++ hint

def actionLines (g : Session) : List (Except Fault String) :=
  g.actions.map fun a => .ok (actionLine a.1 a.2)

def changeLine (c : Change) : Except Fault String := do
  let sign := if (Number.int 0).lt c.delta then "+" else ""
  return "    " ++ c.name ++ " " ++ sign ++ (← c.delta.plain)

def entryLines (e : LogEntry) : List (Except Fault String) :=
  match e.kind with
  | .action => .ok ("\n> " ++ e.message) :: (e.changes.getD []).map changeLine
  | .procedural => [.ok ("  * " ++ e.message)]
  | _ => [.ok ("\n" ++ e.message)]

def showPlace (g : Session) : Console Unit := do
  sayAll (stateLines g)
  sayAll (actionLines g)

/-! What is typed -/

inductive Line where
  | blank
  | quit
  | actions
  | state
  | undo
  | act (id : String) (target : Option String) (success : Bool)
  deriving Repr, DecidableEq

/-- An action and its target, which a blank divides. -/
def Line.ofAction (success : Bool) (cs : List Char) : Line :=
  let (id, rest) := Text.partAt ' ' cs
  let target := Text.trim rest
  .act (String.ofList id) (if target.isEmpty then none else some (String.ofList target)) success

def Line.ofText (text : String) : Line :=
  let cs := Text.trim text.toList
  let (word, rest) := Text.partAt ' ' cs
  match String.ofList word with
  | "" => .blank
  | ":quit" => .quit
  | ":actions" => .actions
  | ":state" => .state
  | ":undo" => .undo
  | ":fail" => .ofAction false (Text.trim rest)
  | _ => .ofAction true cs

def act (g : Session) (id : String) (target : Option String) (success : Bool) :
    Console Session := do
  if (lookupLast id g.scenario.actions).isNone then
    say ("Unknown action " ++ Text.quoted id ++ ". Type :actions for a list.")
    return g
  let (g, t) ← perform (g.act id target success)
  sayAll (t.entries.flatMap entryLines)
  if t.moved then showPlace g
  return g

/-- Does what a line asks for; none if it asks to leave. -/
def answer (g : Session) (text : String) : Console (Option Session) := do
  match Line.ofText text with
  | .quit => return none
  | .blank => return some g
  | .actions => do
    sayAll (actionLines g)
    return some g
  | .state => do
    sayAll (stateLines g)
    return some g
  | .undo => do
    let (g, undone) := g.undo
    say (if undone then "Undone." else "Nothing to undo.")
    return some g
  | .act id target success => return some (← act g id target success)

/-! The game from the start to the end -/

def chosenScenario (a : Arguments) : Console Scenario := do
  let files ← files
  match a.value? "--rules" with
  | some p => return (← Registry.empty.loadFile files (.ofText p)).2
  | none =>
    let r := (Registry.empty.loadBundled files .builtIn).1
    r.get ((a.value? "--id").getD "eco_pollution")

/-- The narrator that was asked for. It needs a key, and it answers what the service answers. -/
def chosenNarrator (a : Arguments) (key : Option String) (responses : List Response) :
    Except Mishap (Option Narrator) := do
  if a.has "--narrate" then
    let _ ← resolveKey none key
    return some ⟨.bundled, responses.map Response.reply, []⟩
  else return none

def start (now : Timestamp) (key : Option String) (responses : List Response) (a : Arguments) :
    Console Session := do
  let sc ← chosenScenario a
  let narrator ← chosenNarrator a key responses
  let s ← match a.value? "--load" with
    | some p => MonadExcept.ofExcept (Session.loadState (← files) (.ofText p))
    | none => pure (sc.start none)
  let g ← Session.resume sc s (some Session.defaultLimit) narrator now
  say sc.title
  if sc.description ≠ "" then say sc.description
  showPlace g
  return g

def ask : Console Unit := put "\n? "

/-- Plays the lines until the scenario ends, the player leaves or there are no more lines. -/
def rounds (g : Session) : List String → Console Session
  | [] => do
    if !g.isEnded then ask
    return g
  | line :: rest => do
    if g.isEnded then return g
    ask
    match ← answer g line with
    | some g => rounds g rest
    | none => return g

/-- The usage after so many prompts. -/
def usageOf (responses : List Response) (asked : Nat) : Usage :=
  let silent := List.replicate (asked - responses.length) Response.silence
  (responses.take asked ++ silent).foldl Usage.after .nothing

def usageLine (u : Usage) : Except Fault String := do
  return "Narration: " ++ u.completions.repr ++ " turns, " ++
    (← (Value.int u.totalInput).plain) ++ " input / " ++
    (← (Value.int u.output).plain) ++ " output tokens"

def completionLine (c : Completion) : String :=
  "  " ++ c.title ++ ": " ++ c.endingLabel ++ " (" ++ c.date ++ ")"

def finish (responses : List Response) (a : Arguments) (g : Session) : Console Unit := do
  if g.isEnded then
    say "\nThe scenario has ended."
    sayAll (g.state.player.history.map fun c => .ok (completionLine c))
  match a.value? "--save" with
  | some p =>
    let path := Path.ofText p
    let (saved, _) ← g.save (← files) path
    setFiles saved
    say ("State saved to " ++ path.text)
  | none => pure ()
  match g.narrator with
  | some n => sayAll [usageLine (usageOf responses n.prompts.length)]
  | none => pure ()

def run (program : String) (now : Timestamp) (key : Option String) (responses : List Response)
    (args lines : List String) : Console Nat :=
  command.serve (help program) args fun a => do
    let g ← start now key responses a
    let g ← rounds g lines
    finish responses a g
    return 0

end Storyworld.CommandLine.Play
