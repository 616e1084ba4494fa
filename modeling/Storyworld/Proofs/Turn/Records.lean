import Storyworld.Proofs.Results
import Storyworld.State.Changes
import Storyworld.State.Turn

/-!
The log and the scene texts are records: sessions and narrators write them, and a turn neither reads
nor changes them. So a turn of a state with other records is the same turn with those records, with
the same lines, notices and failures.
-/

namespace Storyworld

open Noting

namespace State

/-- The same state with another log and with other scene texts. -/
def withRecords (log : List LogEntry) (scenes : List (String × String)) (s : State) : State :=
  { s with log := log, sceneDescriptions := scenes }

/-- A state without its log and its scene texts. -/
def bare : State → State :=
  withRecords [] []

variable (log : List LogEntry) (scenes : List (String × String))

theorem holds_withRecords (c : String) (s : State) :
    (s.withRecords log scenes).holds c = s.holds c := rfl

theorem allows_withRecords (c : Option String) (s : State) :
    (s.withRecords log scenes).allows c = s.allows c := rfl

theorem addToCounter_withRecords (s : State) (key : String) (delta : Int) (cap : Option Number) :
    (s.withRecords log scenes).addToCounter key delta cap =
      (s.addToCounter key delta cap).map (withRecords log scenes) := by
  simp only [addToCounter, withRecords]
  split
  · rename_i n _
    cases n.add (.int delta) <;> rfl
  · rfl

theorem shiftTrack_withRecords (s : State) (key : String) (delta : Int) (cap : Option Number) :
    (s.withRecords log scenes).shiftTrack key delta cap =
      (s.shiftTrack key delta cap).map (withRecords log scenes) := by
  simp only [shiftTrack, withRecords]
  split
  · rename_i t _
    cases t.value.add (.int delta) <;> rfl
  · rfl

theorem doAdd_withRecords (s : State) (raw : String) (cap : Option Number) :
    (s.withRecords log scenes).doAdd raw cap = withRecords log scenes <$> s.doAdd raw cap := by
  unfold doAdd
  split
  · rfl
  · dsimp only
    split
    · rw [addToCounter_withRecords, ofExcept_map]
    · split
      · rw [shiftTrack_withRecords, ofExcept_map]
      · rfl

theorem setCounterTo_withRecords (s : State) (key : String) (raw : List Char)
    (cap : Option Number) :
    (s.withRecords log scenes).setCounterTo key raw cap =
      withRecords log scenes <$> s.setCounterTo key raw cap := by
  simp only [setCounterTo, withRecords]
  split
  · rfl
  · split <;> rfl

theorem doSet_withRecords (s : State) (raw : String) (cap : Option Number) :
    (s.withRecords log scenes).doSet raw cap = withRecords log scenes <$> s.doSet raw cap := by
  unfold doSet
  split
  · rfl
  · split
    · rfl
    · split
      · rfl
      · dsimp only
        split
        · exact setCounterTo_withRecords ..
        · rfl

theorem doTrack_withRecords (s : State) (raw : String) (cap : Option Number) :
    (s.withRecords log scenes).doTrack raw cap =
      withRecords log scenes <$> s.doTrack raw cap := by
  unfold doTrack
  split
  · rfl
  · rw [shiftTrack_withRecords, ofExcept_map]

theorem learnTarget_withRecords (s : State) (name : String) :
    (s.withRecords log scenes).learnTarget name =
      (s.learnTarget name).withRecords log scenes := by
  have known : (s.withRecords log scenes).knownTargets = s.knownTargets := rfl
  simp only [learnTarget, known]
  split <;> rfl

theorem doAction_withRecords (s : State) (a : Action) (cap : Option Number) :
    (s.withRecords log scenes).doAction a cap =
      withRecords log scenes <$> s.doAction a cap := by
  cases a with
  | add raw => exact doAdd_withRecords log scenes s raw cap
  | set raw => exact doSet_withRecords log scenes s raw cap
  | track raw => exact doTrack_withRecords log scenes s raw cap
  | addKnownTarget name =>
    simp only [doAction, learnTarget_withRecords]
    rfl
  | _ => rfl

theorem applyEffect_withRecords (narrative : Bool) (e : Effect) (s : State) :
    (s.withRecords log scenes).applyEffect narrative e =
      (fun p => (p.1.withRecords log scenes, p.2)) <$> s.applyEffect narrative e := by
  unfold applyEffect
  rw [allows_withRecords, map_bind]
  congr 1
  funext runs
  split
  · rfl
  · split
    · rfl
    · rw [doAction_withRecords, bind_map_left, map_bind]
      rfl

theorem applyEffects_withRecords (narrative : Bool) (es : List Effect) (s : State) :
    (s.withRecords log scenes).applyEffects narrative es =
      (fun p => (p.1.withRecords log scenes, p.2)) <$> s.applyEffects narrative es := by
  induction es generalizing s with
  | nil => rfl
  | cons e rest ih =>
    simp only [applyEffects, applyEffect_withRecords, bind_map_left, map_bind, ih]
    rfl

end State

theorem fires_withRecords (log : List LogEntry) (scenes : List (String × String)) (t : Trigger)
    (actionId : String) (target : Option String) (s : State) :
    t.fires actionId target (s.withRecords log scenes) = t.fires actionId target s := rfl

theorem firstFiring_withRecords (log : List LogEntry) (scenes : List (String × String))
    (actionId : String) (target : Option String) (s : State) (i : Nat) (rules : List Rule) :
    firstFiring actionId target (s.withRecords log scenes) i rules =
      firstFiring actionId target s i rules := by
  induction rules generalizing i with
  | nil => rfl
  | cons r rest ih => simp only [firstFiring, fires_withRecords, ih]

theorem firstEntered_withRecords (log : List LogEntry) (scenes : List (String × String))
    (situations : List (String × Situation)) (s : State) :
    firstEntered situations (s.withRecords log scenes) = firstEntered situations s := by
  induction situations with
  | nil => rfl
  | cons e rest ih => simp only [firstEntered, State.holds_withRecords, ih]

/-- A turn with the records of its state exchanged. -/
def TurnResult.withRecords (log : List LogEntry) (scenes : List (String × String))
    (r : TurnResult) : TurnResult :=
  { r with state := r.state.withRecords log scenes }

namespace State

variable (log : List LogEntry) (scenes : List (String × String))

theorem recordEnding_withRecords (sc : Scenario) (now : Timestamp) (s : State) :
    (s.withRecords log scenes).recordEnding sc now =
      (s.recordEnding sc now).withRecords log scenes := by
  have here : (s.withRecords log scenes).situation = s.situation := rfl
  have completed : (s.withRecords log scenes).hasCompleted sc.id = s.hasCompleted sc.id := rfl
  simp only [recordEnding, here, completed]
  split
  · split <;> rfl
  · rfl

theorem resolve_withRecords (sc : Scenario) (now : Timestamp) (s : State) :
    (s.withRecords log scenes).resolve sc now =
      (fun p => (p.1.withRecords log scenes, p.2)) <$> s.resolve sc now := by
  have moved (id : String) : (s.withRecords log scenes).moveTo id =
      (s.moveTo id).withRecords log scenes := rfl
  have asked : (s.withRecords log scenes).pending? sc = s.pending? sc := rfl
  simp only [resolve, Scenario.autoEntered, firstEntered_withRecords, map_bind, moved, asked,
    recordEnding_withRecords]
  congr 1
  funext entered
  split
  · rfl
  · split <;> rfl

theorem finish_withRecords (sc : Scenario) (now : Timestamp) (rule : Option Nat)
    (s : State) (lines : List String) :
    finish sc now rule (s.withRecords log scenes, lines) =
      TurnResult.withRecords log scenes <$> finish sc now rule (s, lines) := by
  simp only [finish, resolve_withRecords, bind_map_left, map_bind]
  rfl

theorem answer_withRecords (situation : Situation) (actionId : String) (target : Option String)
    (success : Bool) (s : State) :
    (s.withRecords log scenes).answer situation actionId target success =
      (fun p => (p.1, p.2.1.withRecords log scenes, p.2.2)) <$>
        s.answer situation actionId target success := by
  simp only [answer, Situation.ruleFor, firstFiring_withRecords, map_bind]
  congr 1
  funext found
  split
  · rfl
  · rw [applyEffects_withRecords, bind_map_left, map_bind]
    rfl

/-- An action is the same whatever the log and the scene texts are, and leaves them alone. -/
theorem act_withRecords (sc : Scenario) (now : Timestamp) (actionId : String)
    (target : Option String) (success : Bool) (s : State) :
    (s.withRecords log scenes).act sc now actionId target success =
      TurnResult.withRecords log scenes <$> s.act sc now actionId target success := by
  have here : (s.withRecords log scenes).situation = s.situation := rfl
  simp only [act, here]
  split
  · rfl
  · rw [answer_withRecords, bind_map_left, map_bind]
    congr 1
    funext p
    exact finish_withRecords log scenes sc now p.1 p.2.1 p.2.2

theorem applyLists_withRecords (lists : List (List Value)) (s : State) :
    (s.withRecords log scenes).applyLists lists =
      (fun p => (p.1.withRecords log scenes, p.2)) <$> s.applyLists lists := by
  induction lists generalizing s with
  | nil => rfl
  | cons vs rest ih =>
    simp only [applyLists, applyEffects_withRecords, adapt_map, bind_map_left, map_bind, ih]
    rfl

/-- Consequences too are the same whatever the log and the scene texts are. -/
theorem applyConsequences_withRecords (sc : Scenario) (now : Timestamp)
    (lists : List (List Value)) (s : State) :
    (s.withRecords log scenes).applyConsequences sc now lists =
      TurnResult.withRecords log scenes <$> s.applyConsequences sc now lists := by
  simp only [applyConsequences, applyLists_withRecords, bind_map_left, map_bind]
  congr 1
  funext p
  rw [finish_withRecords, adapt_map]

end State

/-- The changes between two states are in their counters and tracks only. -/
theorem changesBetween_bare (sc : Scenario) (s t : State) :
    changesBetween sc s.bare t.bare = changesBetween sc s t := rfl

end Storyworld
