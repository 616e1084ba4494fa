import Storyworld.State.Effects
import Storyworld.State.Matching
import Storyworld.State.Transition

/-!
One turn of play. An action runs the effects of the first rule that answers it; consequences run
effects directly, without lines of the story. Either way the turn ends with at most one move.
-/

namespace Storyworld

structure TurnResult where
  state : State
  /-- The lines of the story, in order. -/
  lines : List String
  /-- The place of the rule that fired. -/
  rule : Option Nat
  moved : Bool

/-- Log entries for lines, numbered from `first`. -/
def proceduralEntries (first : Int) : List String → List LogEntry
  | [] => []
  | line :: rest => ⟨first, .procedural, line, none, none⟩ :: proceduralEntries (first + 1) rest

def TurnResult.entries (r : TurnResult) (before : State) : List LogEntry :=
  proceduralEntries before.nextLogId r.lines

def undefinedSituation (sc : Scenario) (s : State) (actionId : String) : String :=
  "Situation " ++ Text.quoted s.situation ++ " is not defined in rules " ++ Text.quoted sc.id ++
    "; action " ++ Text.quoted actionId ++ " ignored"

namespace State

/-- The end of a turn that has run some effects. -/
def finish (sc : Scenario) (now : Timestamp) (rule : Option Nat) (r : State × List String) :
    Noting Fault TurnResult := do
  let (state, moved) ← r.1.resolve sc now
  return ⟨state, r.2, rule, moved⟩

/-- The effects of the rule that answers an action. -/
def answer (situation : Situation) (actionId : String) (target : Option String) (success : Bool)
    (s : State) : Noting Fault (Option Nat × State × List String) := do
  match ← situation.ruleFor actionId target s with
  | none => return (none, s, [])
  | some (i, rule) => return (some i, ← s.applyEffects true (rule.effectsFor success))

/-- A turn for an action of the player. In an undefined situation nothing happens. -/
def act (sc : Scenario) (now : Timestamp) (actionId : String) (target : Option String)
    (success : Bool) (s : State) : Noting Fault TurnResult :=
  match sc.situation? s.situation with
  | none => do
    warn (undefinedSituation sc s actionId)
    return ⟨s, [], none, false⟩
  | some situation => do
    let (rule, r) ← s.answer situation actionId target success
    finish sc now rule r

end State

/-- Why a turn could not be finished. -/
inductive TurnFailure where
  | fault (f : Fault)
  | misfits (ms : List Schema.Misfit)

namespace State

/-- Effects of consequences, read all before the first is run. -/
def readEffects (vs : List Value) : Except (List Schema.Misfit) (List Effect) :=
  vs.mapM fun v => (Effect.read v).toExcept

def applyLists : List (List Value) → State → Noting TurnFailure (State × List String)
  | [], s => pure (s, [])
  | vs :: rest, s => do
    let effects ← Noting.ofExcept ((readEffects vs).mapError .misfits)
    let (s, lines) ← (s.applyEffects false effects).adapt .fault
    let (s, more) ← applyLists rest s
    return (s, lines ++ more)

/-- A turn for lists of effects that follow from something outside the rules. -/
def applyConsequences (sc : Scenario) (now : Timestamp) (lists : List (List Value)) (s : State) :
    Noting TurnFailure TurnResult := do
  let r ← s.applyLists lists
  (finish sc now none r).adapt .fault

end State

end Storyworld
