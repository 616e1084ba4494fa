import Storyworld.State.Turn

/-!
Consequences that are loaded effects or effects still written in documents, in any mixture. A list
of them is read before the first one is run.
-/

namespace Storyworld

inductive Consequence where
  | loaded (e : Effect)
  | document (v : Value)

def Consequence.read : Consequence → Except (List Schema.Misfit) Effect
  | loaded e => .ok e
  | document v => (Effect.read v).toExcept

def readConsequences (cs : List Consequence) : Except (List Schema.Misfit) (List Effect) :=
  cs.mapM Consequence.read

namespace State

def followLists : List (List Consequence) → State → Noting TurnFailure (State × List String)
  | [], s => pure (s, [])
  | cs :: rest, s => do
    let effects ← Noting.ofExcept ((readConsequences cs).mapError .misfits)
    let (s, lines) ← (s.applyEffects false effects).adapt .fault
    let (s, more) ← followLists rest s
    return (s, lines ++ more)

/-- A turn for lists of consequences. -/
def follow (sc : Scenario) (now : Timestamp) (lists : List (List Consequence)) (s : State) :
    Noting TurnFailure TurnResult := do
  let r ← s.followLists lists
  (finish sc now none r).adapt .fault

end State

end Storyworld
