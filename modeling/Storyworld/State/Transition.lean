import Storyworld.State.Scope
import Storyworld.Timestamp

/-!
Moves from one situation to another at the end of a turn, and the record of an ending. Situations
that are entered on their own come first and cancel a move that was asked for.
-/

namespace Storyworld

/-- The first situation whose condition to enter it holds. -/
def firstEntered : List (String × Situation) → State → Noting Fault (Option String)
  | [], _ => pure none
  | (id, situation) :: rest, s => do
    let enters ← match situation.enterIf with
      | none => pure false
      | some c => if c = "" then pure false else s.holds c
    if enters then return some id else firstEntered rest s

def Scenario.autoEntered (sc : Scenario) (s : State) : Noting Fault (Option String) :=
  firstEntered sc.situations s

/-- The attributes that differ, in their order, each with its difference. -/
def attributeChanges (before after : Attributes) : List AttributeChange :=
  (before.fields.zip after.fields).filterMap fun (old, new) =>
    if new.2 = old.2 then none else some ⟨new.1, new.2 - old.2, old.2, new.2⟩

namespace State

def completion (sc : Scenario) (situation : Situation) (now : Timestamp) (s : State) :
    Completion :=
  { scenarioId := sc.id
    title := sc.title
    date := now.text
    endingId := s.situation
    endingLabel := situation.label
    attributeChanges := attributeChanges (s.baseline.getD .initial) s.player.attributes
    finalAttributes := s.player.attributes }

def hasCompleted (s : State) (id : String) : Bool :=
  s.player.history.any fun c => c.scenarioId == id

def addCompletion (s : State) (c : Completion) : State :=
  { s with player := { s.player with history := s.player.history ++ [c] } }

/-- Records an ending, once for every scenario. -/
def recordEnding (sc : Scenario) (now : Timestamp) (s : State) : State :=
  match sc.situation? s.situation with
  | some situation =>
    if situation.ending && !s.hasCompleted sc.id then
      s.addCompletion (s.completion sc situation now)
    else s
  | none => s

def moveTo (s : State) (id : String) : State :=
  { s with situation := id, nextSituation := none }

/-- The situation that was asked for, if it exists and has a name. -/
def pending? (sc : Scenario) (s : State) : Option String :=
  match s.nextSituation with
  | some id => if id ≠ "" ∧ (sc.situation? id).isSome then some id else none
  | none => none

/-- Moves to another situation at most once, and tells whether it did. -/
def resolve (sc : Scenario) (now : Timestamp) (s : State) : Noting Fault (State × Bool) := do
  match ← sc.autoEntered s with
  | some id => return ((s.moveTo id).recordEnding sc now, true)
  | none =>
    match s.pending? sc with
    | some id => return ((s.moveTo id).recordEnding sc now, true)
    | none => return (s, false)

end State

end Storyworld
