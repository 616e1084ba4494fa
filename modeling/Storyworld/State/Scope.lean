import Storyworld.Condition.Eval
import Storyworld.Notice
import Storyworld.State.Document

/-!
Conditions on a state. They see the counters, the tracks, the route and the player. A condition
that has no truth value does not hold, and a warning says why.
-/

namespace Storyworld

/-- A completion as conditions see it. -/
def Completion.scopeValue (c : Completion) : Value :=
  .mapping [
    ("rules_id", .text c.scenarioId),
    ("title", .text c.title),
    ("completion_date", .text c.date),
    ("ending_situation_id", .text c.endingId),
    ("ending_situation_label", .text c.endingLabel),
    ("attribute_changes",
      .list (c.attributeChanges.map fun a => .mapping (a.fields "old_value" "new_value"))),
    ("final_attributes", c.finalAttributes.toValue)]

/-- A player as conditions see one. -/
def Player.scopeValue (p : Player) : Value :=
  .mapping [
    ("name", .text p.name),
    ("identity", .text p.identity),
    ("language", .text p.language.name),
    ("attributes", p.attributes.toValue),
    ("equipment", p.equipment.toValue),
    ("inventory", .list (p.inventory.map Item.toValue)),
    ("history", .list (p.history.map Completion.scopeValue))]

namespace State

def scope (s : State) : Condition.Scope := [
    ("counters", countersValue s.counters),
    ("tracks", tracksValue s.tracks),
    ("route", .ofTextOption s.route),
    ("player", s.player.scopeValue)]

/-- The wording of a condition's trouble; none for a fault, which no condition handles. -/
def troubleText : Condition.Trouble → Except Fault String
  | .malformed m => .ok m.message
  | .failed message => .ok message
  | .fault f => .error f

/-- Whether a condition holds in a state. -/
def holds (condition : String) (s : State) : Noting Fault Bool :=
  match Condition.truthIn s.scope condition with
  | .ok b => pure b
  | .error t =>
    match troubleText t with
    | .ok message => do
      warn ("Error evaluating condition " ++ Text.quoted condition ++ ": " ++ message)
      return false
    | .error f => throw f

/-- An absent or empty condition asks for nothing. -/
def allows (condition : Option String) (s : State) : Noting Fault Bool :=
  match condition with
  | none => pure true
  | some c => if c = "" then pure true else s.holds c

end State

end Storyworld
