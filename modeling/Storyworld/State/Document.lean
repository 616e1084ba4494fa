import Storyworld.Json.Reader
import Storyworld.Json.Writer
import Storyworld.Scenario.Document
import Storyworld.State.Basic

/-!
States as documents and as save files.
-/

namespace Storyworld

open Schema

namespace Attributes

def read : Reader Attributes :=
  model fun es => Attributes.mk
    <$> optional es ["strength"] 10 whole
    <*> optional es ["dexterity"] 10 whole
    <*> optional es ["constitution"] 10 whole
    <*> optional es ["intelligence"] 10 whole
    <*> optional es ["wisdom"] 10 whole
    <*> optional es ["charisma"] 10 whole

def toValue (a : Attributes) : Value :=
  .mapping (a.fields.map fun f => (f.1, .int f.2))

end Attributes

namespace Equipment

def read : Reader Equipment :=
  model fun es => Equipment.mk
    <$> textOption es ["top"]
    <*> textOption es ["bottom"]
    <*> textOption es ["underwear"]
    <*> textOption es ["panties"]
    <*> textOption es ["shoes"]
    <*> textOption es ["socks"]
    <*> textOption es ["accessory"]

def toValue (e : Equipment) : Value :=
  .mapping (e.fields.map fun f => (f.1, .ofTextOption f.2))

end Equipment

namespace AttributeChange

def read : Reader AttributeChange :=
  model fun es => AttributeChange.mk
    <$> required es ["attribute"] text
    <*> required es ["change"] whole
    <*> required es ["oldValue", "old_value"] whole
    <*> required es ["newValue", "new_value"] whole

/-- The names of the last two fields differ between documents and conditions. -/
def fields (oldName newName : String) (c : AttributeChange) : Entries := [
    ("attribute", .text c.name),
    ("change", .int c.change),
    (oldName, .int c.oldValue),
    (newName, .int c.newValue)]

def toValue (c : AttributeChange) : Value :=
  .mapping (c.fields "oldValue" "newValue")

end AttributeChange

namespace Completion

def read : Reader Completion :=
  model fun es => Completion.mk
    <$> required es ["rulesId", "rules_id"] text
    <*> required es ["title"] text
    <*> required es ["completionDate", "completion_date"] text
    <*> required es ["endingSituationId", "ending_situation_id"] text
    <*> required es ["endingSituationLabel", "ending_situation_label"] text
    <*> optional es ["attributeChanges", "attribute_changes"] [] (list AttributeChange.read)
    <*> required es ["finalAttributes", "final_attributes"] Attributes.read

def toValue (c : Completion) : Value :=
  .mapping [
    ("rulesId", .text c.scenarioId),
    ("title", .text c.title),
    ("completionDate", .text c.date),
    ("endingSituationId", .text c.endingId),
    ("endingSituationLabel", .text c.endingLabel),
    ("attributeChanges", .list (c.attributeChanges.map AttributeChange.toValue)),
    ("finalAttributes", c.finalAttributes.toValue)]

end Completion

namespace Player

def read : Reader Player :=
  model fun es => Player.mk
    <$> optional es ["name"] "Player" text
    <*> optional es ["identity"] "An adventurer" text
    <*> optional es ["language"] .en (choice Language.names)
    <*> optional es ["attributes"] .initial Attributes.read
    <*> optional es ["equipment"] .nothing Equipment.read
    <*> optional es ["inventory"] [] (list Item.read)
    <*> optional es ["history"] [] (list Completion.read)

def toValue (p : Player) : Value :=
  .mapping [
    ("name", .text p.name),
    ("identity", .text p.identity),
    ("language", .text p.language.name),
    ("attributes", p.attributes.toValue),
    ("equipment", p.equipment.toValue),
    ("inventory", .list (p.inventory.map Item.toValue)),
    ("history", .list (p.history.map Completion.toValue))]

end Player

namespace Track

def read : Reader Track :=
  model fun es => Track.mk
    <$> required es ["name"] text
    <*> required es ["value"] number
    <*> required es ["max"] number

def toValue (t : Track) : Value :=
  .mapping [("name", .text t.name), ("value", t.value.toValue), ("max", t.max.toValue)]

end Track

namespace Change

def read : Reader Change :=
  model fun es => Change.mk
    <$> required es ["id"] text
    <*> required es ["name"] text
    <*> required es ["delta"] number
    <*> required es ["icon"] text
    <*> required es ["color"] text

def toValue (c : Change) : Value :=
  .mapping [
    ("id", .text c.id),
    ("name", .text c.name),
    ("delta", c.delta.toValue),
    ("icon", .text c.icon),
    ("color", .text c.color)]

end Change

namespace LogEntry

def read : Reader LogEntry :=
  model fun es => LogEntry.mk
    <$> required es ["id"] whole
    <*> required es ["type"] (choice LogKind.names)
    <*> required es ["message"] text
    <*> textOption es ["actor"]
    <*> optional es ["changes"] none (nullable (list Change.read))

def toValue (e : LogEntry) : Value :=
  .mapping [
    ("id", .int e.id),
    ("type", .text e.kind.name),
    ("message", .text e.message),
    ("actor", .ofTextOption e.actor),
    ("changes", .ofOption (fun cs => .list (cs.map Change.toValue)) e.changes)]

end LogEntry

def tracksValue (ts : Tracks) : Value :=
  .mapping (ts.map fun t => (t.1, t.2.toValue))

namespace State

def read : Reader State :=
  model fun es => State.mk
    <$> required es ["situation"] text
    <*> optional es ["counters"] [] (mapping Counter.read)
    <*> optional es ["tracks"] [] (mapping Track.read)
    <*> optional es ["log"] [] (list LogEntry.read)
    <*> textOption es ["route"]
    <*> textOption es ["next_situation"]
    <*> optional es ["player"] (.newcomer .en) Player.read
    <*> optional es ["playerBaseline", "player_baseline"] none (nullable Attributes.read)
    <*> optional es ["knownTargets", "known_targets"] [] (list text)
    <*> optional es ["sceneDescriptions", "scene_descriptions"] [] (mapping text)

def toValue (s : State) : Value :=
  .mapping [
    ("situation", .text s.situation),
    ("counters", countersValue s.counters),
    ("tracks", tracksValue s.tracks),
    ("log", .list (s.log.map LogEntry.toValue)),
    ("route", .ofTextOption s.route),
    ("next_situation", .ofTextOption s.nextSituation),
    ("player", s.player.toValue),
    ("playerBaseline", .ofOption Attributes.toValue s.baseline),
    ("knownTargets", .list (s.knownTargets.map .text)),
    ("sceneDescriptions", .mapping (s.sceneDescriptions.map fun d => (d.1, .text d.2)))]

/-- The text of a save file. -/
def toSave (indent : Option Nat) (s : State) : String :=
  Json.write (Json.saveFormat indent) s.toValue

def ofSave (text : String) : Checked State :=
  match Json.readSave? text with
  | some v => read v
  | none => .misfit .document

/-- Whether two states hold the same values. -/
def same (s t : State) : Bool :=
  s.toValue.same t.toValue

end State

end Storyworld
