import Storyworld.Scenario.Basic

/-!
Scenarios as documents.
-/

namespace Storyworld

open Schema

def recordOf (fields : Entries) : Value :=
  .mapping (Value.presentEntries fields)

def textOption (es : Entries) (names : List String) : Checked (Option String) :=
  optional es names none (nullable text)

namespace ActionDetail

def read : Reader ActionDetail :=
  model fun es => ActionDetail.mk
    <$> required es ["label"] text
    <*> required es ["icon"] text
    <*> textOption es ["description"]

def toValue (d : ActionDetail) : Value :=
  recordOf [
    ("label", .text d.label),
    ("icon", .text d.icon),
    ("description", .ofTextOption d.description)]

end ActionDetail

namespace TrackDefinition

def read : Reader TrackDefinition :=
  model fun es => TrackDefinition.mk
    <$> required es ["name"] text
    <*> required es ["value"] whole
    <*> required es ["max"] whole

def toValue (t : TrackDefinition) : Value :=
  recordOf [("name", .text t.name), ("value", .int t.value), ("max", .int t.max)]

end TrackDefinition

namespace Opening

def read : Reader Opening :=
  model fun es => Opening.mk
    <$> required es ["situation"] text
    <*> optional es ["counters"] [] (mapping Counter.read)
    <*> optional es ["inventory"] [] (list Item.read)

def toValue (o : Opening) : Value :=
  recordOf [
    ("situation", .text o.situation),
    ("counters", countersValue o.counters),
    ("inventory", .list (o.inventory.map fun i => recordOf i.fields))]

end Opening

namespace Trigger

def read : Reader Trigger :=
  model fun es => Trigger.mk
    <$> required es ["actionId", "action_id"] text
    <*> textOption es ["targetPattern", "target_pattern"]
    <*> textOption es ["textRegex", "text_regex"]
    <*> textOption es ["require"]

def toValue (t : Trigger) : Value :=
  recordOf [
    ("actionId", .text t.actionId),
    ("targetPattern", .ofTextOption t.targetPattern),
    ("textRegex", .ofTextOption t.textPattern),
    ("require", .ofTextOption t.require)]

end Trigger

def effectsValue (es : List Effect) : Value :=
  .list (es.map Effect.toValue)

namespace Rule

def read : Reader Rule :=
  model fun es => Rule.mk
    <$> required es ["when"] Trigger.read
    <*> optional es ["do", "do_"] [] (list Effect.read)
    <*> optional es ["fail"] none (nullable (list Effect.read))

def toValue (r : Rule) : Value :=
  recordOf [
    ("when", r.trigger.toValue),
    ("do", effectsValue r.effects),
    ("fail", .ofOption effectsValue r.failure)]

end Rule

namespace Situation

def read : Reader Situation :=
  model fun es => Situation.mk
    <$> required es ["label"] text
    <*> textOption es ["description"]
    <*> optional es ["allowed_actions"] [] (list text)
    <*> optional es ["on_action"] [] (list Rule.read)
    <*> textOption es ["auto_enter_if"]
    <*> optional es ["ending"] false truth

def toValue (s : Situation) : Value :=
  recordOf [
    ("label", .text s.label),
    ("description", .ofTextOption s.description),
    ("allowed_actions", .list (s.allowedActions.map .text)),
    ("on_action", .list (s.rules.map Rule.toValue)),
    ("auto_enter_if", .ofTextOption s.enterIf),
    ("ending", .bool s.ending)]

end Situation

namespace TrackStyle

def read : Reader TrackStyle :=
  model fun es => TrackStyle.mk
    <$> required es ["icon"] text
    <*> required es ["color"] text
    <*> textOption es ["progressColor", "progress_color"]

def toValue (s : TrackStyle) : Value :=
  recordOf [
    ("icon", .text s.icon),
    ("color", .text s.color),
    ("progressColor", .ofTextOption s.progressColor)]

end TrackStyle

namespace Hints

def read : Reader Hints :=
  model fun es => Hints.mk
    <$> optional es ["counterIcons", "counter_icons"] [] (mapping text)
    <*> optional es ["trackStyles", "track_styles"] [] (mapping TrackStyle.read)

def toValue (h : Hints) : Value :=
  recordOf [
    ("counterIcons", .mapping (h.counterIcons.map fun e => (e.1, .text e.2))),
    ("trackStyles", .mapping (h.trackStyles.map fun e => (e.1, e.2.toValue)))]

end Hints

namespace Scenario

def read : Reader Scenario :=
  model fun es => Scenario.mk
    <$> optional es ["version"] 1 whole
    <*> required es ["id"] text
    <*> required es ["title"] text
    <*> optional es ["description"] "" text
    <*> optional es ["language"] .en (choice Language.names)
    <*> textOption es ["theme"]
    <*> required es ["actions"] (mapping ActionDetail.read)
    <*> required es ["initial"] Opening.read
    <*> optional es ["tracks"] [] (mapping TrackDefinition.read)
    <*> required es ["situations"] (mapping Situation.read)
    <*> optional es ["ui"] none (nullable Hints.read)

def toValue (s : Scenario) : Value :=
  recordOf [
    ("version", .int s.version),
    ("id", .text s.id),
    ("title", .text s.title),
    ("description", .text s.description),
    ("language", .text s.language.name),
    ("theme", .ofTextOption s.theme),
    ("actions", .mapping (s.actions.map fun e => (e.1, e.2.toValue))),
    ("initial", s.opening.toValue),
    ("tracks", .mapping (s.tracks.map fun e => (e.1, e.2.toValue))),
    ("situations", .mapping (s.situations.map fun e => (e.1, e.2.toValue))),
    ("ui", .ofOption Hints.toValue s.hints)]

end Scenario

end Storyworld
