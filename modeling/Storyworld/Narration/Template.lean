import Storyworld.Mishap
import Storyworld.State.Turn
import Storyworld.Text.Cut

/-!
Prompts for narration: what is told about an action, and templates with places for it.
-/

namespace Storyworld.Narration

structure Request where
  language : Language
  situationLabel : String
  sceneDescription : String
  actionTaken : String
  proceduralLogs : List String
  knownTargets : List String
  deriving Repr, DecidableEq

namespace Request

open Schema

def read : Reader Request :=
  model fun es => Request.mk
    <$> optional es ["language"] .en (choice Language.names)
    <*> required es ["situation_label"] text
    <*> optional es ["scene_description"] "" text
    <*> required es ["action_taken"] text
    <*> optional es ["procedural_logs"] [] (list text)
    <*> optional es ["known_targets"] [] (list text)

def toValue (r : Request) : Value :=
  .mapping [
    ("language", .text r.language.name),
    ("situation_label", .text r.situationLabel),
    ("scene_description", .text r.sceneDescription),
    ("action_taken", .text r.actionTaken),
    ("procedural_logs", .list (r.proceduralLogs.map .text)),
    ("known_targets", .list (r.knownTargets.map .text))]

/-- The request for a turn. Situation and scene are those in which the action was taken, the targets
those that are known after it. -/
def ofTurn (sc : Scenario) (before : State) (r : TurnResult) (actionId : String)
    (target : Option String) : Request :=
  let situation := sc.situation? before.situation
  let scene := match lookupLast before.situation before.sceneDescriptions with
    | some s => some s
    | none => situation.bind Situation.description
  let label := sc.actionLabel actionId
  { language := sc.language
    situationLabel := (situation.map Situation.label).getD before.situation
    sceneDescription := scene.getD ""
    actionTaken := match target.filter (· ≠ "") with
      | some t => label ++ " " ++ t
      | none => label
    proceduralLogs := r.lines
    knownTargets := r.state.knownTargets }

/-- What templates can name: everything but the language. -/
def texts? (r : Request) : String → Option String
  | "situation_label" => some r.situationLabel
  | "scene_description" => some r.sceneDescription
  | "action_taken" => some r.actionTaken
  | _ => none

def lists? (r : Request) : String → Option (List String)
  | "procedural_logs" => some r.proceduralLogs
  | "known_targets" => some r.knownTargets
  | _ => none

end Request

inductive Part where
  | text (s : String)
  | value (name : String)
  /-- A line for each text of a list, or another line if there is none. -/
  | each (name otherwise : String)
  deriving Repr, DecidableEq

abbrev Template := List Part

def Part.render (r : Request) : Part → Except Mishap String
  | text s => .ok s
  | value name =>
    match r.texts? name, r.lists? name with
    | some s, _ => .ok s
    | none, some ss => .ok (shownNames ss)
    | none, none => .error (.undefinedName name)
  | each name otherwise =>
    match r.lists? name with
    | some [] => .ok otherwise
    | some ss => .ok (String.join (ss.map fun s => "- " ++ s ++ "\n"))
    | none => .error (.undefinedName name)

def render (t : Template) (r : Request) : Except Mishap String :=
  (t.mapM (Part.render r)).map String.join

/-- A template from a text in which names stand between double braces. -/
def templateOf : Nat → List Char → Template
  | 0, cs => [.text (String.ofList cs)]
  | fuel + 1, cs =>
    match splitMark ['\x7b', '\x7b'] cs with
    | none => [.text (String.ofList cs)]
    | some (before, rest) =>
      match splitMark ['\x7d', '\x7d'] rest with
      | none => [.text (String.ofList cs)]
      | some (name, rest) =>
        .text (String.ofList before) :: .value (String.ofList (Text.trim name)) ::
          templateOf fuel rest
where
  splitMark (mark : List Char) : List Char → Option (List Char × List Char)
    | [] => none
    | c :: cs =>
      match Text.stripLeading mark (c :: cs) with
      | some rest => some ([], rest)
      | none => (splitMark mark cs).map fun p => (c :: p.1, p.2)

/-- Where templates come from. -/
inductive Templates where
  | bundled
  /-- The texts of a folder, by file name. -/
  | folder (name : String) (files : List (String × String))

def templateName (l : Language) : String :=
  "action_narrative." ++ l.name ++ ".j2"

end Storyworld.Narration
