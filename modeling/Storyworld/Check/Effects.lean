import Storyworld.Check.Issue
import Storyworld.Condition.Eval
import Storyworld.Effect
import Storyworld.Pattern.Parser
import Storyworld.Text.Cut

/-!
Checks of conditions, of patterns and of lists of effects. Conditions and patterns are read only;
nothing is run.
-/

namespace Storyworld.Check

def condition (label path : String) : Value → Issues
  | .text s =>
    match Condition.parse s with
    | .ok _ => .ok []
    | .error (.malformed m) =>
      .ok [anError path (label ++ " " ++ Text.quoted s ++ " is not a valid expression: " ++
        m.message)]
    | .error (.fault f) => .error f
  | _ => .ok [anError path (label ++ " must be a string expression.")]

def pattern (label path : String) : Value → Issues
  | .text s =>
    match Pattern.compile s.toList with
    | .ok _ => .ok []
    | .error (.malformed m) =>
      .ok [anError path (label ++ " " ++ Text.quoted s ++ " is not a valid regular expression: " ++
        m.message s.toList)]
    | .error (.fault f) => .error f
  | _ => .ok [anError path (label ++ " must be a string.")]

/-- An optional sign and digits. -/
def isWholeText (cs : List Char) : Bool :=
  let body := (Decimal.splitSign cs).2
  !body.isEmpty && body.all Text.isDigit

def quotedPart (cs : List Char) : String :=
  Text.quoted (String.ofList cs)

/-- An amount to add to a track that has to exist. -/
def trackAmount (names : Names) (path track unknown amount : String) (raw : List Char) :
    List Issue :=
  demand (names.tracks.contains track) (anError path (unknown ++ " \"" ++ track ++ "\".")) ++
    demand (isWholeText raw) (anError path (amount ++ " " ++ quotedPart raw ++
      " is not an integer."))

/-- The value that a counter is set to. -/
def counterValue (path : String) (raw : List Char) : List Issue :=
  if ["true", "false"].contains (Decimal.lowerAscii raw) then []
  else
    match Decimal.readFloat? raw with
    | none => [anError path ("Counter value " ++ quotedPart raw ++
        " is neither a boolean nor a number.")]
    | some x => demand (Decimal.isFinite x) (anError path ("Counter value " ++ quotedPart raw ++
        " is not a finite number."))

def counterIssues (names : Names) (path key counter : String) (raw : List Char) : List Issue :=
  demand (names.counters.contains counter) (anError path
    ("Effect references unknown counter \"" ++ counter ++ "\" (not in initial.counters).")) ++
  if key = "add" then
    demand (isWholeText raw) (anError path ("add amount " ++ quotedPart raw ++
      " is not an integer."))
  else counterValue path raw

/-- What an action to add or to set refers to. -/
def changeTarget (names : Names) (path key : String) (target raw : List Char) : List Issue :=
  let (area, name) := Text.partAt '.' target
  let area := String.ofList area
  let name := String.ofList name
  if key = "add" ∧ area = "tracks" then
    trackAmount names path name "Effect references unknown track" "add amount" raw
  else if area ≠ "counters" then
    [anError path ("'" ++ key ++ "' cannot target " ++ quotedPart target ++ ".")]
  else counterIssues names path key name raw

/-- An action to add, to set or to move a track, with its target and its value apart. -/
def change (names : Names) (path key : String) (target raw : List Char) : List Issue :=
  let name := String.ofList target
  if key = "track" then
    trackAmount names path name "Track effect references unknown track" "Track delta" raw
  else if key = "set" ∧ name = "next_situation" then
    demand (names.situations.contains (String.ofList raw)) (aWarning path
      ("next_situation \"" ++ String.ofList raw ++
        "\" does not exist; the transition will never happen."))
  else if key = "set" ∧ name = "route" then []
  else changeTarget names path key target raw

def notAChange (path key : String) (v : Value) : Issues := do
  return [anError path ("'" ++ key ++ "' must look like \"<target>,<value>\" (got " ++
    (← v.shown) ++ ").")]

def isItem : Value → Bool
  | .mapping es => isPresent (fieldIn es "id") && isPresent (fieldIn es "name")
  | _ => false

/-- The value of the only action of an effect. -/
def action (names : Names) (path key : String) (v : Value) : Issues :=
  if key = "give_item" then
    .ok (demand (isItem v) (anError path "give_item needs an item object with 'id' and 'name'."))
  else if key = "add" ∨ key = "set" ∨ key = "track" then
    match v with
    | .text s =>
      match Text.cutAt ',' s.toList with
      | some (target, raw) => .ok (change names path key (Text.trim target) (Text.trim raw))
      | none => notAChange path key v
    | v => notAChange path key v
  else
    match v with
    | .text _ => .ok []
    | _ => .ok [anError path ("'" ++ key ++ "' must be a string.")]

def actionCount (path : String) (keys : List String) : Issue :=
  anError path ("Effect must have exactly one action key besides 'if'/'cap' (found " ++
    keys.length.repr ++ ": " ++ (if keys.isEmpty then "none" else String.intercalate ", " keys) ++
    ").")

def actions (names : Names) (path : String) (es : Entries) : List String → Issues
  | [key] => if actionKeys.contains key then action names path key (fieldIn es key) else .ok []
  | keys => .ok [actionCount path keys]

/-- A modifier, if it is written at all. -/
def modifier (es : Entries) (key : String) (check : Value → Issues) : Issues :=
  match lookupLast key es with
  | some v => check v
  | none => .ok []

def cap (path : String) (v : Value) : Issues := do
  return demand (← isNumber v) (anError path "'cap' must be a number.")

def effect (names : Names) (path : String) (isLast : Bool) : Value → Issues
  | .mapping es =>
    let keys := (es.map Prod.fst).filter fun k => !modifierKeys.contains k
    let unknown := keys.filter fun k => !actionKeys.contains k
    all [
      .ok (unknown.map fun k => anError path ("Unknown effect type \"" ++ k ++ "\".")),
      actions names path es keys,
      .ok (demand (isLast || !keys.contains "log") (anError path
        "'log' must be the last effect in its list.")),
      modifier es "if" (condition "Effect guard" path),
      modifier es "cap" (cap path)]
  | _ => .ok [anError path "Effect must be an object."]

def effectsFrom (names : Names) (path : String) : Nat → List Value → List Issues
  | _, [] => []
  | i, v :: rest =>
    effect names (path ++ "[" ++ i.repr ++ "]") rest.isEmpty v ::
      effectsFrom names path (i + 1) rest

def effects (names : Names) (path : String) : Value → Issues
  | .list vs => all (effectsFrom names path 0 vs)
  | _ => .ok [anError path "Effect block must be a list."]

end Storyworld.Check
