import Storyworld.Check.Effects
import Storyworld.Scenario.Document

/-!
The check of a whole document. It works on the plain value, so that a document that cannot be
loaded is reported on too. If a field at the top is missing or of the wrong kind, only such issues
are reported.
-/

namespace Storyworld.Check

def requiredFields : List String :=
  ["id", "title", "language", "actions", "initial", "tracks", "situations"]

def isMapping : Value → Bool
  | .mapping _ => true
  | _ => false

def entriesOf : Value → Entries
  | .mapping es => es
  | _ => []

/-- Issues of the fields at the top. -/
def shape (doc : Entries) : List Issue :=
  (requiredFields.flatMap fun field => demand (isPresent (fieldIn doc field))
    (anError field ("Missing required top-level field: \"" ++ field ++ "\"."))) ++
  (["actions", "tracks", "situations"].flatMap fun field =>
    let v := fieldIn doc field
    demand (!isPresent v || isMapping v)
      (anError field ("Top-level field \"" ++ field ++ "\" must be an object.")))

def namesOf (doc : Entries) : Names :=
  let keys (v : Value) := (entriesOf v).map Prod.fst
  { actions := keys (fieldIn doc "actions")
    tracks := keys (fieldIn doc "tracks")
    situations := keys (fieldIn doc "situations")
    counters := keys (fieldIn (entriesOf (fieldIn doc "initial")) "counters") }

def isEnding : Value → Bool
  | .mapping es =>
    match fieldIn es "ending" with
    | .bool b => b
    | _ => false
  | _ => false

def endings (situations : Entries) : List Issue :=
  if situations.any fun s => isEnding s.2 then []
  else [⟨.warning, "No ending situation found. The game will not be able to conclude.", none⟩]

def missingFields (path title : String) (es : Entries) (fields : List String) : List Issue :=
  fields.flatMap fun field => demand (isPresent (fieldIn es field))
    (anError path (title ++ " is missing required field \"" ++ field ++ "\"."))

def actionDetail (id : String) (v : Value) : List Issue :=
  let path := "actions." ++ id
  let title := "Action \"" ++ id ++ "\""
  match v with
  | .mapping es => missingFields path title es ["label", "icon"]
  | _ => [anError path (title ++ " must be an object.")]

/-- The start of a track within its bounds. -/
def trackBounds (path title : String) (value greatest : Value) : Issues := do
  let notNumbers := [anError path (title ++ " value and max must be numbers.")]
  if !(← isNumber value) then return notNumbers
  if !(← isNumber greatest) then return notNumbers
  match value.number?, greatest.number? with
  | some v, some m =>
    if m.lt (.int 0) then return [anError path (title ++ " has a negative max.")]
    else if Number.le (.int 0) v && v.le m then return []
    else return [aWarning path (title ++ " starts at " ++ (← value.plain) ++ ", outside [0, " ++
      (← greatest.plain) ++ "]; it will be clamped.")]
  | _, _ => return []

def track (id : String) (v : Value) : Issues :=
  let path := "tracks." ++ id
  let title := "Track \"" ++ id ++ "\""
  match v with
  | .mapping es =>
    let missing := missingFields path title es ["name", "value", "max"]
    if missing.isEmpty then trackBounds path title (fieldIn es "value") (fieldIn es "max")
    else .ok missing
  | _ => .ok [anError path (title ++ " must be an object.")]

def start (names : Names) : Value → List Issue
  | .null => [anError "initial" "\"initial\" is missing required field \"situation\"."]
  | .text s => demand (names.situations.contains s) (anError "initial.situation"
      ("The initial situation \"" ++ s ++ "\" does not exist in the 'situations' object."))
  | _ => [anError "initial.situation" "'initial.situation' must be a string."]

def isCounter : Value → Bool
  | .bool _ | .int _ => true
  | .float x => Decimal.isFinite x
  | _ => false

def counters : Option Value → List Issue
  | none => []
  | some (.mapping es) => es.flatMap fun e => demand (isCounter e.2)
      (anError ("initial.counters." ++ e.1)
        ("Counter \"" ++ e.1 ++ "\" must start as a number or boolean."))
  | some _ => [anError "initial.counters" "'initial.counters' must be an object."]

def opening (names : Names) : Value → List Issue
  | .mapping es => start names (fieldIn es "situation") ++ counters (lookupLast "counters" es)
  | _ => [anError "initial" "'initial' must be an object."]

/-- A field that is checked if it has a value. -/
def ifPresent (es : Entries) (key : String) (check : Value → Issues) : Issues :=
  let v := fieldIn es key
  if isPresent v then check v else .ok []

def usedAction (names : Names) (path : String) : Value → List Issue
  | .text id => demand (names.actions.contains id) (anError path
      ("Action ID \"" ++ id ++ "\" is used in a situation but not defined in the top-level " ++
        "'actions' object."))
  | _ => [anError path "'when.actionId' must be a string."]

def trigger (names : Names) (path : String) (es : Entries) : Issues :=
  let inside := path ++ ".when"
  all [
    .ok (usedAction names path (fieldIn es "actionId")),
    ifPresent es "targetPattern" (pattern "targetPattern" inside),
    ifPresent es "textRegex" (pattern "textRegex" inside),
    ifPresent es "require" (condition "require" inside)]

def rule (names : Names) (path : String) : Value → Issues
  | .mapping es =>
    let when := entriesOf (fieldIn es "when")
    if isPresent (fieldIn when "actionId") then
      all [
        trigger names path when,
        match lookupLast "do" es with
          | some v => effects names (path ++ ".do") v
          | none => .ok [anError path "Rule is missing its 'do' list."],
        ifPresent es "fail" (effects names (path ++ ".fail"))]
    else .ok [anError path "Rule is missing 'when.actionId'."]
  | _ => .ok [anError path "Rule must be an object."]

def rulesFrom (names : Names) (path : String) : Nat → List Value → List Issues
  | _, [] => []
  | i, v :: rest =>
    rule names (path ++ ".on_action[" ++ i.repr ++ "]") v :: rulesFrom names path (i + 1) rest

/-- Values that count as nothing where a list is asked for. -/
def isNothing : Value → Bool
  | .null => true
  | .bool b => !b
  | .int i => i == 0
  | .float x => x == 0.0
  | .text s => s == ""
  | .list vs => vs.isEmpty
  | .mapping es => es.isEmpty

def allowedAction (names : Names) (path : String) : Value → List Issue
  | .text id => demand (names.actions.contains id) (aWarning path
      ("allowed_actions lists \"" ++ id ++ "\", which is not in the top-level 'actions' object."))
  | _ => [anError path "'allowed_actions' entries must be strings."]

def allowedActions (names : Names) (path : String) (v : Value) : List Issue :=
  if isNothing v then []
  else
    match v with
    | .list vs => vs.flatMap (allowedAction names path)
    | _ => [anError path "'allowed_actions' must be a list."]

def situation (names : Names) (id : String) (v : Value) : Issues :=
  let path := "situations." ++ id
  let title := "Situation \"" ++ id ++ "\""
  match v with
  | .mapping es =>
    all [
      .ok (missingFields path title es ["label"]),
      .ok (allowedActions names (path ++ ".allowed_actions") (fieldIn es "allowed_actions")),
      ifPresent es "auto_enter_if" (condition "auto_enter_if" path),
      match fieldIn es "on_action" with
        | .list vs => all (rulesFrom names path 0 vs)
        | _ => .ok [anError path (title ++ " needs an \"on_action\" list.")]]
  | _ => .ok [anError path (title ++ " must be an object.")]

/-- All issues of a document. -/
def document (doc : Entries) : Issues :=
  let top := shape doc
  if !top.isEmpty then .ok top
  else
    let names := namesOf doc
    let part (key : String) := entriesOf (fieldIn doc key)
    all [
      .ok (endings (part "situations")),
      .ok ((part "actions").flatMap fun e => actionDetail e.1 e.2),
      all ((part "tracks").map fun e => track e.1 e.2),
      .ok (opening names (fieldIn doc "initial")),
      all ((part "situations").map fun e => situation names e.1 e.2)]

/-- All issues of a scenario that was loaded. -/
def scenario (s : Scenario) : Issues :=
  document (entriesOf s.toValue)

end Storyworld.Check
