import Storyworld.Item

/-!
Effects: what a rule does to the state, one step each. An effect is the list of its parts in the
order in which they are written. It should hold one action; of several the last one counts.
-/

namespace Storyworld

inductive Action where
  /-- An amount for a counter or a track: `counters.key,1` or `tracks.key,1`. -/
  | add (change : String)
  /-- A value for a counter, the route or the next situation: `counters.key,true`. -/
  | set (change : String)
  /-- An amount for a track: `key,1`. -/
  | track (change : String)
  | log (line : String)
  | secret (line : String)
  | agreement (line : String)
  | giveItem (item : Item)
  | removeItem (id : String)
  | addKnownTarget (name : String)
  deriving Repr, DecidableEq

def Action.key : Action → String
  | add _ => "add"
  | set _ => "set"
  | track _ => "track"
  | log _ => "log"
  | secret _ => "secret"
  | agreement _ => "agreement"
  | giveItem _ => "give_item"
  | removeItem _ => "remove_item"
  | addKnownTarget _ => "addKnownTarget"

/-- Lines of the story, which run only in the normal flow of play. -/
def Action.line? : Action → Option String
  | log s | secret s | agreement s => some s
  | _ => none

def Action.payload : Action → Value
  | add s | set s | track s | log s | secret s | agreement s => .text s
  | giveItem item => item.toValue
  | removeItem s | addKnownTarget s => .text s

inductive Part where
  | action (a : Action)
  /-- A condition for the whole effect. -/
  | guard (condition : String)
  /-- The greatest value that the effect may write. -/
  | cap (limit : Number)
  | unknown (key : String) (v : Value)

def Part.key : Part → String
  | action a => a.key
  | guard _ => "if"
  | cap _ => "cap"
  | unknown key _ => key

def modifierKeys : List String := ["if", "cap"]

def actionKeys : List String := [
    "add", "set", "track", "log", "secret", "agreement", "give_item", "remove_item",
    "addKnownTarget"]

structure Effect where
  parts : List Part

namespace Effect

def presentKeys (e : Effect) : List String :=
  e.parts.map Part.key

def isModifier (p : Part) : Bool :=
  modifierKeys.contains p.key

def actionParts (e : Effect) : List Part :=
  e.parts.filter fun p => !isModifier p

def writtenActions (e : Effect) : List String :=
  e.actionParts.map Part.key

/-- The action written last, if it is known. -/
def action? (e : Effect) : Option Action :=
  match e.actionParts.getLast? with
  | some (.action a) => some a
  | _ => none

def guard? (e : Effect) : Option String :=
  e.parts.findSome? fun p => match p with
    | .guard s => some s
    | _ => none

def cap? (e : Effect) : Option Number :=
  e.parts.findSome? fun p => match p with
    | .cap n => some n
    | _ => none

/-- The names of the known keys in documents, with a second name where there is one. -/
def keyNames : List (List String) := [
    ["add"], ["set", "set_"], ["track"], ["log"], ["secret"], ["agreement"], ["give_item"],
    ["remove_item"], ["addKnownTarget", "add_known_target"], ["if", "if_"], ["cap"]]

/-- A key under its first name. -/
def firstName (key : String) : String :=
  match keyNames.find? fun names => names.contains key with
  | some names => names.headD key
  | none => key

/-- The keys that carry no known part: unknown ones, and second names beside the first. -/
def unknownEntries (es : Entries) : Entries :=
  let used := keyNames.filterMap fun names => (Schema.fieldUnder es names).map Prod.fst
  es.filter fun e => !used.contains e.1

/-- The last place of a key among the written ones. A key that is not written under its first name
stands behind as many keys as are different. -/
def placeOf (written : List String) (key : String) : Nat :=
  match written.reverse.findIdx? (· == key) with
  | some i => written.length - 1 - i
  | none => written.eraseDups.length

def inWrittenOrder (es : Entries) (parts : List Part) : List Part :=
  let written := es.map fun e => firstName e.1
  parts.mergeSort fun p q => placeOf written p.key ≤ placeOf written q.key

def read : Schema.Reader Effect :=
  Schema.model fun es =>
    let field {α : Type} (names : List String) (read : Schema.Reader α) (part : α → Part) :
        Schema.Checked (List Part) :=
      (Schema.optional es names none (Schema.nullable read)).map fun r => (r.map part).toList
    let line (names : List String) (make : String → Action) :=
      field names Schema.text fun s => .action (make s)
    let known := [
      line ["add"] .add,
      line ["set", "set_"] .set,
      line ["track"] .track,
      line ["log"] .log,
      line ["secret"] .secret,
      line ["agreement"] .agreement,
      field ["give_item"] Item.read fun i => .action (.giveItem i),
      line ["remove_item"] .removeItem,
      line ["addKnownTarget", "add_known_target"] .addKnownTarget,
      field ["if", "if_"] Schema.text .guard,
      field ["cap"] Schema.number .cap]
    let parts := known.foldr (fun c r => (· ++ ·) <$> c <*> r) (pure [])
    let unknown := (unknownEntries es).map fun e => Part.unknown e.1 e.2
    parts.map fun ps => ⟨inWrittenOrder es (ps ++ unknown)⟩

/-- The place of a part in documents that are written out. -/
def rank (p : Part) : Nat :=
  match p with
  | .unknown .. => keyNames.length
  | p => keyNames.findIdx fun names => names.contains p.key

def partEntry : Part → String × Value
  | .action (.giveItem item) => ("give_item", .mapping (Value.presentEntries item.fields))
  | .action a => (a.key, a.payload)
  | .guard s => ("if", .text s)
  | .cap n => ("cap", n.toValue)
  | .unknown key v => (key, v)

def toValue (e : Effect) : Value :=
  .mapping (Value.presentEntries ((e.parts.mergeSort fun p q => rank p ≤ rank q).map partEntry))

end Effect

end Storyworld
