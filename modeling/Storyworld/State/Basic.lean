import Storyworld.Scenario.Basic

/-!
The state of a game: all that a save file holds.
-/

namespace Storyworld

structure Attributes where
  strength : Int
  dexterity : Int
  constitution : Int
  intelligence : Int
  wisdom : Int
  charisma : Int
  deriving Repr, DecidableEq

def Attributes.initial : Attributes := ⟨10, 10, 10, 10, 10, 10⟩

def Attributes.fields (a : Attributes) : List (String × Int) := [
    ("strength", a.strength),
    ("dexterity", a.dexterity),
    ("constitution", a.constitution),
    ("intelligence", a.intelligence),
    ("wisdom", a.wisdom),
    ("charisma", a.charisma)]

structure Equipment where
  top : Option String
  bottom : Option String
  underwear : Option String
  panties : Option String
  shoes : Option String
  socks : Option String
  accessory : Option String
  deriving Repr, DecidableEq

def Equipment.nothing : Equipment := ⟨none, none, none, none, none, none, none⟩

def Equipment.fields (e : Equipment) : List (String × Option String) := [
    ("top", e.top),
    ("bottom", e.bottom),
    ("underwear", e.underwear),
    ("panties", e.panties),
    ("shoes", e.shoes),
    ("socks", e.socks),
    ("accessory", e.accessory)]

structure AttributeChange where
  name : String
  change : Int
  oldValue : Int
  newValue : Int
  deriving Repr, DecidableEq

/-- The record of a scenario that was played to an ending. -/
structure Completion where
  scenarioId : String
  title : String
  date : String
  endingId : String
  endingLabel : String
  attributeChanges : List AttributeChange
  finalAttributes : Attributes
  deriving Repr, DecidableEq

structure Player where
  name : String
  identity : String
  language : Language
  attributes : Attributes
  equipment : Equipment
  inventory : List Item
  history : List Completion
  deriving Repr, DecidableEq

def Player.newcomer (language : Language) : Player :=
  ⟨"Player", "An adventurer", language, .initial, .nothing, [], []⟩

def Player.hasItem (p : Player) (id : String) : Bool :=
  p.inventory.any fun i => i.id == id

/-- An item that is already there is not given again. -/
def Player.give (p : Player) (item : Item) : Player :=
  if p.hasItem item.id then p else { p with inventory := p.inventory ++ [item] }

def Player.removeItem (p : Player) (id : String) : Player :=
  { p with inventory := p.inventory.filter fun i => i.id != id }

structure Track where
  name : String
  value : Number
  max : Number
  deriving Inhabited

/-- The nearest value between zero and the greatest one. -/
def Track.clamp (t : Track) (v : Number) : Number :=
  Number.max (.int 0) (Number.min v t.max)

/-- A flag counts as one or zero, and stays a flag where that is not changed. -/
def Track.clampCounter (t : Track) : Counter → Counter
  | .number n => .number (t.clamp n)
  | .flag b =>
    match t.clamp (.int (if b then 1 else 0)) with
    | .int 1 => .flag b
    | n => .number n

theorem Track.clamp_int {t : Track} {v m : Int} (h : t.max = .int m) :
    t.clamp (.int v) = .int (Max.max 0 (Min.min v m)) := by
  simp only [clamp, h, Number.max, Number.min, Number.lt_int]
  split <;> simp only [Number.gt_int] <;> split <;> congr 1 <;> simp_all <;> omega

inductive LogKind where
  | action
  | procedural
  | narrative
  | error
  | player
  | npc
  deriving Repr, DecidableEq

def LogKind.names : List (String × LogKind) := [
    ("action", action), ("procedural", procedural), ("narrative", narrative), ("error", error),
    ("player", player), ("npc", npc)]

def LogKind.name : LogKind → String
  | action => "action"
  | procedural => "procedural"
  | narrative => "narrative"
  | error => "error"
  | player => "player"
  | npc => "npc"

/-- The difference in a counter or a track that a turn has made. -/
structure Change where
  id : String
  name : String
  delta : Number
  icon : String
  color : String
  deriving Inhabited

structure LogEntry where
  id : Int
  kind : LogKind
  message : String
  actor : Option String
  changes : Option (List Change)

abbrev Tracks := List (String × Track)

structure State where
  situation : String
  counters : Counters
  tracks : Tracks
  log : List LogEntry
  route : Option String
  /-- A situation to move to at the end of the turn. -/
  nextSituation : Option String
  player : Player
  /-- The player's attributes when the scenario started. -/
  baseline : Option Attributes
  knownTargets : List String
  sceneDescriptions : List (String × String)

namespace State

/-- One more than the greatest number in the log. -/
def nextLogId (s : State) : Int :=
  match s.log with
  | [] => 1
  | e :: rest => rest.foldl (fun m f => Max.max m f.id) e.id + 1

def append (s : State) (e : LogEntry) : State :=
  { s with log := s.log ++ [e] }

def describe (s : State) (situation text : String) : State :=
  { s with sceneDescriptions := putEntry situation text s.sceneDescriptions }

end State

end Storyworld
