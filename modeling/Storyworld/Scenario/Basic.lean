import Storyworld.Counter
import Storyworld.Effect

/-!
Scenarios: a graph of situations, the actions a player has, and in each situation the rules that
answer them. Situations and rules keep the order in which they are written; both matching and
transitions follow it.
-/

namespace Storyworld

inductive Language where
  | en
  | zh
  deriving Repr, DecidableEq

def Language.names : List (String × Language) := [("en", en), ("zh", zh)]

def Language.name : Language → String
  | en => "en"
  | zh => "zh"

/-- What a player can do, as it is shown. -/
structure ActionDetail where
  label : String
  icon : String
  description : Option String
  deriving Repr, DecidableEq

structure TrackDefinition where
  name : String
  value : Int
  max : Int
  deriving Repr, DecidableEq

structure Opening where
  situation : String
  counters : Counters
  inventory : List Item

structure Trigger where
  actionId : String
  /-- A pattern that the whole target has to match. -/
  targetPattern : Option String
  /-- A pattern that has to occur in the target. -/
  textPattern : Option String
  /-- A condition on the state. -/
  require : Option String
  deriving Repr, DecidableEq

structure Rule where
  trigger : Trigger
  effects : List Effect
  /-- The effects where an outside check has failed. -/
  failure : Option (List Effect)

def Rule.effectsFor (r : Rule) (success : Bool) : List Effect :=
  if success then r.effects else r.failure.getD []

structure Situation where
  label : String
  description : Option String
  allowedActions : List String
  rules : List Rule
  /-- The condition on which the player gets here on its own. -/
  enterIf : Option String
  ending : Bool

structure TrackStyle where
  icon : String
  color : String
  progressColor : Option String
  deriving Repr, DecidableEq

structure Hints where
  counterIcons : List (String × String)
  trackStyles : List (String × TrackStyle)
  deriving Repr, DecidableEq

structure Scenario where
  version : Int
  id : String
  title : String
  description : String
  language : Language
  theme : Option String
  actions : List (String × ActionDetail)
  opening : Opening
  tracks : List (String × TrackDefinition)
  situations : List (String × Situation)
  hints : Option Hints

namespace Scenario

def situation? (s : Scenario) (id : String) : Option Situation :=
  lookupLast id s.situations

/-- The label of an action; an action that is not listed is its own label. -/
def actionLabel (s : Scenario) (id : String) : String :=
  match lookupLast id s.actions with
  | some d => d.label
  | none => id

def endings (s : Scenario) : List String :=
  (s.situations.filter fun e => e.2.ending).map Prod.fst

def isEnding (s : Scenario) (id : String) : Bool :=
  match s.situation? id with
  | some situation => situation.ending
  | none => false

end Scenario

end Storyworld
