import Storyworld.State.Basic

/-!
The state in which a game starts.
-/

namespace Storyworld

def TrackDefinition.start (d : TrackDefinition) : Track :=
  let t : Track := ⟨d.name, .int d.value, .int d.max⟩
  { t with value := t.clamp t.value }

/-- A player with the items of the opening added, those with a known id left out. -/
def Player.equip (p : Player) (items : List Item) : Player :=
  items.foldl Player.give p

/-- The start of a scenario, for a player or for a newcomer who speaks its language. -/
def Scenario.start (s : Scenario) (player : Option Player) : State :=
  let p := (player.getD (.newcomer s.language)).equip s.opening.inventory
  { situation := s.opening.situation
    counters := s.opening.counters
    tracks := s.tracks.map fun t => (t.1, t.2.start)
    log := []
    route := none
    nextSituation := none
    player := p
    baseline := some p.attributes
    knownTargets := []
    sceneDescriptions := [] }

end Storyworld
