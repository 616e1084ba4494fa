import Storyworld.State.Basic

/-!
Differences in counters and tracks between two states. Flags and keys that only one state has are
left out.
-/

namespace Storyworld

def defaultIcon : String := "Star"

def defaultColor : String := "text-primary"

/-- The first icon that is not empty: the counter's own, the common one of counters, the default. -/
def counterIcon (sc : Scenario) (id : String) : String :=
  match sc.hints with
  | none => defaultIcon
  | some h =>
    let named := [id, "default"].filterMap fun k => lookupLast k h.counterIcons
    (named.find? fun icon => icon ≠ "").getD defaultIcon

def trackStyle? (sc : Scenario) (id : String) : Option TrackStyle :=
  sc.hints.bind fun h => lookupLast id h.trackStyles

def spaced (id : String) : String :=
  String.ofList (id.toList.map fun c => if c = '_' then ' ' else c)

def counterChange (sc : Scenario) (before : Counters) (id : String) (c : Counter) :
    Except Fault (Option Change) :=
  match c, lookupLast id before with
  | .number new, some (.number old) =>
    if new.eq old then .ok none
    else do return some ⟨id, spaced id, ← new.sub old, counterIcon sc id, defaultColor⟩
  | _, _ => .ok none

def trackChange (sc : Scenario) (before : Tracks) (id : String) (t : Track) :
    Except Fault (Option Change) :=
  match lookupLast id before with
  | some old =>
    if old.value.eq t.value then .ok none
    else do
      let delta ← t.value.sub old.value
      match trackStyle? sc id with
      | some style => return some ⟨id, t.name, delta, style.icon, style.color⟩
      | none => return some ⟨id, t.name, delta, defaultIcon, defaultColor⟩
  | none => .ok none

/-- Counters first, then tracks, each in the order of the later state. -/
def changesBetween (sc : Scenario) (before after : State) : Except Fault (List Change) := do
  let counters ← after.counters.mapM fun c => counterChange sc before.counters c.1 c.2
  let tracks ← after.tracks.mapM fun t => trackChange sc before.tracks t.1 t.2
  return (counters ++ tracks).filterMap id

end Storyworld
