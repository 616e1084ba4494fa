import Storyworld.Proofs.Turn.Ending
import Storyworld.Proofs.Turn.Place

/-!
The end of a turn settles in one step. Conditions see the counters, the tracks, the route and the
player only, so a move on its own does not change which situation is entered on its own. Only the
record of an ending does, since conditions see the history.
-/

namespace Storyworld

open Noting

namespace State

variable {s t : State}

/-- Two states that no condition tells apart. -/
structure SeenAlike (s t : State) : Prop where
  counters : t.counters = s.counters
  tracks : t.tracks = s.tracks
  route : t.route = s.route
  player : t.player = s.player

theorem SeenAlike.scope (h : SeenAlike s t) : t.scope = s.scope := by
  simp only [State.scope, h.counters, h.tracks, h.route, h.player]

theorem SeenAlike.holds (h : SeenAlike s t) (c : String) : t.holds c = s.holds c := by
  simp only [State.holds, h.scope]

theorem SeenAlike.firstEntered (h : SeenAlike s t) (situations : List (String × Situation)) :
    firstEntered situations t = firstEntered situations s := by
  induction situations with
  | nil => rfl
  | cons e rest ih =>
    obtain ⟨id, situation⟩ := e
    simp only [Storyworld.firstEntered, h.holds, ih]

theorem SeenAlike.autoEntered (h : SeenAlike s t) (sc : Scenario) :
    sc.autoEntered t = sc.autoEntered s :=
  h.firstEntered sc.situations

theorem moveTo_seenAlike (s : State) (id : String) : SeenAlike s (s.moveTo id) :=
  ⟨rfl, rfl, rfl, rfl⟩

/-- If nothing is recorded, nothing will be recorded later. -/
theorem recordEnding_settled {sc : Scenario} {now : Timestamp}
    (unrecorded : (s.recordEnding sc now).player.history = s.player.history) (later : Timestamp) :
    s.recordEnding sc later = s := by
  obtain ⟨-, due⟩ | ⟨situation, -, -, -, recorded⟩ := recordEnding_cases sc now s
  · obtain ⟨same, -⟩ | ⟨situation, here, ends, first, -⟩ := recordEnding_cases sc later s
    · exact same
    · have completed := due (isEnding_iff.2 ⟨situation, here, ends⟩)
      cases completed.symm.trans first
  · rw [recorded] at unrecorded
    simp [addCompletion] at unrecorded

theorem moveTo_again (s : State) (id : String) : (s.moveTo id).moveTo id = s.moveTo id := rfl

/-- The outcome of the end of a turn, from the situation that is entered on its own. -/
theorem resolve_of_entered {sc : Scenario} {entered : Option String}
    (found : (sc.autoEntered s).result = .ok entered) (now : Timestamp) :
    (s.resolve sc now).result = .ok (match entered.or (s.pending? sc) with
      | some id => ((s.moveTo id).recordEnding sc now, true)
      | none => (s, false)) := by
  rw [resolve, result_bind, found]
  · cases entered with
    | some id => rfl
    | none => cases s.pending? sc <;> rfl
  · intro entered
    split
    · exact steady_pure _
    · split <;> exact steady_pure _

/-- Which situation is entered on its own hangs on the counters, the tracks, the route and the
player only. So once the end of a turn has made a state, and has recorded no ending, another end of
a turn makes the same state of it at any time: it moves, to where the player is already, exactly if
a situation is entered on its own. -/
theorem resolve_settles_unless_recorded {sc : Scenario} {now : Timestamp} {moved : Bool}
    (resolved : (s.resolve sc now).result = .ok (t, moved))
    (unrecorded : t.player.history = s.player.history) :
    (∀ u v : State, SeenAlike u v → sc.autoEntered v = sc.autoEntered u) ∧
      ∃ entered, (sc.autoEntered s).result = .ok entered ∧
        ∀ later, (t.resolve sc later).result = .ok (t, entered.isSome) := by
  refine ⟨fun u v alike => alike.autoEntered sc, ?_⟩
  obtain ⟨entered, found, ⟨idle, rfl, -⟩ | ⟨id, goes, -, rfl, -⟩⟩ := resolve_goes resolved
  · have none : entered = none := (Option.or_eq_none_iff.1 idle).1
    refine ⟨entered, found, fun later => ?_⟩
    rw [resolve_of_entered found, idle, none]
    rfl
  · have settled (later : Timestamp) : (s.moveTo id).recordEnding sc later = s.moveTo id :=
      recordEnding_settled unrecorded later
    refine ⟨entered, found, fun later => ?_⟩
    rw [settled now]
    have again : (sc.autoEntered (s.moveTo id)).result = .ok entered := by
      rw [(moveTo_seenAlike s id).autoEntered, found]
    rw [resolve_of_entered again]
    cases entered with
    | none => rfl
    | some id' =>
      obtain rfl : id' = id := by simpa using goes
      rw [Option.some_or]
      simp only [moveTo_again, settled later, Option.isSome_some]

/-- A player on the stairs who has asked for the cellar is led to the attic, and led there again. -/
theorem resolve_settles_unless_recorded_house :
    ∃ s t, s.nextSituation = some "cellar" ∧ t.situation = "attic" ∧
      (s.resolve house Session.noon).result = .ok (t, true) ∧
      t.player.history = s.player.history ∧
      (∀ u v : State, SeenAlike u v → house.autoEntered v = house.autoEntered u) ∧
      ∃ entered, (house.autoEntered s).result = .ok entered ∧
        ∀ later, (t.resolve house later).result = .ok (t, entered.isSome) := by
  let s : State :=
    { house.start none with route := some "stairs", nextSituation := some "cellar" }
  have resolved : (s.resolve house Session.noon).result = .ok (s.moveTo "attic", true) := by
    cbv
  exact ⟨s, s.moveTo "attic", rfl, rfl, resolved, rfl,
    resolve_settles_unless_recorded resolved rfl⟩

end State

end Storyworld
