import Mathlib
import Storyworld.Proofs.Turn.Course
import Storyworld.State.Start

/-!
Tracks stay in range. A track starts within its bounds wherever its definition places it, and as long
as caps are whole numbers no effect takes it out of them.
-/

namespace Storyworld

/-- The cap of an effect is a whole number, if there is one. -/
def Effect.WholeCap (e : Effect) : Prop :=
  ∀ n, e.cap? = some n → ∃ i : Int, n = .int i

/-- A track as its definition has it, with a whole value between zero and the greatest one. -/
structure Track.InRange (d : TrackDefinition) (t : Track) : Prop where
  name : t.name = d.name
  max : t.max = .int d.max
  value : ∃ v : Int, t.value = .int v ∧ 0 ≤ v ∧ v ≤ d.max

theorem capped_whole {cap : Option Number} (whole : ∀ n, cap = some n → ∃ i : Int, n = .int i)
    (v : Int) : ∃ w : Int, capped cap (.int v) = .int w := by
  cases cap with
  | none => exact ⟨v, rfl⟩
  | some n =>
    obtain ⟨i, rfl⟩ := whole n rfl
    simp only [capped]
    split
    · exact ⟨i, rfl⟩
    · exact ⟨v, rfl⟩

/-- Where a whole value ends up when a track is held within its bounds. -/
theorem Track.inRange_clamp {d : TrackDefinition} {t : Track} (bound : 0 ≤ d.max)
    (name : t.name = d.name) (max : t.max = .int d.max) (v : Int) :
    Track.InRange d { t with value := t.clamp (.int v) } := by
  refine ⟨name, max, Max.max 0 (Min.min v d.max), Track.clamp_int max, ?_, ?_⟩
  · omega
  · omega

theorem TrackDefinition.start_inRange {d : TrackDefinition} (bound : 0 ≤ d.max) :
    d.start.InRange d :=
  Track.inRange_clamp bound rfl rfl d.value

namespace State

/-- All tracks of a state are declared ones in range. -/
structure TracksInRange (sc : Scenario) (s : State) : Prop where
  keys : s.tracks.map Prod.fst = sc.tracks.map Prod.fst
  inRange : ∀ id t, (id, t) ∈ s.tracks → ∃ d, (id, d) ∈ sc.tracks ∧ t.InRange d

theorem start_tracksInRange {sc : Scenario} (bounds : ∀ e ∈ sc.tracks, 0 ≤ e.2.max)
    (player : Option Player) : (sc.start player).TracksInRange sc := by
  refine ⟨?_, fun id t mem => ?_⟩
  · simp [Scenario.start]
  · obtain ⟨⟨id, d⟩, declared, same⟩ := List.mem_map.1 mem
    cases same
    exact ⟨d, declared, d.start_inRange (bounds _ declared)⟩

theorem Alters.tracksInRange {sc : Scenario} {s t : State} {e : Effect}
    (bounds : ∀ e ∈ sc.tracks, 0 ≤ e.2.max) (whole : e.WholeCap) (altered : Alters e s t)
    (held : s.TracksInRange sc) : t.TracksInRange sc := by
  refine ⟨altered.trackKeys.trans held.keys, ?_⟩
  cases altered with
  | @track key t delta v known moved =>
    intro id track mem
    obtain ⟨rfl, rfl⟩ | old := mem_putEntry mem
    · obtain ⟨d, declared, name, max, w, value, -, -⟩ := held.inRange _ _ (lookupLast_mem known)
      rw [value, Number.add_int] at moved
      cases moved
      obtain ⟨u, limited⟩ := capped_whole whole (w + delta)
      rw [limited]
      exact ⟨d, declared, Track.inRange_clamp (bounds _ declared) name max u⟩
    · exact held.inRange id track old
  | _ => exact held.inRange

/-- In every course of turns from the start of a scenario, with whole caps only, every track keeps
its name and its greatest value and stays between zero and that. -/
theorem tracks_stay_in_range {sc : Scenario} {player : Option Player} {turns : List Played}
    {t : State} (bounds : ∀ e ∈ sc.tracks, 0 ≤ e.2.max)
    (caps : ∀ p ∈ turns, ∀ e, p.move.Uses sc e → e.WholeCap)
    (course : Course sc (sc.start player) turns t) : t.TracksInRange sc := by
  refine course.keepsThrough (fun p mem e u v uses altered held => ?_)
    (fun now u id known held => ?_) (start_tracksInRange bounds player)
  · exact altered.tracksInRange bounds (caps p mem e uses) held
  · obtain ⟨p, recorded⟩ := recordEnding_eq sc now (u.moveTo id)
    rw [recorded]
    exact ⟨held.keys, held.inRange⟩

/-- A kettle that starts hotter than it can be. -/
def kettle : Scenario where
  version := 1
  id := "kettle"
  title := "The kettle"
  description := ""
  language := .en
  theme := none
  actions := [("stoke", ⟨"Stoke", "Flame", none⟩)]
  opening := ⟨"kitchen", [], []⟩
  tracks := [("heat", ⟨"Heat", 12, 10⟩)]
  situations := [("kitchen", {
    label := "Kitchen"
    description := none
    allowedActions := ["stoke"]
    rules := [⟨⟨"stoke", none, none, none⟩,
      [⟨[.action (.add "tracks.heat,5"), .cap (.int (-3))]⟩],
      some [⟨[.action (.track "heat,-40")]⟩]⟩]
    enterIf := none
    ending := false })]
  hints := none

/-- A consequence that heats the kettle. -/
def gust : Value :=
  .mapping [("track", .text "heat,99"), ("cap", .int 7)]

theorem read_gust : Effect.read gust = .fits ⟨[.action (.track "heat,99"), .cap (.int 7)]⟩ := by
  cbv

theorem kettle_wholeCaps {m : Move}
    (h : m = .action "stoke" none true ∨ m = .consequences [[gust]]) :
    ∀ e, m.Uses kettle e → e.WholeCap := by
  intro e uses n cap
  obtain rfl | rfl := h
  · have effects : kettle.effects = [⟨[.action (.add "tracks.heat,5"), .cap (.int (-3))]⟩,
        ⟨[.action (.track "heat,-40")]⟩] := rfl
    have mem : e ∈ kettle.effects := uses
    simp only [effects, List.mem_cons, List.not_mem_nil, or_false] at mem
    obtain rfl | rfl := mem
    · cases cap
      exact ⟨_, rfl⟩
    · cases cap
  · obtain ⟨vs, listed, v, inside, read⟩ := uses
    cases List.mem_singleton.1 listed
    cases List.mem_singleton.1 inside
    cases read_gust.symm.trans read
    cases cap
    exact ⟨_, rfl⟩

/-- A cap below zero cools the kettle down, and then a gust with another cap heats it. -/
theorem tracks_stay_in_range_kettle :
    ∃ turns t, (∀ e ∈ kettle.tracks, 0 ≤ e.2.max) ∧
      (∀ p ∈ turns, ∀ e, p.move.Uses kettle e → e.WholeCap) ∧
      Course kettle (kettle.start none) turns t ∧
      t.tracks = [("heat", ⟨"Heat", .int 7, .int 10⟩)] ∧ t.TracksInRange kettle := by
  have bounds : ∀ e ∈ kettle.tracks, 0 ≤ e.2.max := by decide
  have stoked : ∃ r, (Move.play kettle Session.noon (kettle.start none)
      (.action "stoke" none true)).result = .ok r ∧
      r.state.tracks = [("heat", ⟨"Heat", .int 0, .int 10⟩)] := ⟨_, rfl, rfl⟩
  obtain ⟨r, stoked, -⟩ := stoked
  have heated : ∃ q, (Move.play kettle Session.noon r.state
      (.consequences [[gust]])).result = .ok q ∧
      q.state.tracks = [("heat", ⟨"Heat", .int 7, .int 10⟩)] := by
    have read : readEffects [gust] = .ok [⟨[.action (.track "heat,99"), .cap (.int 7)]⟩] := by
      rw [readEffects, List.mapM_cons, read_gust]
      rfl
    cases stoked
    simp only [Move.play, applyConsequences, applyLists, read]
    exact ⟨_, rfl, rfl⟩
  obtain ⟨q, heated, tracks⟩ := heated
  have course : Course kettle (kettle.start none)
      [⟨_, Session.noon, .action "stoke" none true, r⟩,
        ⟨_, Session.noon, .consequences [[gust]], q⟩] q.state :=
    .cons stoked (.cons heated (.nil _))
  have caps : ∀ p ∈ [Played.mk (kettle.start none) Session.noon (.action "stoke" none true) r,
      ⟨r.state, Session.noon, .consequences [[gust]], q⟩],
      ∀ e, p.move.Uses kettle e → e.WholeCap := by
    intro p mem
    simp only [List.mem_cons, List.not_mem_nil, or_false] at mem
    obtain rfl | rfl := mem
    · exact kettle_wholeCaps (.inl rfl)
    · exact kettle_wholeCaps (.inr rfl)
  exact ⟨_, _, bounds, caps, course, tracks, tracks_stay_in_range bounds caps course⟩

end State

end Storyworld
