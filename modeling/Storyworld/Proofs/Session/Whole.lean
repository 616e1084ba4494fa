import Storyworld.Proofs.Session.Turns
import Storyworld.Proofs.State.Whole
import Storyworld.Proofs.Track.Range
import Storyworld.Proofs.Turn.Frame

/-!
Sessions of scenarios in which all numbers are whole. Where the counters at the start, the caps and
the values that counters are set to are flags or whole numbers, every state of a session is one that
its save file gives back, and so are the states to which an undo leads.
-/

namespace Storyworld

open Noting

/-- A scenario with flags and whole numbers only; what effects add is always whole. -/
structure Scenario.Whole (sc : Scenario) : Prop where
  counters : ∀ k c, (k, c) ∈ sc.opening.counters → c.Whole
  caps : ∀ e ∈ sc.effects, e.WholeCap
  settings : ∀ e ∈ sc.effects, ∀ c, e.setting? = some c → c.Whole

instance (n : Number) : Decidable n.Whole :=
  match n with
  | .int i => isTrue ⟨i, rfl⟩
  | .float _ => isFalse fun ⟨_, same⟩ => nomatch same

instance (c : Counter) : Decidable c.Whole :=
  match c with
  | .flag _ => isTrue nofun
  | .number n => decidable_of_iff n.Whole ⟨fun h m same => by cases same; exact h, fun h => h n rfl⟩

instance (e : Effect) : Decidable e.WholeCap :=
  inferInstanceAs (Decidable (∀ n ∈ e.cap?, n.Whole))

instance (sc : Scenario) : Decidable sc.Whole :=
  decidable_of_iff ((∀ e ∈ sc.opening.counters, e.2.Whole) ∧ (∀ e ∈ sc.effects, e.WholeCap) ∧
      ∀ e ∈ sc.effects, ∀ c ∈ e.setting?, c.Whole)
    ⟨fun h => ⟨fun k c => h.1 (k, c), h.2.1, h.2.2⟩, fun h => ⟨fun e => h.1 e.1 e.2, h.2, h.3⟩⟩

/-- A scenario in which every counter and every track stands once at the start. -/
structure Scenario.KeysOnce (sc : Scenario) : Prop where
  counters : (sc.opening.counters.map Prod.fst).Nodup
  tracks : (sc.tracks.map Prod.fst).Nodup

theorem Scenario.keysOnce_of_read {v : Value} {sc : Scenario} (h : Scenario.read v = .fits sc) :
    sc.KeysOnce := by
  obtain ⟨doc, rfl, -⟩ := Schema.model_eq_fits.1 h
  obtain ⟨-, opening, tracks, -⟩ := Scenario.read_fits h
  obtain ⟨n, w, -, fit⟩ := Schema.required_eq_fits.1 opening
  obtain ⟨es, -, -, counters⟩ := Opening.read_fits fit
  exact ⟨Schema.optional_nodup counters, Schema.optional_nodup tracks⟩

/-- A state that its save file gives back. -/
structure State.Savable (s : State) : Prop where
  once : s.KeysOnce
  whole : s.Whole

theorem Number.Whole.capped {cap : Option Number} (limits : ∀ n, cap = some n → n.Whole)
    {n : Number} (whole : n.Whole) : (Storyworld.capped cap n).Whole := by
  obtain ⟨i, rfl⟩ := whole
  exact capped_whole limits i

theorem Number.Whole.add {n v : Number} {delta : Int} (whole : n.Whole)
    (sum : n.add (.int delta) = .ok v) : v.Whole := by
  obtain ⟨i, rfl⟩ := whole
  cases sum
  exact ⟨i + delta, rfl⟩

theorem Number.Whole.sub {m n v : Number} (first : m.Whole) (second : n.Whole)
    (difference : m.sub n = .ok v) : v.Whole := by
  obtain ⟨i, rfl⟩ := first
  obtain ⟨j, rfl⟩ := second
  cases difference
  exact ⟨i - j, rfl⟩

theorem Counter.Whole.capped {cap : Option Number} (limits : ∀ n, cap = some n → n.Whole)
    {c : Counter} (whole : c.Whole) : (c.capped cap).Whole := by
  cases c with
  | flag b => exact nofun
  | number n =>
    intro m same
    cases same
    exact (whole n rfl).capped limits

theorem Track.Whole.clamp {t : Track} {v : Number} (whole : t.Whole) (value : v.Whole) :
    Track.Whole { t with value := t.clamp v } := by
  obtain ⟨m, max⟩ := whole.max
  obtain ⟨i, rfl⟩ := value
  exact ⟨⟨_, Track.clamp_int max⟩, whole.max⟩

theorem TrackDefinition.start_whole (d : TrackDefinition) : d.start.Whole :=
  Track.Whole.clamp (t := ⟨d.name, .int d.value, .int d.max⟩) ⟨⟨_, rfl⟩, ⟨_, rfl⟩⟩ ⟨_, rfl⟩

namespace State

variable {s t : State}

theorem Frame.once (framed : s.Frame t) (once : s.KeysOnce) : t.KeysOnce where
  counters := framed.counterKeys ▸ once.counters
  tracks := framed.trackKeys ▸ once.tracks
  sceneDescriptions := framed.sceneDescriptions ▸ once.sceneDescriptions

theorem Alters.whole {e : Effect} (cap : e.WholeCap) (settings : ∀ c, e.setting? = some c → c.Whole)
    (altered : Alters e s t) (whole : s.Whole) : t.Whole := by
  cases altered with
  | addition known sum =>
    have old := whole.counters _ _ (lookupLast_mem known) _ rfl
    refine { whole with counters := fun k c mem => ?_ }
    obtain ⟨-, rfl⟩ | other := mem_putEntry mem
    · intro n same
      cases same
      exact (old.add sum).capped cap
    · exact whole.counters k c other
  | setting known sets =>
    refine { whole with counters := fun k c mem => ?_ }
    obtain ⟨-, rfl⟩ | other := mem_putEntry mem
    · exact (settings _ sets).capped cap
    · exact whole.counters k c other
  | track known moved =>
    have old := whole.tracks _ _ (lookupLast_mem known)
    refine { whole with tracks := fun k u mem => ?_ }
    obtain ⟨-, rfl⟩ | other := mem_putEntry mem
    · exact old.clamp ((old.value.add moved).capped cap)
    · exact whole.tracks k u other
  | _ => exact { whole with }

theorem start_savable {sc : Scenario} (once : sc.KeysOnce) (whole : sc.Whole)
    (player : Option Player) : (sc.start player).Savable where
  once :=
    { counters := once.counters
      tracks := by simpa [Scenario.start, Function.comp_def] using once.tracks
      sceneDescriptions := List.nodup_nil }
  whole :=
    { counters := whole.counters
      tracks := fun k t mem => by
        obtain ⟨⟨k', d⟩, -, same⟩ := List.mem_map.1 mem
        cases same
        exact d.start_whole
      log := nofun }

theorem act_savable {sc : Scenario} {now : Timestamp} {id : String} {target : Option String}
    {success : Bool} {r : TurnResult} (whole : sc.Whole)
    (played : (Move.play sc now s (.action id target success)).result = .ok r)
    (savable : s.Savable) : r.state.Savable := by
  have course : Course sc s [⟨s, now, .action id target success, r⟩] r.state :=
    .cons played (.nil _)
  refine course.keepsThrough (fun p mem e u v uses altered held => ?_)
    (fun now u id known held => ?_) savable
  · cases List.mem_singleton.1 mem
    exact ⟨altered.frame.once held.once,
      altered.whole (whole.caps e uses) (whole.settings e uses) held.whole⟩
  · obtain ⟨p, recorded⟩ := recordEnding_eq sc now (u.moveTo id)
    rw [recorded]
    exact ⟨{ held.once with }, { held.whole with }⟩

theorem note_savable {kind : LogKind} {message : String} {changes : Option (List Change)}
    (told : ∀ cs, changes = some cs → ∀ c ∈ cs, c.delta.Whole) (savable : s.Savable) :
    (s.note kind message changes).1.Savable := by
  refine ⟨{ savable.once with }, { savable.whole with log := fun e mem => ?_ }⟩
  obtain old | new := List.mem_append.1 mem
  · exact savable.whole.log e old
  · cases List.mem_singleton.1 new
    exact told

theorem noteLines_savable (lines : List String) (savable : s.Savable) :
    (s.noteLines lines).1.Savable := by
  induction lines generalizing s with
  | nil => exact savable
  | cons line rest ih => exact ih (note_savable nofun savable)

end State

theorem changesBetween_whole {sc : Scenario} {s t : State} {cs : List Change} (before : s.Whole)
    (after : t.Whole) (differ : changesBetween sc s t = .ok cs) : ∀ c ∈ cs, c.delta.Whole := by
  obtain ⟨counters, first, differ⟩ := bind_eq_ok.1 differ
  obtain ⟨tracks, second, differ⟩ := bind_eq_ok.1 differ
  cases differ
  intro c mem
  obtain ⟨c?, inside, same⟩ := List.mem_filterMap.1 mem
  cases same
  obtain counter | track := List.mem_append.1 inside
  · obtain ⟨⟨k, new⟩, there, made⟩ := mapM_mem first _ counter
    unfold counterChange at made
    split at made
    · rename_i n m value known
      split at made
      · cases made
      · obtain ⟨d, difference, made⟩ := bind_eq_ok.1 made
        cases made
        have old := before.counters _ _ (lookupLast_mem known) _ rfl
        exact (after.counters k _ there n value).sub old difference
    · cases made
  · obtain ⟨⟨k, new⟩, there, made⟩ := mapM_mem second _ track
    unfold trackChange at made
    split at made
    · rename_i old known
      split at made
      · cases made
      · obtain ⟨d, difference, made⟩ := bind_eq_ok.1 made
        have before := before.tracks _ _ (lookupLast_mem known)
        have delta := (after.tracks k _ there).value.sub before.value difference
        split at made <;> cases made <;> exact delta
    · cases made

namespace Session

/-- A session that has gone on from another and of which every state, now and after an undo, can be
saved. -/
structure Savable (start g : Session) : Prop where
  scenario : g.scenario = start.scenario
  limit : g.limit = start.limit
  narrator : g.narrator = start.narrator
  now : g.now = start.now
  state : g.state.Savable
  past : ∀ s ∈ g.past, s.Savable

variable {start g : Session}

/-- Only the state and the earlier states are not those of the session from which it has gone on. -/
theorem Savable.eq (savable : start.Savable g) :
    g = { start with state := g.state, past := g.past } := by
  obtain ⟨scenario, limit, narrator, now, -, -⟩ := savable
  cases g
  cases scenario
  cases limit
  cases narrator
  cases now
  rfl

theorem Savable.act {id : String} {target : Option String} {success : Bool} {p : Session × Turn}
    (savable : start.Savable g) (whole : start.scenario.Whole) (silent : start.narrator = none)
    (acted : (g.act id target success).result = .ok p) : start.Savable p.1 := by
  obtain ⟨r, q, played, committed, told⟩ := act_eq_ok.1 acted
  rw [savable.scenario] at played
  have result := State.act_savable whole played savable.state
  rw [commit_eq_bind] at committed
  obtain ⟨noted, entry, committed⟩ := bind_eq_ok.1 committed
  cases committed
  obtain ⟨p, made, rfl⟩ := map_eq_ok.1 entry
  obtain ⟨cs, differ, made⟩ := bind_eq_ok.1 made
  cases made
  have deltas := changesBetween_whole savable.state.whole result.whole differ
  have logged : (r.state.note .action (actionMessage g.scenario id target)
      (if cs.isEmpty then none else some cs)).1.Savable := by
    refine State.note_savable (fun cs' same => ?_) result
    split at same
    · cases same
    · cases same
      exact deltas
  simp only [narrate, savable.narrator, silent] at told
  cases told
  refine ⟨savable.scenario, savable.limit, silent.symm, savable.now,
    State.noteLines_savable r.lines logged, ?_⟩
  intro s mem
  obtain rfl | old := mem_keep mem
  · exact savable.state
  · exact savable.past s old

theorem Savable.undo (savable : start.Savable g) : start.Savable g.undo.1 := by
  unfold Session.undo
  split
  · exact savable
  · rename_i s rest past
    have each := savable.past
    rw [past] at each
    exact ⟨savable.scenario, savable.limit, savable.narrator, savable.now,
      each s List.mem_cons_self, fun u mem => each u (List.mem_cons_of_mem s mem)⟩

end Session

end Storyworld
