import Storyworld.Proofs.Check.Effects
import Storyworld.Proofs.State.Whole
import Storyworld.Proofs.Turn.Frame

/-!
One effect, one place. Where all numbers are whole, an effect whose guard can be weighed does not
fail. It writes the value of one counter or track that is there, the route, the move that is asked
for, the inventory or the known targets, and leaves everything else as it is. A line, an action that
cannot be read and one that refers to nothing that is there write nothing at all.
-/

namespace Storyworld

open Noting

/-- What one effect can write. -/
inductive Place where
  | counter (key : String)
  | track (key : String)
  | route
  | nextSituation
  | inventory
  | knownTargets

/-- Entries with the same keys that differ at most in the value under one of them. -/
structure DifferUnder {α : Type} (key : String) (m n : List (String × α)) : Prop where
  known : key ∈ m.map Prod.fst
  keys : n.map Prod.fst = m.map Prod.fst
  others : ∀ k, k ≠ key → lookupLast k n = lookupLast k m

theorem differUnder_putEntry {α : Type} {key : String} {m : List (String × α)}
    (known : key ∈ m.map Prod.fst) (v : α) : DifferUnder key m (putEntry key v m) where
  known := known
  keys := putEntry_keys known
  others _ other := lookupLast_putEntry_ne other v m

namespace State

/-- The second state is the first one but for one place. A track is written in its value only. -/
def SameBut (s : State) : Place → State → Prop
  | .counter key, t => t = { s with counters := t.counters } ∧ DifferUnder key s.counters t.counters
  | .track key, t => t = { s with tracks := t.tracks } ∧ DifferUnder key s.tracks t.tracks ∧
      ∀ k, (lookupLast k t.tracks).map Track.scale = (lookupLast k s.tracks).map Track.scale
  | .route, t => t = { s with route := t.route }
  | .nextSituation, t => t = { s with nextSituation := t.nextSituation }
  | .inventory, t => t = { s with player := { s.player with inventory := t.player.inventory } }
  | .knownTargets, t => t = { s with knownTargets := t.knownTargets }

variable {s t : State} {e : Effect}

theorem Alters.sameBut (h : Alters e s t) : ∃ p, s.SameBut p t := by
  cases h with
  | nothing => exact ⟨.route, rfl⟩
  | addition known =>
    exact ⟨.counter _, rfl, differUnder_putEntry (lookupLast_key known) _⟩
  | setting known => exact ⟨.counter _, rfl, differUnder_putEntry known _⟩
  | track known =>
    exact ⟨.track _, rfl, differUnder_putEntry (lookupLast_key known) _,
      lookupLast_putEntry_map known rfl⟩
  | route => exact ⟨.route, rfl⟩
  | nextSituation => exact ⟨.nextSituation, rfl⟩
  | inventory => exact ⟨.inventory, rfl⟩
  | knownTargets => exact ⟨.knownTargets, rfl⟩

/-! Actions do not fail on whole numbers -/

section Whole

variable (counters : ∀ k c, (k, c) ∈ s.counters → c.Whole)
  (tracks : ∀ k t, (k, t) ∈ s.tracks → t.Whole)

include counters in
theorem exists_addToCounter (key : String) (delta : Int) (cap : Option Number) :
    ∃ t, s.addToCounter key delta cap = .ok t := by
  unfold addToCounter
  split
  · rename_i n here
    obtain ⟨i, rfl⟩ := counters key _ (lookupLast_mem here) n rfl
    exact ⟨_, rfl⟩
  · exact ⟨s, rfl⟩

include tracks in
theorem exists_shiftTrack (key : String) (delta : Int) (cap : Option Number) :
    ∃ t, s.shiftTrack key delta cap = .ok t := by
  unfold shiftTrack
  split
  · rename_i t here
    obtain ⟨i, whole⟩ := (tracks key t (lookupLast_mem here)).value
    rw [whole]
    exact ⟨_, rfl⟩
  · exact ⟨s, rfl⟩

theorem exists_setCounterTo (s : State) (key : String) (raw : List Char) (cap : Option Number) :
    ∃ t, (s.setCounterTo key raw cap).result = .ok t := by
  unfold setCounterTo
  split
  · exact ⟨s, rfl⟩
  · split
    · exact ⟨_, rfl⟩
    · exact ⟨s, rfl⟩

include counters tracks in
theorem exists_doAction (a : Action) (cap : Option Number) :
    ∃ t, (s.doAction a cap).result = .ok t := by
  cases a with
  | add raw =>
    rw [doAction, doAdd]
    split
    · exact ⟨s, rfl⟩
    · dsimp only
      split
      · simpa using exists_addToCounter counters _ _ cap
      · split
        · simpa using exists_shiftTrack tracks _ _ cap
        · exact ⟨s, rfl⟩
  | set raw =>
    rw [doAction, doSet]
    split
    · exact ⟨s, rfl⟩
    · split
      · exact ⟨_, rfl⟩
      · split
        · exact ⟨_, rfl⟩
        · dsimp only
          split
          · exact exists_setCounterTo s _ _ cap
          · exact ⟨s, rfl⟩
  | track raw =>
    rw [doAction, doTrack]
    split
    · exact ⟨s, rfl⟩
    · simpa using exists_shiftTrack tracks _ _ cap
  | _ => exact ⟨_, rfl⟩

include counters tracks in
theorem exists_applyEffect {allowed : Bool} (guard : (s.allows e.guard?).result = .ok allowed)
    (narrative : Bool) : ∃ t lines, (s.applyEffect narrative e).result = .ok (t, lines) := by
  rw [result_applyEffect, guard]
  cases allowed with
  | false => exact ⟨s, [], rfl⟩
  | true =>
    cases e.action? with
    | none => exact ⟨s, [], rfl⟩
    | some a =>
      obtain ⟨t, done⟩ := exists_doAction counters tracks a e.cap?
      exact ⟨t, _, map_eq_ok.2 ⟨t, done, rfl⟩⟩

end Whole

/-! Actions that refer to nothing do nothing -/

theorem addToCounter_unknown {key : String} {delta : Int} {cap : Option Number}
    (unknown : key ∉ s.counters.map Prod.fst) (h : s.addToCounter key delta cap = .ok t) :
    t = s := by
  obtain ⟨n, sum, known, -⟩ | ⟨-, same⟩ := addToCounter_eq_ok h
  · exact absurd (lookupLast_key known) unknown
  · exact same

theorem shiftTrack_unknown {key : String} {delta : Int} {cap : Option Number}
    (unknown : key ∉ s.tracks.map Prod.fst) (h : s.shiftTrack key delta cap = .ok t) : t = s := by
  obtain ⟨track, sum, known, -⟩ | ⟨-, same⟩ := shiftTrack_eq_ok h
  · exact absurd (lookupLast_key known) unknown
  · exact same

section Aimless

variable {raw : String} {cap : Option Number}

theorem doAdd_aimless
    (aimless : ¬ (Action.add raw).Aims (s.counters.map Prod.fst) (s.tracks.map Prod.fst))
    (h : (s.doAdd raw cap).result = .ok t) : t = s := by
  obtain ⟨-, same⟩ | ⟨path, delta, read, place⟩ := doAdd_eq_ok h
  · exact same
  · obtain ⟨area, added⟩ | ⟨area, shifted⟩ | ⟨-, -, same⟩ := place
    · exact addToCounter_unknown
        (fun known => aimless ⟨path, delta, read, .inl ⟨area, known⟩⟩) added
    · exact shiftTrack_unknown
        (fun known => aimless ⟨path, delta, read, .inr ⟨area, known⟩⟩) shifted
    · exact same

theorem doSet_aimless
    (aimless : ¬ (Action.set raw).Aims (s.counters.map Prod.fst) (s.tracks.map Prod.fst))
    (h : (s.doSet raw cap).result = .ok t) : t = s := by
  obtain ⟨-, same⟩ | ⟨path, v, read, place⟩ := doSet_eq_ok h
  · exact same
  · obtain ⟨next, -⟩ | ⟨-, ⟨route, -⟩ | ⟨-, ⟨area, set⟩ | ⟨-, same⟩⟩⟩ := place
    · exact absurd ⟨path, v, read, .inl next⟩ aimless
    · exact absurd ⟨path, v, read, .inr (.inl route)⟩ aimless
    · obtain ⟨c, known, value, -⟩ | ⟨-, same⟩ := setCounterTo_eq_ok set
      · have some : (counterOf? v).isSome := by simp [value]
        exact absurd ⟨path, v, read, .inr (.inr ⟨⟨area, known⟩, some⟩)⟩ aimless
      · exact same
    · exact same

theorem doTrack_aimless
    (aimless : ¬ (Action.track raw).Aims (s.counters.map Prod.fst) (s.tracks.map Prod.fst))
    (h : (s.doTrack raw cap).result = .ok t) : t = s := by
  obtain ⟨-, same⟩ | ⟨key, delta, read, shifted⟩ := doTrack_eq_ok h
  · exact same
  · exact shiftTrack_unknown (fun known => aimless ⟨key, delta, read, known⟩) shifted

theorem doAction_aimless {a : Action}
    (aimless : ¬ a.Aims (s.counters.map Prod.fst) (s.tracks.map Prod.fst))
    (h : (s.doAction a cap).result = .ok t) : t = s := by
  cases a with
  | add raw => exact doAdd_aimless aimless h
  | set raw => exact doSet_aimless aimless h
  | track raw => exact doTrack_aimless aimless h
  | _ => exact absurd trivial aimless

theorem doAction_line {a : Action} (tells : a.line? ≠ none)
    (h : (s.doAction a cap).result = .ok t) : t = s := by
  cases a with
  | log | secret | agreement =>
    cases h
    rfl
  | _ => exact absurd rfl tells

end Aimless

/-- An effect writes at one place at most. Let all counters be flags or whole numbers and all tracks be
of whole numbers. Then any effect whose guard can be weighed has a result, and the state that results
is the old one but for one place. It is the old one where the guard does not hold, where no action is
known, where the action is a line, and where it cannot be read or does not refer to what is there. -/
theorem effect_writes_one_place (counters : ∀ k c, (k, c) ∈ s.counters → c.Whole)
    (tracks : ∀ k t, (k, t) ∈ s.tracks → t.Whole) {allowed : Bool}
    (guard : (s.allows e.guard?).result = .ok allowed) (narrative : Bool) :
    ∃ t lines, (s.applyEffect narrative e).result = .ok (t, lines) ∧ (∃ p, s.SameBut p t) ∧
      (allowed = false ∨ e.action? = none → t = s) ∧
      ∀ a, e.action? = some a →
        a.line? ≠ none ∨ ¬ a.Aims (s.counters.map Prod.fst) (s.tracks.map Prod.fst) → t = s := by
  obtain ⟨t, lines, done⟩ := exists_applyEffect counters tracks guard narrative
  refine ⟨t, lines, done, (applyEffect_alters done).sameBut, ?_, ?_⟩
  · intro idle
    obtain ⟨-, same⟩ | ⟨holds, ⟨-, same⟩ | ⟨a, does, -⟩⟩ := applyEffect_eq_ok done
    · exact same
    · exact same
    · rw [guard] at holds
      cases holds
      simp [does] at idle
  · intro a does idle
    obtain ⟨-, same⟩ | ⟨-, ⟨-, same⟩ | ⟨b, does', worked⟩⟩ := applyEffect_eq_ok done
    · exact same
    · exact same
    · cases does.symm.trans does'
      obtain line | aimless := idle
      · exact doAction_line line worked
      · exact doAction_aimless aimless worked

end State

/-- A stove that is lit and not yet hot. -/
def stove : State where
  situation := "kitchen"
  counters := [("lit", .flag true), ("logs", .number (.int 2))]
  tracks := [("heat", ⟨"Heat", .int 1, .int 4⟩)]
  log := []
  route := none
  nextSituation := none
  player := .newcomer .en
  baseline := none
  knownTargets := []
  sceneDescriptions := []

/-- A log on the fire, written among other keys. -/
def stoking : Effect :=
  ⟨[.action (.log "It crackles."), .unknown "boom" .null, .guard "counters.lit == true",
    .action (.add "tracks.heat,2"), .cap (.int 2)]⟩

theorem effect_writes_one_place_stove :
    (stove.allows stoking.guard?).result = .ok true ∧
      ∃ t lines, (stove.applyEffect true stoking).result = .ok (t, lines) ∧
        ∃ p, stove.SameBut p t := by
  have counters : ∀ k c, (k, c) ∈ stove.counters → c.Whole := by
    rintro k c mem n rfl
    have whole : k = "logs" ∧ n = .int 2 := by simpa [stove] using mem
    exact ⟨2, whole.2⟩
  have tracks : ∀ k t, (k, t) ∈ stove.tracks → t.Whole := by
    rintro k t (_ | ⟨_, ⟨⟩⟩)
    exact ⟨⟨1, rfl⟩, ⟨4, rfl⟩⟩
  have guard : (stove.allows stoking.guard?).result = .ok true := by cbv
  obtain ⟨t, lines, done, place, -⟩ := State.effect_writes_one_place counters tracks guard true
  exact ⟨guard, t, lines, done, place⟩

end Storyworld
