import Storyworld.Proofs.Json.RoundTrip
import Storyworld.Proofs.Session.Run
import Storyworld.Proofs.State.Document

/-!
Save files reload to the state that was saved. What a state holds is never nested deep, so a save file
is read again whenever the numbers in it are whole and not too long.
-/

namespace Storyworld

namespace Value

theorem depth_list_le {items : List Value} {n : Nat} (each : ∀ v ∈ items, v.depth ≤ n) :
    (list items).depth ≤ n + 1 := by
  have most : depthOfItems items ≤ n := by
    induction items with
    | nil => exact Nat.zero_le n
    | cons v rest ih =>
      have first := each v List.mem_cons_self
      have others := ih fun w mem => each w (List.mem_cons_of_mem _ mem)
      exact Nat.max_le.2 ⟨first, others⟩
  exact Nat.succ_le_succ most

theorem depth_mapping_le {entries : Entries} {n : Nat} (each : ∀ e ∈ entries, e.2.depth ≤ n) :
    (mapping entries).depth ≤ n + 1 := by
  have most : depthOfEntries entries ≤ n := by
    induction entries with
    | nil => exact Nat.zero_le n
    | cons e rest ih =>
      have first := each e List.mem_cons_self
      have others := ih fun w mem => each w (List.mem_cons_of_mem _ mem)
      exact Nat.max_le.2 ⟨first, others⟩
  exact Nat.succ_le_succ most

/-- An exact value in which lists and mappings stand at most `n` deep in each other. -/
structure Storable (n : Nat) (v : Value) : Prop where
  exact : v.Exact
  shallow : v.depth ≤ n

variable {n : Nat}

theorem Storable.mono {m : Nat} {v : Value} (h : v.Storable n) (le : n ≤ m) : v.Storable m :=
  ⟨h.exact, Nat.le_trans h.shallow le⟩

theorem storable_null : (null).Storable n := ⟨.null, Nat.zero_le n⟩

theorem storable_bool (b : Bool) : (bool b).Storable n := ⟨.bool b, Nat.zero_le n⟩

theorem storable_text (s : String) : (text s).Storable n := ⟨.text s, Nat.zero_le n⟩

theorem storable_int {i : Int} (short : Decimal.Short i) : (int i).Storable n :=
  ⟨.int short, Nat.zero_le n⟩

theorem storable_list {items : List Value} (each : ∀ v ∈ items, v.Storable n) :
    (list items).Storable (n + 1) :=
  ⟨.list fun v mem => (each v mem).exact, depth_list_le fun v mem => (each v mem).shallow⟩

theorem storable_mapping {entries : Entries} (each : ∀ e ∈ entries, e.2.Storable n) :
    (mapping entries).Storable (n + 1) :=
  ⟨.mapping fun _ _ mem => (each _ mem).exact, depth_mapping_le fun e mem => (each e mem).shallow⟩

theorem storable_items {α : Type} {write : α → Value} {as : List α}
    (each : ∀ a ∈ as, (write a).Storable n) : (list (as.map write)).Storable (n + 1) := by
  refine storable_list fun v mem => ?_
  obtain ⟨a, inside, rfl⟩ := List.mem_map.1 mem
  exact each a inside

theorem storable_entries {α : Type} {write : α → Value} {m : List (String × α)}
    (each : ∀ k a, (k, a) ∈ m → (write a).Storable n) :
    (mapping (m.map fun e => (e.1, write e.2))).Storable (n + 1) := by
  refine storable_mapping fun e mem => ?_
  obtain ⟨⟨k, a⟩, inside, rfl⟩ := List.mem_map.1 mem
  exact each k a inside

theorem storable_option {α : Type} {write : α → Value} {o : Option α}
    (each : ∀ a, o = some a → (write a).Storable n) : (ofOption write o).Storable n := by
  cases o with
  | none => exact storable_null
  | some a => exact each a rfl

theorem storable_textOption (o : Option String) : (ofTextOption o).Storable n :=
  storable_option fun s _ => storable_text s

end Value

open Value

/-- A whole number that is not too long to be read. -/
def Number.Exact (n : Number) : Prop :=
  ∃ i, n = .int i ∧ Decimal.Short i

def Attributes.Exact (a : Attributes) : Prop :=
  ∀ f ∈ a.fields, Decimal.Short f.2

structure AttributeChange.Exact (c : AttributeChange) : Prop where
  change : Decimal.Short c.change
  oldValue : Decimal.Short c.oldValue
  newValue : Decimal.Short c.newValue

structure Completion.Exact (c : Completion) : Prop where
  changes : ∀ a ∈ c.attributeChanges, a.Exact
  attributes : c.finalAttributes.Exact

structure LogEntry.Exact (e : LogEntry) : Prop where
  id : Decimal.Short e.id
  changes : ∀ cs, e.changes = some cs → ∀ c ∈ cs, c.delta.Exact

/-- A state whose numbers are all whole and not too long to be read; counters may also be flags. -/
structure State.Exact (s : State) : Prop where
  counters : ∀ k n, (k, Counter.number n) ∈ s.counters → n.Exact
  tracks : ∀ k t, (k, t) ∈ s.tracks → t.value.Exact ∧ t.max.Exact
  log : ∀ e ∈ s.log, e.Exact
  attributes : s.player.attributes.Exact
  history : ∀ c ∈ s.player.history, c.Exact
  baseline : ∀ a, s.baseline = some a → a.Exact

instance (i : Int) : Decidable (Decimal.Short i) :=
  inferInstanceAs (Decidable (_ < _))

instance (n : Number) : Decidable n.Exact :=
  match n with
  | .int i => decidable_of_iff (Decimal.Short i)
      ⟨fun short => ⟨i, rfl, short⟩, fun ⟨_, same, short⟩ => by cases same; exact short⟩
  | .float _ => isFalse fun ⟨_, same, _⟩ => nomatch same

instance (c : Counter) : Decidable (∀ n, c = .number n → n.Exact) :=
  match c with
  | .flag _ => isTrue nofun
  | .number n => decidable_of_iff n.Exact
      ⟨fun exact m same => by cases same; exact exact, fun each => each n rfl⟩

instance (a : Attributes) : Decidable a.Exact :=
  inferInstanceAs (Decidable (∀ f ∈ a.fields, Decimal.Short f.2))

instance (c : AttributeChange) : Decidable c.Exact :=
  decidable_of_iff (Decimal.Short c.change ∧ Decimal.Short c.oldValue ∧ Decimal.Short c.newValue)
    ⟨fun h => ⟨h.1, h.2.1, h.2.2⟩, fun h => ⟨h.change, h.oldValue, h.newValue⟩⟩

instance (c : Completion) : Decidable c.Exact :=
  decidable_of_iff ((∀ a ∈ c.attributeChanges, a.Exact) ∧ c.finalAttributes.Exact)
    ⟨fun h => ⟨h.1, h.2⟩, fun h => ⟨h.changes, h.attributes⟩⟩

instance (e : LogEntry) : Decidable e.Exact :=
  decidable_of_iff (Decimal.Short e.id ∧ ∀ cs ∈ e.changes, ∀ c ∈ cs, c.delta.Exact)
    ⟨fun h => ⟨h.1, h.2⟩, fun h => ⟨h.id, h.changes⟩⟩

instance (s : State) : Decidable s.Exact :=
  decidable_of_iff ((∀ e ∈ s.counters, ∀ n, e.2 = .number n → n.Exact) ∧
      (∀ e ∈ s.tracks, e.2.value.Exact ∧ e.2.max.Exact) ∧ (∀ e ∈ s.log, e.Exact) ∧
      s.player.attributes.Exact ∧ (∀ c ∈ s.player.history, c.Exact) ∧ ∀ a ∈ s.baseline, a.Exact)
    ⟨fun ⟨counters, tracks, log, attributes, history, baseline⟩ =>
      ⟨fun k n mem => counters (k, .number n) mem n rfl, fun k t => tracks (k, t), log, attributes,
        history, baseline⟩,
    fun h => ⟨fun e mem n same => h.counters e.1 n (same ▸ mem), fun e => h.tracks e.1 e.2, h.log,
      h.attributes, h.history, h.baseline⟩⟩

theorem Number.Exact.storable {n : Number} (h : n.Exact) {depth : Nat} :
    n.toValue.Storable depth := by
  obtain ⟨i, rfl, short⟩ := h
  exact storable_int short

theorem Attributes.Exact.storable {a : Attributes} (h : a.Exact) : a.toValue.Storable 1 :=
  storable_mapping fun e mem => by
    obtain ⟨f, field, rfl⟩ := List.mem_map.1 mem
    exact storable_int (h f field)

theorem Equipment.storable (e : Equipment) : e.toValue.Storable 1 :=
  storable_entries fun _ o _ => storable_textOption o

theorem Item.storable (i : Item) : i.toValue.Storable 1 := by
  refine storable_mapping ?_
  simp [Item.fields, storable_text, storable_textOption]

theorem AttributeChange.Exact.storable {c : AttributeChange} (h : c.Exact) :
    c.toValue.Storable 1 := by
  refine storable_mapping ?_
  simp [AttributeChange.fields, storable_text, storable_int h.change, storable_int h.oldValue,
    storable_int h.newValue]

theorem Completion.Exact.storable {c : Completion} (h : c.Exact) : c.toValue.Storable 3 := by
  have changes := storable_items fun a mem => (h.changes a mem).storable
  have attributes := h.attributes.storable.mono (Nat.le_succ 1)
  refine storable_mapping ?_
  simp [storable_text, changes, attributes]

theorem Player.storable {p : Player} (attributes : p.attributes.Exact)
    (history : ∀ c ∈ p.history, c.Exact) : p.toValue.Storable 5 := by
  have attributes := attributes.storable.mono (show 1 ≤ 4 by decide)
  have equipment := p.equipment.storable.mono (show 1 ≤ 4 by decide)
  have inventory := (storable_items fun i (_ : i ∈ p.inventory) => i.storable).mono
    (show 2 ≤ 4 by decide)
  have history := storable_items fun c mem => (history c mem).storable
  refine storable_mapping ?_
  simp [storable_text, attributes, equipment, inventory, history]

theorem LogEntry.Exact.storable {e : LogEntry} (h : e.Exact) : e.toValue.Storable 3 := by
  have change (c : Change) (delta : c.delta.Exact) : c.toValue.Storable 1 := by
    refine storable_mapping ?_
    simp [storable_text, delta.storable]
  have changes : (ofOption (fun cs => .list (cs.map Change.toValue)) e.changes).Storable 2 :=
    storable_option fun cs some => storable_items fun c mem => change c (h.changes cs some c mem)
  refine storable_mapping ?_
  simp [storable_int h.id, storable_text, storable_textOption, changes]

theorem State.Exact.storable {s : State} (h : s.Exact) : s.toValue.Storable 6 := by
  have counters : (countersValue s.counters).Storable 1 := by
    refine storable_entries fun k c mem => ?_
    cases c with
    | flag b => exact storable_bool b
    | number n => exact (h.counters k n mem).storable
  have tracks : (tracksValue s.tracks).Storable 2 := by
    refine storable_entries fun k t mem => storable_mapping ?_
    obtain ⟨value, most⟩ := h.tracks k t mem
    simp [storable_text, value.storable, most.storable]
  have log := storable_items fun e mem => (h.log e mem).storable
  have player := Player.storable h.attributes h.history
  have baseline : (ofOption Attributes.toValue s.baseline).Storable 1 :=
    storable_option fun a some => (h.baseline a some).storable
  have targets : (list (s.knownTargets.map text)).Storable 1 :=
    storable_items fun name _ => storable_text name
  have scenes : (mapping (s.sceneDescriptions.map fun d => (d.1, text d.2))).Storable 1 :=
    storable_entries fun _ d _ => storable_text d
  refine storable_mapping ?_
  simp [storable_text, storable_textOption, counters.mono (show 1 ≤ 5 by decide),
    tracks.mono (show 2 ≤ 5 by decide), log.mono (show 4 ≤ 5 by decide), player,
    baseline.mono (show 1 ≤ 5 by decide), targets.mono (show 1 ≤ 5 by decide),
    scenes.mono (show 1 ≤ 5 by decide)]

namespace State

theorem ofSave_toSave_of_exact {s : State} (once : s.KeysOnce) (exact : s.Exact)
    (indent : Option Nat) : ofSave (s.toSave indent) = .fits s := by
  have storable := exact.storable
  have shallow : s.toValue.depth ≤ Json.depthLimit := Nat.le_trans storable.shallow (by decide)
  rw [ofSave, toSave, Json.readSave?_written indent storable.exact shallow]
  exact read_toValue once

/-- The save file of a state whose numbers are whole and not too long is read, and gives back that
very state, with every indentation. So play goes on from the one as from the other. -/
theorem save_reloads {s : State} (once : s.KeysOnce) (exact : s.Exact) (indent : Option Nat) :
    ofSave (s.toSave indent) = .fits s ∧ ∀ t, ofSave (s.toSave indent) = .fits t →
      ∀ (sc : Scenario) (now : Timestamp) (m : Move), m.play sc now t = m.play sc now s := by
  have loaded := ofSave_toSave_of_exact once exact indent
  refine ⟨loaded, fun t again => ?_⟩
  cases loaded.symm.trans again
  exact fun _ _ _ => rfl

/-- A state with texts that have to be escaped, with flags beside numbers, and with values that are
absent. -/
def attic : State where
  situation := "attic \"under\\roof\"\n\t\x01é\u2028😀"
  counters := [("open", .flag true), ("one", .number (.int 1)), ("", .number (.int (-120)))]
  tracks := [("dust", ⟨"Dust", .int 0, .int 5⟩)]
  log := [
    ⟨-1, .procedural, "", none, some [⟨"one", "One", .int 3, "Hash", "red"⟩]⟩,
    ⟨7, .npc, "/", some "Cat\x08\x0c\r", none⟩]
  route := some ""
  nextSituation := none
  player :=
    { Player.newcomer .zh with
      inventory := [⟨"lamp", "Lamp", "", "Package", none⟩, ⟨"hat", "Hat", "", "Crown", some .top⟩]
      history := [⟨"well", "The well", "2026-01-01", "yard", "Yard", [⟨"wisdom", 2, 10, 12⟩],
        .initial⟩] }
  baseline := none
  knownTargets := ["cat", "cat"]
  sceneDescriptions := [("attic", "Dark.")]

theorem short_of_lt {i : Int} (h : i.natAbs < 1000) : Decimal.Short i :=
  Nat.lt_of_lt_of_le h (Decimal.pow10_le (show 3 ≤ Decimal.digitLimit by decide))

theorem initial_exact : Attributes.initial.Exact := by
  have each : ∀ f ∈ Attributes.initial.fields, f.2.natAbs < 1000 := by decide
  exact fun f mem => short_of_lt (each f mem)

theorem attic_exact : attic.Exact where
  counters := by
    intro k n mem
    simp only [attic, List.mem_cons, List.not_mem_nil, Prod.mk.injEq, Counter.number.injEq,
      reduceCtorEq, and_false, false_or, or_false] at mem
    obtain ⟨-, rfl⟩ | ⟨-, rfl⟩ := mem
    · exact ⟨1, rfl, short_of_lt (by decide)⟩
    · exact ⟨-120, rfl, short_of_lt (by decide)⟩
  tracks := by
    intro k t mem
    cases List.mem_singleton.1 mem
    exact ⟨⟨0, rfl, short_of_lt (by decide)⟩, ⟨5, rfl, short_of_lt (by decide)⟩⟩
  log := by
    intro e mem
    obtain rfl | rfl : e = _ ∨ e = _ := by simpa [attic] using mem
    · refine ⟨short_of_lt (by decide), fun cs same c mem => ?_⟩
      cases same
      cases List.mem_singleton.1 mem
      exact ⟨3, rfl, short_of_lt (by decide)⟩
    · exact ⟨short_of_lt (by decide), nofun⟩
  attributes := initial_exact
  history := by
    intro c mem
    cases List.mem_singleton.1 mem
    refine ⟨fun a mem => ?_, initial_exact⟩
    cases List.mem_singleton.1 mem
    exact ⟨short_of_lt (by decide), short_of_lt (by decide), short_of_lt (by decide)⟩
  baseline := nofun

theorem save_reloads_attic : attic.KeysOnce ∧ attic.Exact ∧
    ofSave (attic.toSave none) = .fits attic ∧ ofSave (attic.toSave (some 2)) = .fits attic := by
  have once : attic.KeysOnce := ⟨by decide, by decide, by decide⟩
  exact ⟨once, attic_exact, (save_reloads once attic_exact none).1,
    (save_reloads once attic_exact (some 2)).1⟩

end State

end Storyworld
