import Storyworld.Proofs.Check.Document
import Storyworld.Proofs.Json.Stored
import Storyworld.Proofs.State.Document
import Storyworld.Registry

/-!
States whose numbers are whole, however long they are, and their save files. A save file holds the
text that was written, it is read as that very state or not at all, and it is never taken for a
scenario.
-/

namespace Storyworld

namespace Value

/-- A value without floating-point numbers. -/
abbrev Integral : Value → Prop :=
  Whole fun _ => True

@[simp] theorem integral_option {α : Type} {write : α → Value} {o : Option α} :
    (ofOption write o).Integral ↔ ∀ a, o = some a → (write a).Integral := by
  cases o <;> simp [ofOption]

@[simp] theorem integral_textOption (o : Option String) : (ofTextOption o).Integral := by
  cases o <;> simp [ofTextOption]

theorem integral_entries {α : Type} {write : α → Value} {m : List (String × α)}
    (each : ∀ k a, (k, a) ∈ m → (write a).Integral) :
    (mapping (m.map fun e => (e.1, write e.2))).Integral := by
  refine whole_mapping.2 ?_
  rw [List.forall_mem_map]
  exact fun e => each e.1 e.2

end Value

def Number.Whole (n : Number) : Prop :=
  ∃ i, n = .int i

/-- A flag or a whole number. -/
def Counter.Whole (c : Counter) : Prop :=
  ∀ n, c = .number n → n.Whole

structure Track.Whole (t : Track) : Prop where
  value : t.value.Whole
  max : t.max.Whole

def LogEntry.Whole (e : LogEntry) : Prop :=
  ∀ cs, e.changes = some cs → ∀ c ∈ cs, c.delta.Whole

/-- A state whose numbers are all whole; counters may also be flags. -/
structure State.Whole (s : State) : Prop where
  counters : ∀ k c, (k, c) ∈ s.counters → c.Whole
  tracks : ∀ k t, (k, t) ∈ s.tracks → t.Whole
  log : ∀ e ∈ s.log, e.Whole

theorem Number.Whole.integral {n : Number} (whole : n.Whole) : n.toValue.Integral := by
  obtain ⟨i, rfl⟩ := whole
  exact .int trivial

theorem Counter.Whole.integral {c : Counter} (whole : c.Whole) : c.toValue.Integral := by
  cases c with
  | flag b => exact .bool b
  | number n => exact (whole n rfl).integral

theorem Track.Whole.integral {t : Track} (whole : t.Whole) : t.toValue.Integral := by
  simp [Track.toValue, whole.value.integral, whole.max.integral]

theorem Attributes.integral (a : Attributes) : a.toValue.Integral :=
  Value.integral_entries fun _ _ _ => .int trivial

theorem Completion.integral (c : Completion) : c.toValue.Integral := by
  simp [Completion.toValue, AttributeChange.toValue, AttributeChange.fields, Attributes.integral]

theorem Player.integral (p : Player) : p.toValue.Integral := by
  have attributes := p.attributes.integral
  have equipment : p.equipment.toValue.Integral :=
    Value.integral_entries fun _ o _ => Value.integral_textOption o
  have items (i : Item) : i.toValue.Integral := by simp [Item.toValue, Item.fields]
  simp [Player.toValue, attributes, equipment, items, Completion.integral]

theorem LogEntry.Whole.integral {e : LogEntry} (whole : e.Whole) : e.toValue.Integral := by
  have change (c : Change) (delta : c.delta.Whole) : c.toValue.Integral := by
    simp [Change.toValue, delta.integral]
  have changes (cs : List Change) (some : e.changes = some cs) (c : Change) (mem : c ∈ cs) :
      c.toValue.Integral :=
    change c (whole cs some c mem)
  simpa [LogEntry.toValue] using changes

theorem State.Whole.integral {s : State} (whole : s.Whole) : s.toValue.Integral := by
  have counters : (countersValue s.counters).Integral :=
    Value.integral_entries fun k c mem => (whole.counters k c mem).integral
  have tracks : (tracksValue s.tracks).Integral :=
    Value.integral_entries fun k t mem => (whole.tracks k t mem).integral
  have log (e : LogEntry) (mem : e ∈ s.log) : e.toValue.Integral := (whole.log e mem).integral
  have scenes : (Value.mapping (s.sceneDescriptions.map fun d => (d.1, .text d.2))).Integral :=
    Value.integral_entries fun _ text _ => .text text
  rw [State.toValue]
  refine Value.whole_mapping.2 ?_
  simpa [-Value.whole_mapping, counters, tracks, scenes, s.player.integral,
    Attributes.integral] using log

namespace State

variable {s : State} (indent : Option Nat)

theorem toSave_no_return (whole : s.Whole) : '\r' ∉ (s.toSave indent).toList := by
  simpa [toSave, Json.write] using Json.writeValue_no_return 0 whole.integral

theorem readAll_toSave {o : Json.Options} {v : Value} (whole : s.Whole)
    (read : Json.readAll o (s.toSave indent).toList = .ok v) : v = s.toValue := by
  rw [toSave, Json.write, String.toList_ofList] at read
  exact Json.readAll_stored whole.integral read

/-- What is read from the save file of a state is that state. -/
theorem ofSave_toSave {t : State} (whole : s.Whole) (once : s.KeysOnce)
    (loaded : ofSave (s.toSave indent) = .fits t) : t = s := by
  unfold ofSave at loaded
  split at loaded
  · rename_i v read
    unfold Json.readSave? at read
    split at read
    · rename_i w all
      split at read
      · cases read
        rw [readAll_toSave indent whole all, read_toValue once] at loaded
        cases loaded
        rfl
      · cases read
    · cases read
  · cases loaded

/-- A save file is no scenario: it has no actions. -/
theorem readScenario_toSave (whole : s.Whole) (sc : Scenario) :
    Registry.readScenario (s.toSave indent) ≠ .ok sc := by
  intro read
  obtain ⟨v, document, read⟩ := bind_eq_ok.1 read
  rw [mapError_eq_ok] at document read
  unfold Json.readDocument at document
  dsimp only at document
  split at document
  · rename_i w all
    cases document
    have fits := Schema.Checked.toExcept_eq_ok.1 read
    rw [readAll_toSave indent whole all, toValue, Value.merged] at fits
    obtain ⟨n, v, found, -⟩ := Schema.required_eq_fits.1 (Scenario.read_fits fits).1
    have key := lookupLast_key (Schema.fieldUnder_only found)
    rw [mem_mergeEntries_keys] at key
    simp [Value.mergedEntries] at key
  · cases document

end State

end Storyworld
