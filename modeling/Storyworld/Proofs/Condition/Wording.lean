import Storyworld.Condition.Eval
import Storyworld.Proofs.Results

/-!
When a failure has no wording. A message shows values, and a value cannot be shown if a whole number
anywhere inside it has too many digits.
-/

namespace Storyworld

open Condition

theorem Decimal.writeWhole_eq_error {i : Int} {f : Fault} :
    writeWhole i = .error f ↔ f = .tooManyDigits ∧ pow10 digitLimit ≤ i.natAbs := by
  unfold writeWhole
  split
  case isTrue small => simp [Nat.not_le_of_lt small]
  case isFalse large => simp [Nat.le_of_not_lt large, eq_comm]

namespace Value

inductive Unwritable : Value → Prop where
  | int {i : Int} (large : Decimal.pow10 Decimal.digitLimit ≤ i.natAbs) : Unwritable (.int i)
  | item {v : Value} {items : List Value} (mem : v ∈ items) (inner : Unwritable v) :
      Unwritable (.list items)
  | entry {k : String} {v : Value} {entries : Entries} (mem : (k, v) ∈ entries)
      (inner : Unwritable v) : Unwritable (.mapping entries)

theorem unwritable_list {items : List Value} :
    Unwritable (.list items) ↔ ∃ v ∈ items, v.Unwritable := by
  constructor
  · intro h
    cases h with
    | item mem inner => exact ⟨_, mem, inner⟩
  · rintro ⟨v, mem, inner⟩
    exact .item mem inner

theorem unwritable_mapping {entries : Entries} :
    Unwritable (.mapping entries) ↔ ∃ e ∈ entries, e.2.Unwritable := by
  constructor
  · intro h
    cases h with
    | entry mem inner => exact ⟨_, mem, inner⟩
  · rintro ⟨⟨k, v⟩, mem, inner⟩
    exact .entry mem inner

/-- Text pieces one of which cannot be written, in a row whose later pieces cannot. -/
theorem row_eq_error {x y : Except Fault String} {g : String → String → String} {p q : Prop}
    (hx : ∀ f, x = .error f ↔ f = .tooManyDigits ∧ p)
    (hy : ∀ f, y = .error f ↔ f = .tooManyDigits ∧ q) (f : Fault) :
    (do return g (← x) (← y)) = .error f ↔ f = .tooManyDigits ∧ (p ∨ q) := by
  cases x with
  | error f' =>
    obtain ⟨rfl, unwritable⟩ := (hx f').1 rfl
    constructor
    · intro h
      cases h
      exact ⟨rfl, .inl unwritable⟩
    · rintro ⟨rfl, -⟩
      rfl
  | ok s =>
    have writable : ¬ p := fun unwritable => by simpa using (hx _).2 ⟨rfl, unwritable⟩
    cases y with
    | error f' =>
      obtain ⟨rfl, unwritable⟩ := (hy f').1 rfl
      constructor
      · intro h
        cases h
        exact ⟨rfl, .inr unwritable⟩
      · rintro ⟨rfl, -⟩
        rfl
    | ok t =>
      have writable' : ¬ q := fun unwritable => by simpa using (hy _).2 ⟨rfl, unwritable⟩
      constructor
      · intro h
        cases h
      · rintro ⟨-, unwritable | unwritable⟩
        · exact absurd unwritable writable
        · exact absurd unwritable writable'

theorem shown_eq_error (v : Value) (f : Fault) :
    v.shown = .error f ↔ f = .tooManyDigits ∧ v.Unwritable := by
  revert f
  refine shown.induct
    (fun v => ∀ f, v.shown = .error f ↔ f = .tooManyDigits ∧ v.Unwritable)
    (fun entries => ∀ f, shownEntries entries = .error f ↔
      f = .tooManyDigits ∧ ∃ e ∈ entries, e.2.Unwritable)
    (fun items => ∀ f, shownItems items = .error f ↔
      f = .tooManyDigits ∧ ∃ v ∈ items, v.Unwritable)
    ?null ?bool ?int ?float ?text ?list ?mapping ?noItem ?item ?items ?noEntry ?entry ?entries v
  case null | bool | float | text =>
    intros
    constructor
    · intro h
      cases h
    · rintro ⟨-, unwritable⟩
      cases unwritable
  case int =>
    intro i f
    rw [shown, Decimal.writeWhole_eq_error]
    constructor
    · rintro ⟨same, large⟩
      exact ⟨same, .int large⟩
    · rintro ⟨same, ⟨large⟩⟩
      exact ⟨same, large⟩
  case list =>
    intro items ih f
    rw [unwritable_list, ← ih f]
    exact bind_pure_eq_error
  case mapping =>
    intro entries ih f
    rw [unwritable_mapping, ← ih f]
    exact bind_pure_eq_error
  case noItem => simp [shownItems]
  case item =>
    intro v ih f
    simpa [shownItems] using ih f
  case items =>
    intro v w rest ihFirst ihRest f
    have row := row_eq_error (g := fun s t => s ++ ", " ++ t) ihFirst ihRest f
    simp only [List.mem_cons, exists_eq_or_imp] at row ⊢
    exact row
  case noEntry => simp [shownEntries]
  case entry =>
    intro k v ih f
    have value : shownEntries [(k, v)] = .error f ↔ v.shown = .error f := bind_pure_eq_error
    rw [value, ih f]
    simp
  case entries =>
    intro k v e rest ihFirst ihRest f
    have row := row_eq_error
      (g := fun s t => Text.quoted k ++ ": " ++ s ++ ", " ++ t) ihFirst ihRest f
    simp only [List.mem_cons, exists_eq_or_imp] at row ⊢
    exact row

end Value

namespace Condition

/-- The values that the wording of a failure shows. -/
def Failure.shows : Failure → List Value
  | undefinedProperty key => [key]
  | outOfRange i => [.int i]
  | unreadable key _ => [key]
  | notNegatable v => [v]
  | notComparable _ l r => [l, r]
  | notNumbers _ l r => [l, r]
  | unknownName _ | divisionByZero | fault _ => []

/-- A failure that is no fault has a wording unless one of its values cannot be written. -/
theorem Failure.message_eq_error {e : Failure} (proper : ∀ f, e ≠ .fault f) (f : Fault) :
    e.message = .error f ↔ f = .tooManyDigits ∧ ∃ v ∈ e.shows, v.Unwritable := by
  cases e with
  | unknownName | divisionByZero => simp [message, shows]
  | undefinedProperty | outOfRange | unreadable | notNegatable =>
    simp only [shows, List.mem_singleton, exists_eq_left, ← Value.shown_eq_error]
    exact bind_pure_eq_error
  | notComparable op l r =>
    have row := Value.row_eq_error (g := fun s t => "Cannot compare " ++ s ++ " " ++ op.symbol ++
      " " ++ t) l.shown_eq_error r.shown_eq_error f
    simp only [shows, List.mem_cons, List.not_mem_nil, or_false, exists_eq_or_imp,
      exists_eq_left]
    exact row
  | notNumbers op l r =>
    have row := Value.row_eq_error (g := fun s t => "Operator " ++ Text.quoted op.symbol ++
      " needs numbers, got " ++ s ++ " and " ++ t) l.shown_eq_error r.shown_eq_error f
    simp only [shows, List.mem_cons, List.not_mem_nil, or_false, exists_eq_or_imp,
      exists_eq_left]
    exact row
  | fault f' => exact absurd rfl (proper f')

end Condition

end Storyworld
