import Storyworld.Json.Reader
import Storyworld.Proofs.Condition.Numbers
import Storyworld.Proofs.Decimal.Bounds

/-!
Whole numbers that were written are read as they were, up to the greatest number of digits that is
read, if there is one. The text behind a number must not go on with the number.
-/

namespace Storyworld

namespace Decimal

/-- A whole number with no more digits than are read. -/
def Short (i : Int) : Prop :=
  i.natAbs < pow10 digitLimit

/-- The value of plain digits as the library has it. -/
theorem valueOf_digitValues {ds : List Char} (digits : ∀ c ∈ ds, c.isDigit = true) :
    valueOf (digitValues ds) = Nat.ofDigitChars 10 ds 0 := by
  have folded : ∀ start, (digitValues ds).foldl (fun n d => 10 * n + d) start =
      Nat.ofDigitChars 10 ds start := by
    induction ds with
    | nil => exact fun _ => rfl
    | cons d ds ih =>
      intro start
      have first := digitValue?_plain (digits d List.mem_cons_self)
      have later := ih fun c mem => digits c (List.mem_cons_of_mem _ mem)
      simp only [digitValues, List.filterMap_cons, first, List.foldl_cons]
      exact later _
  exact folded 0

theorem digits_isDigit (n : Nat) : ∀ c ∈ Nat.toDigits 10 n, c.isDigit = true :=
  fun _ mem => Nat.isDigit_of_mem_toDigits (by decide) (by decide) mem

theorem valueOf_digits (n : Nat) : valueOf (digitValues (Nat.toDigits 10 n)) = n := by
  rw [valueOf_digitValues (digits_isDigit n), Nat.ofDigitChars_toDigits (by decide) (by decide)]

theorem digits_length {n k : Nat} (some : 0 < k) (h : n < pow10 k) :
    (Nat.toDigits 10 n).length ≤ k :=
  (Nat.length_toDigits_le_iff (by decide) some).2 h

theorem digits_cons (n : Nat) : ∃ d ds, Nat.toDigits 10 n = d :: ds :=
  List.exists_cons_of_ne_nil Nat.toDigits_ne_nil

/-- Digits begin with a zero only if there is nothing else. -/
theorem digits_head {n : Nat} (h : n ≠ 0) : ∀ c ∈ (Nat.toDigits 10 n).head?, c ≠ '0' := by
  induction n using Nat.strongRecOn with
  | ind n ih =>
    by_cases small : n < 10
    · have each : ∀ n < 10, n ≠ 0 → n.digitChar ≠ '0' := by decide
      rw [Nat.toDigits_of_lt_base small]
      intro c mem
      cases mem
      exact each n small h
    · have front := ih (n / 10) (by omega) (by omega)
      rw [Nat.toDigits_of_base_le (by decide) (by omega)]
      obtain ⟨d, ds, same⟩ := digits_cons (n / 10)
      rw [same] at front ⊢
      exact front

end Decimal

namespace Json

open Decimal

/-- Text that does not go on with a number. -/
def Ends (rest : List Char) : Prop :=
  ∀ c ∈ rest.head?, c.isDigit = false ∧ c ≠ '.' ∧ c ≠ 'e' ∧ c ≠ 'E'

theorem splitWhole_digits (n : Nat) {rest : List Char} (ends : Ends rest) :
    splitWhole (Nat.toDigits 10 n ++ rest) = (Nat.toDigits 10 n, rest) := by
  by_cases zero : n = 0
  · subst zero
    rfl
  · have span := Condition.spanDigits_append (digits_isDigit n) fun c mem => (ends c mem).1
    have head := digits_head zero
    obtain ⟨d, ds, same⟩ := digits_cons n
    rw [same] at span head ⊢
    have other : d ≠ '0' := head d rfl
    rw [← span]
    unfold splitWhole
    split
    · rename_i same
      cases same
      exact absurd rfl other
    · rfl

theorem splitFraction_ends {rest : List Char} (ends : Ends rest) :
    splitFraction rest = ([], rest) := by
  unfold splitFraction
  split
  · exact absurd rfl (ends '.' rfl).2.1
  · rfl

theorem splitExponent_ends {rest : List Char} (ends : Ends rest) :
    splitExponent rest = (none, rest) := by
  cases rest with
  | nil => rfl
  | cons c rest =>
    have mark := (ends c rfl).2.2
    simp [splitExponent, mark]

/-- A whole number is written as digits, with a minus in front if it is below zero. -/
theorem repr_cases (i : Int) : ∃ n : Nat, i.natAbs = n ∧
    (i = n ∧ i.repr.toList = Nat.toDigits 10 n ∨
      i = -n ∧ i.repr.toList = '-' :: Nat.toDigits 10 n) := by
  cases i with
  | ofNat n => exact ⟨n, rfl, .inl ⟨rfl, Nat.toList_repr⟩⟩
  | negSucc n =>
    refine ⟨n + 1, rfl, .inr ⟨rfl, ?_⟩⟩
    rw [Int.repr, String.toList_append, Nat.toList_repr]
    rfl

/-- A whole number has no more digits than are read, if those are limited. -/
def Options.Takes (o : Options) (i : Int) : Prop :=
  ∀ limit, o.maxDigits = some limit → (Nat.toDigits 10 i.natAbs).length ≤ limit

theorem Options.takes_of_short {o : Options} (limit : o.maxDigits = some digitLimit) {i : Int}
    (short : Short i) : o.Takes i := by
  intro l same
  cases limit.symm.trans same
  exact digits_length (by decide) short

theorem wholeValue_digits {o : Options} {n : Nat} (takes : o.Takes n) (negative : Bool) :
    wholeValue o negative (Nat.toDigits 10 n) = .ok (.int (if negative then -n else n)) := by
  cases limit : o.maxDigits with
  | none => simp [wholeValue, limit, valueOf_digits]
  | some l =>
    have few : ¬ l < (Nat.toDigits 10 n).length := Nat.not_lt_of_le (takes l limit)
    simp [wholeValue, limit, few, valueOf_digits]

/-- Digits that may have a minus in front are read as a whole number. -/
theorem readNumber_digits {o : Options} {n : Nat} (takes : o.Takes n) {rest : List Char}
    (ends : Ends rest) :
    readNumber o (Nat.toDigits 10 n ++ rest) = .ok (.int n, rest) ∧
      readNumber o ('-' :: Nat.toDigits 10 n ++ rest) = .ok (.int (-n), rest) := by
  have whole := wholeValue_digits takes
  have some : (Nat.toDigits 10 n).isEmpty = false := by simp [Nat.toDigits_ne_nil]
  constructor
  · have unsigned : ∀ cs, Nat.toDigits 10 n ++ rest ≠ '-' :: cs := by
      intro cs same
      obtain ⟨d, ds, cons⟩ := digits_cons n
      have digit := digits_isDigit n d (by simp [cons])
      rw [cons] at same
      cases same
      cases digit
    unfold readNumber
    split
    rename_i negative body parts
    split at parts
    · rename_i same
      exact absurd same (unsigned _)
    · cases parts
      simp [splitWhole_digits n ends, some, splitFraction_ends ends, splitExponent_ends ends, whole,
        Except.map]
  · simp [readNumber, splitWhole_digits n ends, some, splitFraction_ends ends,
      splitExponent_ends ends, whole, Except.map]

theorem readNumber_whole {o : Options} {i : Int} (takes : o.Takes i) {rest : List Char}
    (ends : Ends rest) : readNumber o (i.repr.toList ++ rest) = .ok (.int i, rest) := by
  obtain ⟨n, abs, cases⟩ := repr_cases i
  have takes : o.Takes n := by rwa [Options.Takes, abs] at takes
  obtain ⟨same, text⟩ | ⟨same, text⟩ := cases
  · rw [text, same]
    exact (readNumber_digits takes ends).1
  · rw [text, same]
    exact (readNumber_digits takes ends).2

end Json

end Storyworld
