import Mathlib.Tactic.ByContra
import Storyworld.Decimal.Binary
import Storyworld.Decimal.Whole

/-!
Which whole numbers a floating-point number can stand for: those that are nearer to the largest such
number than to the power of two above it. A floating-point number that is whole compares like the
whole number that it is.
-/

namespace Storyworld.Decimal

/-- The least size of a whole number that lies beyond the floating-point numbers. -/
def floatBound : Nat := pow2 1024 - pow2 970

theorem pow2_pos (n : Nat) : 0 < pow2 n := Nat.two_pow_pos n

theorem pow2_add (m n : Nat) : pow2 (m + n) = pow2 m * pow2 n := Nat.pow_add 2 m n

theorem pow2_succ (n : Nat) : pow2 (n + 1) = 2 * pow2 n := Nat.pow_succ'

theorem pow2_le {m n : Nat} (h : m ≤ n) : pow2 m ≤ pow2 n :=
  Nat.pow_le_pow_right (by decide) h

theorem pow2_lt {m n : Nat} (h : m < n) : pow2 m < pow2 n :=
  Nat.pow_lt_pow_right (by decide) h

theorem pow10_le {m n : Nat} (h : m ≤ n) : pow10 m ≤ pow10 n :=
  Nat.pow_le_pow_right (by decide) h

theorem pow2_le_pow10 (n : Nat) : pow2 n ≤ pow10 n :=
  Nat.pow_le_pow_left (by decide) n

theorem pow2_log2_le {n : Nat} (h : n ≠ 0) : pow2 n.log2 ≤ n := Nat.log2_self_le h

theorem lt_pow2_log2 (n : Nat) : n < pow2 (n.log2 + 1) := Nat.lt_log2_self

/-- A whole number needs as many binary places as its logarithm says, fifty-two of them kept. -/
theorem exponentFor_whole {n : Nat} (h : n ≠ 0) : exponentFor n 1 = (n.log2 : Int) - 52 := by
  have low := pow2_log2_le h
  have one : Nat.log2 1 = 0 := by decide
  have enough : ¬ (scaled n 1 ((n.log2 : Int) - 52)).1 / (scaled n 1 ((n.log2 : Int) - 52)).2 <
      pow2 52 := by
    unfold scaled
    split
    · rename_i large
      have places : n.log2 = 52 + ((n.log2 : Int) - 52).toNat := by omega
      rw [places, pow2_add] at low
      rw [Nat.one_mul, Nat.not_lt]
      exact (Nat.le_div_iff_mul_le (pow2_pos _)).2 low
    · rename_i small
      have places : n.log2 + (-((n.log2 : Int) - 52)).toNat = 52 := by omega
      have scaled := Nat.mul_le_mul_right (pow2 (-((n.log2 : Int) - 52)).toNat) low
      rw [← pow2_add, places] at scaled
      rw [Nat.div_one, Nat.not_lt]
      exact scaled
  simp only [exponentFor, one, Int.natCast_zero, Int.sub_zero, if_neg enough]
  omega

/-- Just below a power of two, rounding goes up to it from the middle on. -/
theorem roundHalfEven_top {n half : Nat} (pos : 0 < half) (below : n < pow2 53 * (2 * half)) :
    roundHalfEven n (2 * half) = pow2 53 ↔ pow2 53 * (2 * half) ≤ n + half := by
  have top : pow2 53 = 9007199254740992 := by decide
  have parts := Nat.div_add_mod n (2 * half)
  have rest := Nat.mod_lt n (show 0 < 2 * half by omega)
  have most : n / (2 * half) < pow2 53 := (Nat.div_lt_iff_lt_mul (by omega)).2 below
  simp only [roundHalfEven]
  rw [top] at below most ⊢
  generalize n % (2 * half) = r at parts rest ⊢
  generalize n / (2 * half) = q at parts most ⊢
  by_cases last : q = 9007199254740991
  · subst last
    split
    · omega
    · split
      · omega
      · simp only [Nat.reduceMod, Nat.reduceAdd, Nat.one_ne_zero, if_false, true_iff]
        omega
  · have less : 2 * half * q ≤ 2 * half * 9007199254740990 := Nat.mul_le_mul_left _ (by omega)
    split
    · omega
    · split
      · omega
      · split <;> omega

theorem floatBound_add : floatBound + pow2 970 = pow2 1024 := by
  rw [floatBound, Nat.sub_add_cancel (pow2_le (by decide))]

theorem floatBound_pos : 0 < floatBound := by
  have less : pow2 970 < pow2 1024 := pow2_lt (by decide)
  have bound := floatBound_add
  omega

theorem pow2_le_floatBound {n : Nat} (h : n ≤ 1023) : pow2 n ≤ floatBound := by
  have bound := floatBound_add
  have half : pow2 970 ≤ pow2 1023 := pow2_le (by decide)
  have double : pow2 1024 = 2 * pow2 1023 := by rw [← pow2_succ]
  have below : pow2 n ≤ pow2 1023 := pow2_le h
  omega

/-- A whole number that a floating-point number can stand for is short enough to be written. -/
theorem floatBound_le_pow10 : floatBound ≤ pow10 digitLimit :=
  calc floatBound ≤ pow2 1024 := Nat.sub_le _ _
    _ ≤ pow10 1024 := pow2_le_pow10 1024
    _ ≤ pow10 digitLimit := pow10_le (by decide)

/-- A quotient is too large exactly if its exponent is after rounding. -/
theorem bitsOfRatio_eq_none {n : Nat} (h : n ≠ 0) :
    bitsOfRatio n 1 = none ↔ 1024 ≤ n.log2 ∨
      n.log2 = 1023 ∧ roundHalfEven n (2 * pow2 970) = pow2 53 := by
  have spacing (places : n.log2 = 1023) :
      scaled n 1 ((n.log2 : Int) - 52) = (n, 2 * pow2 970) := by
    rw [places, ← pow2_succ]
    simp [scaled]
  simp only [bitsOfRatio, if_neg h, exponentFor_whole h]
  generalize scaled n 1 ((n.log2 : Int) - 52) = pair at spacing ⊢
  obtain ⟨a, d⟩ := pair
  by_cases top : roundHalfEven a d = pow2 53
  · simp only [top, if_true]
    split
    · rename_i large
      by_cases places : n.log2 = 1023
      · cases spacing places
        simp [places, top]
      · have more : 1024 ≤ n.log2 := by omega
        simp [more]
    · split <;> simp <;> omega
  · simp only [top, if_false]
    split
    · have more : 1024 ≤ n.log2 := by omega
      simp [more]
    · have few : ¬ 1024 ≤ n.log2 := by omega
      have other : ¬ (n.log2 = 1023 ∧ roundHalfEven n (2 * pow2 970) = pow2 53) := by
        rintro ⟨places, rounded⟩
        cases spacing places
        exact top rounded
      split <;> simp [few, other]

theorem bitsOfRatio_whole {n : Nat} : bitsOfRatio n 1 = none ↔ floatBound ≤ n := by
  have bound := floatBound_add
  have half : pow2 970 ≤ pow2 1023 := pow2_le (by decide)
  have double : pow2 1024 = 2 * pow2 1023 := by rw [← pow2_succ]
  have product : pow2 53 * (2 * pow2 970) = pow2 1024 := by rw [← pow2_succ, ← pow2_add]
  by_cases zero : n = 0
  · subst zero
    simp [bitsOfRatio, Nat.not_le_of_lt floatBound_pos]
  have low := pow2_log2_le zero
  have high := lt_pow2_log2 n
  rw [bitsOfRatio_eq_none zero]
  constructor
  · rintro (large | ⟨places, top⟩)
    · have above := Nat.le_trans (pow2_le large) low
      omega
    · simp only [places, Nat.reduceAdd] at high
      have below : n < pow2 53 * (2 * pow2 970) := by rwa [product]
      have reached := (roundHalfEven_top (pow2_pos 970) below).1 top
      omega
  · intro large
    by_cases places : 1024 ≤ n.log2
    · exact .inl places
    · have more : 1023 ≤ n.log2 := by
        by_contra few
        have small := pow2_le (show n.log2 + 1 ≤ 1023 by omega)
        omega
      have exact : n.log2 = 1023 := by omega
      simp only [exact, Nat.reduceAdd] at high
      have below : n < pow2 53 * (2 * pow2 970) := by rwa [product]
      exact .inr ⟨exact, (roundHalfEven_top (pow2_pos 970) below).2 (by omega)⟩

/-- A whole number has no floating-point number exactly if it is too large. -/
theorem ofWhole_eq_error_iff {i : Int} {f : Fault} :
    ofWhole i = .error f ↔ f = .wholeTooLarge ∧ floatBound ≤ i.natAbs := by
  rw [← bitsOfRatio_whole]
  unfold ofWhole ofRatio?
  cases bitsOfRatio i.natAbs 1 with
  | none => simp [eq_comm]
  | some b => simp

theorem ofWhole_eq_ok_iff {i : Int} : (∃ x, ofWhole i = .ok x) ↔ i.natAbs < floatBound := by
  rw [← Nat.not_le]
  cases stands : ofWhole i with
  | error f =>
    have large := (ofWhole_eq_error_iff.1 stands).2
    simp [large]
  | ok x =>
    refine ⟨fun _ large => ?_, fun _ => ⟨x, rfl⟩⟩
    rw [ofWhole_eq_error_iff.2 ⟨rfl, large⟩] at stands
    cases stands

theorem writeWhole_of_ofWhole {i : Int} {x : Float} (h : ofWhole i = .ok x) :
    ∃ s, writeWhole i = .ok s := by
  have small := ofWhole_eq_ok_iff.1 ⟨x, h⟩
  have short : i.natAbs < pow10 digitLimit := Nat.lt_of_lt_of_le small floatBound_le_pow10
  exact ⟨_, writeWhole_eq_ok short⟩

theorem compareWhole_mul {i j : Int} {n : Nat} (pos : 0 < n) :
    compare (i * n) (j * n) = compare i j := by
  have scale : 0 < (n : Int) := Int.natCast_pos.2 pos
  obtain less | rfl | more := Int.lt_trichotomy i j
  · rw [Int.compare_eq_lt.2 less, Int.compare_eq_lt.2 (Int.mul_lt_mul_of_pos_right less scale)]
  · rw [Int.compare_eq_eq.2 rfl, Int.compare_eq_eq.2 rfl]
  · rw [Int.compare_eq_gt.2 more, Int.compare_eq_gt.2 (Int.mul_lt_mul_of_pos_right more scale)]

theorem compareWith_toWhole? {x : Float} {i : Int} (h : toWhole? x = some i) (j : Int) :
    compareWith j x = some (compare j i) := by
  unfold toWhole? at h
  unfold compareWith
  cases places : parts x with
  | finite negative m e =>
    rw [places] at h
    simp only [compareWhole, Option.some.injEq] at h ⊢
    split at h
    · rename_i large
      rw [if_pos large, Option.some.inj h]
    · rename_i small
      rw [if_neg small]
      split at h
      · rename_i whole
        have divides : ((pow2 (-e).toNat : Nat) : Int) ∣ (if negative then -m else m) := by
          have plain := Int.natCast_dvd_natCast.2 (Nat.dvd_of_mod_eq_zero whole)
          cases negative with
          | true => exact Int.dvd_neg.2 plain
          | false => exact plain
        have same := Int.ediv_mul_cancel divides
        rw [Option.some.inj h] at same
        rw [← same, compareWhole_mul (pow2_pos _)]
      · cases h
  | infinite _ =>
    rw [places] at h
    cases h
  | notANumber =>
    rw [places] at h
    cases h

end Storyworld.Decimal
