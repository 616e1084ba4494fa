import Mathlib
import Storyworld.Proofs.Decimal.Bounds
import Storyworld.State.Effects

/-!
Infinite numbers in comparisons. The parts of a floating-point number tell what comparison makes of
it: all finite numbers lie between the two infinities, and nothing compares with what is not a
number. So a cap takes a finite number to one that is not only if it is negative infinity, and a
track that is held within finite bounds has a finite value.
-/

namespace Storyworld

namespace Decimal

open Float.Model (UnpackedFloat)
open Float.Model.UnpackedFloat (Sign)

/-- The bits of a floating-point number. -/
abbrev bitsOf (x : Float) : BitVec Float.Model.Format.binary64.numBits :=
  x.toModel.toBits.toBitVec

theorem unpackExponent_toNat (x : Float) :
    (UnpackedFloat.unpackExponent (bitsOf x)).toNat = x.toBits.toNat / pow2 52 % pow2 11 := by
  change (x.toBits.toNat >>> 52) % 2 ^ 11 = _
  rw [Nat.shiftRight_eq_div_pow]
  rfl

theorem unpackMantissa_toNat (x : Float) :
    (UnpackedFloat.unpackMantissa (bitsOf x)).toNat = x.toBits.toNat % pow2 52 := by
  change (x.toBits.toNat >>> 0) % 2 ^ 52 = _
  rw [Nat.shiftRight_zero]
  rfl

theorem unpackSign_toNat (x : Float) :
    (UnpackedFloat.unpackSign (bitsOf x)).toNat = x.toBits.toNat / pow2 63 % 2 := by
  change (x.toBits.toNat >>> 63) % 2 ^ 1 = _
  rw [Nat.shiftRight_eq_div_pow]
  rfl

def signOf (negative : Bool) : Sign := if negative then .negative else .positive

theorem ofBitVec_unpackSign (x : Float) :
    Sign.ofBitVec (UnpackedFloat.unpackSign (bitsOf x)) =
      signOf (decide (pow2 63 ≤ x.toBits.toNat)) := by
  have bit := unpackSign_toNat x
  have below : x.toBits.toNat < 2 * pow2 63 := x.toBits.toNat_lt
  generalize UnpackedFloat.unpackSign (bitsOf x) = sign at bit ⊢
  unfold Sign.ofBitVec signOf
  by_cases negative : pow2 63 ≤ x.toBits.toNat
  · have one : x.toBits.toNat / pow2 63 = 1 := Nat.div_eq_of_lt_le (by omega) (by omega)
    have set : sign ≠ 0#1 := by
      rintro rfl
      rw [one] at bit
      cases bit
    rw [if_neg set, if_pos (by simpa using negative)]
  · have zero : x.toBits.toNat / pow2 63 = 0 := Nat.div_eq_of_lt (by omega)
    have clear : sign = 0#1 := by
      rw [BitVec.toNat_eq, bit, zero]
      rfl
    rw [if_pos clear, if_neg (by simpa using negative)]

/-- What the parts of a number say about it, the number itself says. -/
theorem unpack_parts (x : Float) :
    match parts x with
    | .finite .. => x.toModel.unpack.isFinite = true
    | .infinite negative => x.toModel.unpack = .infinity (signOf negative)
    | .notANumber => x.toModel.unpack = .notANumber := by
  have top : UnpackedFloat.unpackExponent (bitsOf x) = -1#11 ↔
      x.toBits.toNat / pow2 52 % pow2 11 = 2047 := by
    rw [BitVec.toNat_eq, unpackExponent_toNat]
    rfl
  have bare : UnpackedFloat.unpackMantissa (bitsOf x) = 0#52 ↔
      x.toBits.toNat % pow2 52 = 0 := by
    rw [BitVec.toNat_eq, unpackMantissa_toNat]
    rfl
  have sign := ofBitVec_unpackSign x
  simp only [parts, partsOfBits, Float.Model.unpack, UnpackedFloat.unpack]
  split <;> rename_i h
  · split at h
    · split at h <;> cases h
    · rename_i small
      rw [if_neg (fun big => small (top.1 big))]
      split
      · split <;> rfl
      · rfl
  · split at h
    · rename_i big
      split at h
      · rename_i zero
        cases h
        rw [if_pos (top.2 big), if_pos (bare.2 zero), sign]
      · cases h
    · split at h <;> cases h
  · split at h
    · rename_i big
      split at h
      · cases h
      · rename_i nonzero
        rw [if_pos (top.2 big), if_neg (fun zero => nonzero (bare.1 zero))]
    · split at h <;> cases h

theorem unpack_finite {x : Float} (h : isFinite x = true) : x.toModel.unpack.isFinite = true := by
  have told := unpack_parts x
  unfold isFinite at h
  split at h
  · rename_i places
    rw [places] at told
    exact told
  · cases h

theorem unpack_infinite {x : Float} {negative : Bool} (h : parts x = .infinite negative) :
    x.toModel.unpack = .infinity (signOf negative) := by
  have told := unpack_parts x
  rwa [h] at told

theorem unpack_notANumber {x : Float} (h : parts x = .notANumber) :
    x.toModel.unpack = .notANumber := by
  have told := unpack_parts x
  rwa [h] at told

theorem lt_iff_compare {x y : Float} :
    x < y ↔ UnpackedFloat.compare x.toModel.unpack y.toModel.unpack = some .lt := by
  change decide (UnpackedFloat.lt x.toModel.unpack y.toModel.unpack = true) = true ↔ _
  rw [decide_eq_true_iff, UnpackedFloat.lt, beq_iff_eq]

theorem beq_iff_compare {x y : Float} :
    (x == y) = true ↔ UnpackedFloat.compare x.toModel.unpack y.toModel.unpack = some .eq := by
  change UnpackedFloat.beq x.toModel.unpack y.toModel.unpack = true ↔ _
  rw [UnpackedFloat.beq, beq_iff_eq]

theorem compare_infinity {u : UnpackedFloat} (finite : u.isFinite = true) (negative : Bool) :
    u.compare (.infinity (signOf negative)) = some (if negative then .gt else .lt) ∧
      UnpackedFloat.compare (.infinity (signOf negative)) u =
        some (if negative then .lt else .gt) := by
  cases u with
  | infinity | notANumber => cases finite
  | zero sign => cases negative <;> exact ⟨rfl, rfl⟩
  | finite sign => cases negative <;> cases sign <;> exact ⟨rfl, rfl⟩

theorem compare_notANumber (u : UnpackedFloat) :
    u.compare .notANumber = none ∧ UnpackedFloat.compare .notANumber u = none := by
  cases u <;> exact ⟨rfl, rfl⟩

theorem compareFloats_infinite {x y : Float} {negative : Bool} (finite : isFinite x = true)
    (infinite : parts y = .infinite negative) :
    Number.compareFloats x y = some (if negative then .gt else .lt) := by
  have both := compare_infinity (unpack_finite finite) negative
  rw [← unpack_infinite infinite] at both
  simp only [Number.compareFloats, lt_iff_compare, beq_iff_compare, both.1, both.2]
  cases negative <;> rfl

theorem compareFloats_notANumber {x y : Float} (none : parts y = .notANumber) :
    Number.compareFloats x y = .none := by
  have both := compare_notANumber x.toModel.unpack
  rw [← unpack_notANumber none] at both
  simp [Number.compareFloats, lt_iff_compare, beq_iff_compare, both.1, both.2]

end Decimal

namespace Number

/-- Negative infinity, which lies below all other numbers. -/
def IsLowest : Number → Prop
  | int _ => False
  | float x => Decimal.parts x = .infinite true

theorem cmp_infinite {v : Number} {y : Float} {negative : Bool} (finite : v.isFinite = true)
    (infinite : Decimal.parts y = .infinite negative) :
    cmp v (.float y) = some (if negative then .gt else .lt) := by
  cases v with
  | int i => simp only [cmp, Decimal.compareWith, infinite]
  | float x => exact Decimal.compareFloats_infinite finite infinite

theorem cmp_notANumber {v : Number} {y : Float} (none : Decimal.parts y = .notANumber) :
    cmp v (.float y) = .none := by
  cases v with
  | int i => simp only [cmp, Decimal.compareWith, none]
  | float x => exact Decimal.compareFloats_notANumber none

/-- The two kinds of number that are not finite. -/
theorem not_finite_cases {n : Number} (h : n.isFinite = false) :
    ∃ y, n = .float y ∧
      ((∃ negative, Decimal.parts y = .infinite negative) ∨ Decimal.parts y = .notANumber) := by
  cases n with
  | int i => cases h
  | float y =>
    refine ⟨y, rfl, ?_⟩
    cases places : Decimal.parts y with
    | finite negative m e => simp [isFinite, Decimal.isFinite, places] at h
    | infinite negative => exact .inl ⟨negative, rfl⟩
    | notANumber => exact .inr rfl

theorem IsLowest.not_finite {n : Number} (h : n.IsLowest) : n.isFinite = false := by
  cases n with
  | int i => cases h
  | float x =>
    have infinite : Decimal.parts x = .infinite true := h
    simp [isFinite, Decimal.isFinite, infinite]

/-- Of the numbers that are not finite a finite one lies above the lowest alone. -/
theorem gt_iff_isLowest {v limit : Number} (finite : v.isFinite = true)
    (infinite : limit.isFinite = false) : v.gt limit = true ↔ limit.IsLowest := by
  obtain ⟨y, rfl, ⟨negative, places⟩ | places⟩ := not_finite_cases infinite
  · cases negative <;> simp [gt, IsLowest, cmp_infinite finite places, places]
  · simp [gt, IsLowest, cmp_notANumber places, places]

/-- A number that is not finite, and that no finite bound lies below, does not lie above zero. -/
theorem not_gt_zero {v m : Number} (infinite : v.isFinite = false) (bound : m.isFinite = true)
    (within : m.lt v = false) : v.gt (.int 0) = false := by
  obtain ⟨y, rfl, ⟨negative, places⟩ | places⟩ := not_finite_cases infinite
  · cases negative with
    | true => simp [gt, cmp, Decimal.compareWith, places]
    | false => simp [lt, cmp_infinite bound places] at within
  · simp [gt, cmp, Decimal.compareWith, places]

end Number

/-- A cap leaves a number that is not finite exactly if it is the lowest of all, or if there was one
before and no finite cap lies below it. -/
theorem capped_not_finite {cap : Option Number} {v : Number} :
    (capped cap v).isFinite = false ↔
      (∃ limit, cap = some limit ∧ limit.IsLowest) ∨
        v.isFinite = false ∧ ∀ limit, cap = some limit → v.gt limit = true →
          limit.isFinite = false := by
  cases cap with
  | none => simp [capped]
  | some limit =>
    have low : limit.IsLowest → limit.isFinite = false := Number.IsLowest.not_finite
    simp only [capped, Option.some.injEq, forall_eq', exists_eq_left']
    cases finite : v.isFinite with
    | false =>
      by_cases above : v.gt limit = true
      · simp only [above, if_true, true_and, forall_const]
        exact ⟨.inr, fun h => h.elim low id⟩
      · simp [above, finite]
    | true =>
      simp only [Bool.true_eq_false, false_and, or_false]
      by_cases above : v.gt limit = true
      · rw [if_pos above]
        exact ⟨fun infinite => (Number.gt_iff_isLowest finite infinite).1 above, low⟩
      · rw [if_neg above, finite]
        refine ⟨(nomatch ·), fun lowest => ?_⟩
        exact absurd ((Number.gt_iff_isLowest finite (low lowest)).2 lowest) above

/-- A track with a finite bound is held at finite values. -/
theorem Track.clamp_isFinite {t : Track} (bound : t.max.isFinite = true) (v : Number) :
    (t.clamp v).isFinite = true := by
  unfold clamp Number.max Number.min
  by_cases above : t.max.lt v = true
  · rw [if_pos above]
    split
    · exact bound
    · rfl
  · rw [if_neg above]
    split
    · rename_i positive
      by_contra infinite
      rw [Number.not_gt_zero (Bool.eq_false_iff.2 infinite) bound (Bool.eq_false_iff.2 above)]
        at positive
      cases positive
    · rfl

end Storyworld
