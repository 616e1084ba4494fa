import Storyworld.Proofs.Condition.Failing

/-!
The faults of operations. Overflow and unusable keys aside, only a remainder can be at fault: it has
no value if the dividend is infinite.
-/

namespace Storyworld

open Condition

namespace Decimal

theorem remainder_eq_error {x y : Float} {f : Fault} :
    remainder x y = .error f ↔
      f = .remainderUndefined ∧ (∃ negative, parts x = .infinite negative) ∧
        parts y ≠ .notANumber := by
  unfold remainder
  cases parts x with
  | finite => cases parts y <;> simp
  | infinite => cases parts y <;> simp [eq_comm]
  | notANumber => simp

theorem ofWhole_eq_error {i : Int} {f : Fault} (h : ofWhole i = .error f) :
    f = .wholeTooLarge := by
  unfold ofWhole at h
  split at h <;> cases h
  rfl

theorem quotient_eq_error {i j : Int} {f : Fault} (h : quotient i j = .error f) :
    f = .quotientTooLarge := by
  unfold quotient at h
  split at h <;> cases h
  rfl

end Decimal

namespace Number

theorem toFloat_eq_error {a : Number} {f : Fault} (h : a.toFloat = .error f) :
    f = .wholeTooLarge := by
  cases a with
  | int i => exact Decimal.ofWhole_eq_error h
  | float x => cases h

/-- Two numbers are turned into floating-point ones before an operation, which may fail. -/
theorem floats_eq_error {a b : Number} {g : Float → Float → Except Fault Number} {f : Fault}
    (h : (do
      let x ← a.toFloat
      let y ← b.toFloat
      g x y) = .error f) :
    f = .wholeTooLarge ∨ ∃ x y, a.toFloat = .ok x ∧ b.toFloat = .ok y ∧ g x y = .error f := by
  obtain left | ⟨x, left, later⟩ := bind_eq_error.1 h
  · exact .inl (toFloat_eq_error left)
  · obtain right | ⟨y, right, last⟩ := bind_eq_error.1 later
    · exact .inl (toFloat_eq_error right)
    · exact .inr ⟨x, y, left, right, last⟩

theorem combine_eq_error {whole : Int → Int → Int} {real : Float → Float → Float}
    {a b : Number} {f : Fault} (h : combine whole real a b = .error f) : f = .wholeTooLarge := by
  unfold combine at h
  split at h
  · cases h
  · obtain tooLarge | ⟨x, y, -, -, last⟩ := floats_eq_error h
    · exact tooLarge
    · cases last

theorem div_eq_error {a b : Number} {f : Fault} (h : div a b = .error f) :
    f = .wholeTooLarge ∨ f = .quotientTooLarge := by
  unfold div at h
  split at h
  · obtain failed | ⟨x, -, last⟩ := bind_eq_error.1 h
    · exact .inr (Decimal.quotient_eq_error failed)
    · cases last
  · obtain tooLarge | ⟨x, y, -, -, last⟩ := floats_eq_error h
    · exact .inl tooLarge
    · cases last

theorem rem_eq_error {a b : Number} {f : Fault} (h : rem a b = .error f) :
    f = .wholeTooLarge ∨ ∃ x y, a.toFloat = .ok x ∧ b.toFloat = .ok y ∧
      Decimal.remainder x y = .error f := by
  obtain tooLarge | ⟨x, y, left, right, last⟩ := floats_eq_error h
  · exact .inl tooLarge
  · obtain failed | ⟨z, -, done⟩ := bind_eq_error.1 last
    · exact .inr ⟨x, y, left, right, failed⟩
    · cases done

end Number

namespace Condition

/-- Values whose remainder is asked for but undefined: an infinite number by one that is not
zero. -/
inductive NoRemainder (v w : Value) : Prop where
  | intro {a b : Number} {x y : Float} {negative : Bool} (dividend : v.number? = some a)
      (divisor : w.number? = some b) (nonzero : b.isZero = false) (left : a.toFloat = .ok x)
      (right : b.toFloat = .ok y) (infinite : Decimal.parts x = .infinite negative)
      (number : Decimal.parts y ≠ .notANumber)

theorem liftFault_eq_error {α : Type} {x : Except Fault α} {e : Failure} :
    liftFault x = .error e ↔ ∃ f, x = .error f ∧ e = .fault f := by
  cases x with
  | ok a => simp [liftFault]
  | error f => simp [liftFault, eq_comm]

theorem arithmetic_eq_fault {op : BinaryOp} {g : Number → Number → Except Failure Number}
    {v w : Value} {f : Fault} :
    arithmetic op g v w = .error (.fault f) ↔
      ∃ a b, v.number? = some a ∧ w.number? = some b ∧ g a b = .error (.fault f) := by
  unfold arithmetic
  cases v.number? with
  | none => simp
  | some a =>
    cases w.number? with
    | none => simp
    | some b => simp [map_eq_error]

theorem unlessZero_eq_fault {g : Number → Number → Except Fault Number} {a b : Number}
    {f : Fault} :
    unlessZero g a b = .error (.fault f) ↔ b.isZero = false ∧ g a b = .error f := by
  unfold unlessZero
  cases b.isZero with
  | true => simp
  | false => simp [liftFault_eq_error]

theorem compareValues_ne_fault {op : BinaryOp} {c : Comparison} {v w : Value} {f : Fault} :
    compareValues op c v w ≠ .error (.fault f) := by
  unfold compareValues
  split
  · simp
  · split <;> simp

theorem applyBinary_remainder {v w : Value} (h : NoRemainder v w) :
    applyBinary .remainder v w = .error (.fault .remainderUndefined) := by
  cases h with
  | intro dividend divisor nonzero left right infinite number =>
    refine arithmetic_eq_fault.2 ⟨_, _, dividend, divisor, unlessZero_eq_fault.2 ⟨nonzero, ?_⟩⟩
    have undefined := Decimal.remainder_eq_error.2 ⟨rfl, ⟨_, infinite⟩, number⟩
    exact bind_of_ok left (bind_of_ok right (bind_eq_error.2 (.inl undefined)))

theorem applyBinary_eq_fault {op : BinaryOp} {v w : Value} {f : Fault}
    (h : applyBinary op v w = .error (.fault f)) :
    f.isComputational = true ∨ f = .remainderUndefined ∧ op = .remainder ∧ NoRemainder v w := by
  have combined : ∀ {whole real}, arithmetic op
      (fun a b => liftFault (Number.combine whole real a b)) v w = .error (.fault f) →
      f.isComputational = true := by
    intro whole real failed
    obtain ⟨a, b, -, -, failed⟩ := arithmetic_eq_fault.1 failed
    obtain ⟨f', failed, same⟩ := liftFault_eq_error.1 failed
    cases same
    rw [Number.combine_eq_error failed]
    rfl
  cases op with
  | equal | unequal | same | notSame => cases h
  | less | lessEqual | greater | greaterEqual => exact absurd h compareValues_ne_fault
  | plus =>
    simp only [applyBinary] at h
    split at h
    · cases h
    · exact .inl (combined h)
  | minus | times => exact .inl (combined h)
  | divide =>
    obtain ⟨a, b, -, -, failed⟩ := arithmetic_eq_fault.1 h
    obtain rfl | rfl := Number.div_eq_error (unlessZero_eq_fault.1 failed).2
    · exact .inl rfl
    · exact .inl rfl
  | remainder =>
    obtain ⟨a, b, dividend, divisor, failed⟩ := arithmetic_eq_fault.1 h
    obtain ⟨nonzero, failed⟩ := unlessZero_eq_fault.1 failed
    obtain rfl | ⟨x, y, left, right, undefined⟩ := Number.rem_eq_error failed
    · exact .inl rfl
    · obtain ⟨rfl, ⟨negative, infinite⟩, number⟩ := Decimal.remainder_eq_error.1 undefined
      exact .inr ⟨rfl, rfl, .intro dividend divisor nonzero left right infinite number⟩

theorem indexInto_ne_fault {α : Type} {items : List α} {i : Int} {f : Fault} :
    indexInto items i ≠ .error (.fault f) := by
  unfold indexInto
  split
  · split <;> simp
  · simp

theorem memberOf_eq_fault {target key : Value} {f : Fault}
    (h : memberOf target key = .error (.fault f)) : f.isComputational = true := by
  unfold memberOf at h
  split at h
  · split at h
    · split at h <;> cases h
    · cases h
      rfl
    · cases h
      rfl
    · cases h
  · split at h
    · cases h
    · exact absurd h indexInto_ne_fault
    · cases h
  · split at h
    · cases h
    · rename_i s i
      exact absurd (map_eq_error.1 h) indexInto_ne_fault
    · cases h
  · cases h

theorem applyUnary_ne_fault {op : UnaryOp} {v : Value} {f : Fault} :
    applyUnary op v ≠ .error (.fault f) := by
  unfold applyUnary
  split
  · simp
  · split <;> simp

theorem Expr.Fails.fault {scope : Scope} {y : Expr} {f : Fault} (h : y.Fails scope (.fault f)) :
    f.isComputational = true ∨
      f = .remainderUndefined ∧ ∃ l r v w, y = .binary .remainder l r ∧
        l.eval scope = .ok v ∧ r.eval scope = .ok w ∧ NoRemainder v w := by
  cases h with
  | member first second fails => exact .inl (memberOf_eq_fault fails)
  | unary first fails => exact absurd fails applyUnary_ne_fault
  | binary first second fails =>
    obtain computational | ⟨same, rfl, undefined⟩ := applyBinary_eq_fault fails
    · exact .inl computational
    · exact .inr ⟨same, _, _, _, _, rfl, first, second, undefined⟩

end Condition

end Storyworld
