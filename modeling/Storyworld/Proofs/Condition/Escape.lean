import Storyworld.Proofs.Condition.Faults
import Storyworld.Proofs.Condition.Parsing
import Storyworld.Proofs.Condition.Wording
import Storyworld.State.Scope

/-!
What leaves the evaluation of a condition instead of making it false: a whole number that is too
long to be read, a remainder of an infinite number, and a failure whose wording cannot be written.
-/

namespace Storyworld

namespace Condition

inductive Escapes (scope : Scope) (s : String) : Fault → Prop where
  | number {ts : List Token} (cut : tokenize s.toList = .ok ts) (met : Part.expression.Meets ts) :
      Escapes scope s .tooManyDigits
  | remainder {x l r : Expr} {v w : Value} (parsed : parse s = .ok x)
      (reached : Reached scope x (.binary .remainder l r)) (left : l.eval scope = .ok v)
      (right : r.eval scope = .ok w) (undefined : NoRemainder v w) :
      Escapes scope s .remainderUndefined
  | wording {x y : Expr} {e : Failure} {v : Value} (parsed : parse s = .ok x)
      (reached : Reached scope x y) (fails : y.Fails scope e) (shown : v ∈ e.shows)
      (unwritable : v.Unwritable) : Escapes scope s .tooManyDigits

theorem ofFailure_proper {e : Failure} (proper : ∀ f, e ≠ .fault f) :
    (∀ {s}, e.message = .ok s → Trouble.ofFailure e = .failed s) ∧
      ∀ {f}, e.message = .error f → Trouble.ofFailure e = .fault f := by
  cases e with
  | fault f => exact absurd rfl (proper f)
  | _ =>
    constructor
    · intro s worded
      simp only [Trouble.ofFailure, worded]
    · intro f unworded
      simp only [Trouble.ofFailure, unworded]

/-- A failure without wording stays a fault. -/
theorem absorb_proper {e : Failure} (proper : ∀ f, e ≠ .fault f) {f : Fault} :
    (Trouble.ofFailure e).absorb = .fault f ↔
      f = .tooManyDigits ∧ ∃ v ∈ e.shows, v.Unwritable := by
  rw [← Failure.message_eq_error proper]
  cases message : e.message with
  | ok s =>
    rw [(ofFailure_proper proper).1 message]
    constructor
    · intro h
      cases h
    · intro h
      cases h
  | error f' =>
    obtain ⟨rfl, -⟩ := (Failure.message_eq_error proper f').1 message
    rw [(ofFailure_proper proper).2 message]
    constructor
    · intro h
      cases h
      rfl
    · intro h
      cases h
      rfl

/-- A fault is a failed evaluation if it is computational; the only other one an evaluation can
give stays a fault. -/
theorem absorb_fault {f g : Fault} (h : f.isComputational = true ∨ f = .remainderUndefined) :
    (Trouble.ofFailure (.fault f)).absorb = .fault g ↔ f = .remainderUndefined ∧ g = f := by
  obtain computational | rfl := h
  · cases f with
    | tooManyDigits | remainderUndefined | lettersContradict => cases computational
    | wholeTooLarge | quotientTooLarge | repetitionTooLarge | unusableKey =>
      constructor
      · intro h
        cases h
      · rintro ⟨h, -⟩
        cases h
  · constructor
    · intro h
      cases h
      exact ⟨rfl, rfl⟩
    · rintro ⟨-, rfl⟩
      rfl

theorem truthIn_eq_ok {scope : Scope} {s : String} {b : Bool} :
    truthIn scope s = .ok b ↔ ∃ x v, parse s = .ok x ∧ x.eval scope = .ok v ∧ truthy v = b := by
  constructor
  · intro h
    obtain ⟨x, parsed, later⟩ := bind_eq_ok.1 h
    split at later
    · rename_i v value
      cases later
      exact ⟨x, v, mapError_eq_ok.1 parsed, value, rfl⟩
    · cases later
  · rintro ⟨x, v, parsed, value, rfl⟩
    exact bind_of_ok (mapError_eq_ok.2 parsed) (by rw [value])

theorem truthIn_of_eval_error {scope : Scope} {s : String} {x : Expr} {e : Failure}
    (parsed : parse s = .ok x) (failed : x.eval scope = .error e) :
    truthIn scope s = .error (Trouble.ofFailure e).absorb :=
  bind_of_ok (mapError_eq_ok.2 parsed) (by rw [failed])

theorem truthIn_eq_fault {scope : Scope} {s : String} {f : Fault} :
    truthIn scope s = .error (.fault f) ↔ Escapes scope s f := by
  constructor
  · intro h
    cases parsed : parse s with
    | error e =>
      rw [truthIn, parsed] at h
      cases e with
      | malformed m => cases h
      | fault f' =>
        cases h
        obtain ⟨rfl, ts, cut, met⟩ := parse_eq_fault.1 parsed
        exact .number cut met
    | ok x =>
      cases value : x.eval scope with
      | ok v =>
        have holds := truthIn_eq_ok.2 ⟨x, v, parsed, value, rfl⟩
        rw [h] at holds
        cases holds
      | error e =>
        rw [truthIn_of_eval_error parsed value, Except.error.injEq] at h
        obtain ⟨y, reached, fails⟩ := eval_eq_error.1 value
        by_cases proper : ∀ f, e ≠ .fault f
        · obtain ⟨rfl, v, shown, unwritable⟩ := (absorb_proper proper).1 h
          exact .wording parsed reached fails shown unwritable
        · obtain ⟨f', rfl⟩ : ∃ f', e = .fault f' := by simpa using proper
          obtain computational | ⟨rfl, l, r, v, w, rfl, left, right, undefined⟩ := fails.fault
          · obtain ⟨rfl, -⟩ := (absorb_fault (.inl computational)).1 h
            cases computational
          · obtain ⟨-, rfl⟩ := (absorb_fault (.inr rfl)).1 h
            exact .remainder parsed reached left right undefined
  · intro h
    cases h with
    | number cut met =>
      have failed := parse_eq_fault.2 ⟨rfl, _, cut, met⟩
      rw [truthIn, failed]
      rfl
    | remainder parsed reached left right undefined =>
      have fails := Expr.Fails.binary left right (applyBinary_remainder undefined)
      rw [truthIn_of_eval_error parsed (reached.eval_error fails.eval)]
      rfl
    | @wording x y e v parsed reached fails shown unwritable =>
      have proper : ∀ f, e ≠ .fault f := by
        rintro f rfl
        cases shown
      rw [truthIn_of_eval_error parsed (reached.eval_error fails.eval)]
      exact congrArg _ ((absorb_proper proper).2 ⟨rfl, v, shown, unwritable⟩)

end Condition

namespace State

open Condition Noting

theorem holds_of_ok {condition : String} {s : State} {b : Bool}
    (h : truthIn s.scope condition = .ok b) : (s.holds condition).result = .ok b := by
  simp only [holds, h, result_pure]

theorem holds_of_fault {condition : String} {s : State} {f : Fault}
    (h : truthIn s.scope condition = .error (.fault f)) :
    (s.holds condition).result = .error f := by
  simp only [holds, h, troubleText, result_throw]

theorem holds_of_trouble {condition : String} {s : State} {t : Trouble}
    (h : truthIn s.scope condition = .error t) (proper : ∀ f, t ≠ .fault f) :
    (s.holds condition).result = .ok false := by
  cases t with
  | malformed m =>
    simp only [holds, h, troubleText]
    rfl
  | failed message =>
    simp only [holds, h, troubleText]
    rfl
  | fault f => exact absurd rfl (proper f)

/-- A player who meets a counter without bound. -/
def boundless : State where
  situation := "shore"
  counters := [("x", .number (.float (Decimal.infinity false)))]
  tracks := []
  log := []
  route := none
  nextSituation := none
  player := .newcomer .en
  baseline := none
  knownTargets := []
  sceneDescriptions := []

end State

end Storyworld
