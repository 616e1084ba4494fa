import Storyworld.Condition.Eval
import Storyworld.Proofs.Results

/-!
Where the evaluation of an expression fails. A failure of the whole is the failure of one operation
inside it that was reached, with all of its operands already evaluated.
-/

namespace Storyworld.Condition

/-- An expression whose evaluation leads to that of another one. -/
inductive Reached (scope : Scope) : Expr → Expr → Prop where
  | self (x : Expr) : Reached scope x x
  | target {target key y : Expr} (inner : Reached scope target y) :
      Reached scope (.member target key) y
  | key {target key y : Expr} {v : Value} (before : target.eval scope = .ok v)
      (inner : Reached scope key y) : Reached scope (.member target key) y
  | operand {op : UnaryOp} {x y : Expr} (inner : Reached scope x y) :
      Reached scope (.unary op x) y
  | left {op : BinaryOp} {l r y : Expr} (inner : Reached scope l y) :
      Reached scope (.binary op l r) y
  | right {op : BinaryOp} {l r y : Expr} {v : Value} (before : l.eval scope = .ok v)
      (inner : Reached scope r y) : Reached scope (.binary op l r) y
  | first {op : LogicalOp} {l r y : Expr} (inner : Reached scope l y) :
      Reached scope (.logical op l r) y
  | both {l r y : Expr} {v : Value} (before : l.eval scope = .ok v) (holds : truthy v = true)
      (inner : Reached scope r y) : Reached scope (.logical .and l r) y
  | either {l r y : Expr} {v : Value} (before : l.eval scope = .ok v) (fails : truthy v = false)
      (inner : Reached scope r y) : Reached scope (.logical .or l r) y

/-- An operation that fails on the values of its operands. -/
inductive Expr.Fails (scope : Scope) : Expr → Failure → Prop where
  | name {s : String} (absent : lookupLast s scope = none) :
      Fails scope (.name s) (.unknownName s)
  | member {target key : Expr} {t k : Value} {e : Failure} (first : target.eval scope = .ok t)
      (second : key.eval scope = .ok k) (fails : memberOf t k = .error e) :
      Fails scope (.member target key) e
  | unary {op : UnaryOp} {x : Expr} {v : Value} {e : Failure} (first : x.eval scope = .ok v)
      (fails : applyUnary op v = .error e) : Fails scope (.unary op x) e
  | binary {op : BinaryOp} {l r : Expr} {v w : Value} {e : Failure}
      (first : l.eval scope = .ok v) (second : r.eval scope = .ok w)
      (fails : applyBinary op v w = .error e) : Fails scope (.binary op l r) e

theorem Expr.Fails.eval {scope : Scope} {x : Expr} {e : Failure} (h : x.Fails scope e) :
    x.eval scope = .error e := by
  cases h with
  | name absent => rw [Expr.eval, absent]
  | member first second fails => exact bind_of_ok first (bind_of_ok second fails)
  | unary first fails => exact bind_of_ok first fails
  | binary first second fails => exact bind_of_ok first (bind_of_ok second fails)

theorem Reached.eval_error {scope : Scope} {x y : Expr} {e : Failure} (h : Reached scope x y)
    (fails : y.eval scope = .error e) : x.eval scope = .error e := by
  induction h with
  | self => exact fails
  | target _ ih | operand _ ih | left _ ih => exact bind_eq_error.2 (.inl (ih fails))
  | key before _ ih | right before _ ih =>
    exact bind_of_ok before (bind_eq_error.2 (.inl (ih fails)))
  | @first op _ _ _ _ ih => cases op <;> exact bind_eq_error.2 (.inl (ih fails))
  | both before holds _ ih =>
    refine bind_of_ok before ?_
    rw [if_pos holds]
    exact ih fails
  | either before absent _ ih =>
    refine bind_of_ok before ?_
    rw [if_neg (by simp [absent])]
    exact ih fails

theorem exists_fails {scope : Scope} {x : Expr} {e : Failure} (h : x.eval scope = .error e) :
    ∃ y, Reached scope x y ∧ y.Fails scope e := by
  induction x with
  | literal v => cases h
  | name s =>
    rw [Expr.eval] at h
    split at h
    case h_1 => cases h
    case h_2 absent =>
      cases h
      exact ⟨_, .self _, .name absent⟩
  | member target key ihTarget ihKey =>
    obtain first | ⟨t, first, later⟩ := bind_eq_error.1 h
    · obtain ⟨y, reached, fails⟩ := ihTarget first
      exact ⟨y, .target reached, fails⟩
    · obtain second | ⟨k, second, last⟩ := bind_eq_error.1 later
      · obtain ⟨y, reached, fails⟩ := ihKey second
        exact ⟨y, .key first reached, fails⟩
      · exact ⟨_, .self _, .member first second last⟩
  | unary op x ih =>
    obtain first | ⟨v, first, last⟩ := bind_eq_error.1 h
    · obtain ⟨y, reached, fails⟩ := ih first
      exact ⟨y, .operand reached, fails⟩
    · exact ⟨_, .self _, .unary first last⟩
  | binary op l r ihLeft ihRight =>
    obtain first | ⟨v, first, later⟩ := bind_eq_error.1 h
    · obtain ⟨y, reached, fails⟩ := ihLeft first
      exact ⟨y, .left reached, fails⟩
    · obtain second | ⟨w, second, last⟩ := bind_eq_error.1 later
      · obtain ⟨y, reached, fails⟩ := ihRight second
        exact ⟨y, .right first reached, fails⟩
      · exact ⟨_, .self _, .binary first second last⟩
  | logical op l r ihLeft ihRight =>
    cases op with
    | and =>
      obtain first | ⟨v, first, later⟩ := bind_eq_error.1 h
      · obtain ⟨y, reached, fails⟩ := ihLeft first
        exact ⟨y, .first reached, fails⟩
      · split at later
        case isTrue holds =>
          obtain ⟨y, reached, fails⟩ := ihRight later
          exact ⟨y, .both first holds reached, fails⟩
        case isFalse => cases later
    | or =>
      obtain first | ⟨v, first, later⟩ := bind_eq_error.1 h
      · obtain ⟨y, reached, fails⟩ := ihLeft first
        exact ⟨y, .first reached, fails⟩
      · split at later
        case isTrue => cases later
        case isFalse absent =>
          obtain ⟨y, reached, fails⟩ := ihRight later
          exact ⟨y, .either first (by simpa using absent) reached, fails⟩

/-- An expression fails just as some operation does to which its evaluation leads. -/
theorem eval_eq_error {scope : Scope} {x : Expr} {e : Failure} :
    x.eval scope = .error e ↔ ∃ y, Reached scope x y ∧ y.Fails scope e := by
  constructor
  · exact exists_fails
  · rintro ⟨y, reached, fails⟩
    exact reached.eval_error fails.eval

end Storyworld.Condition
