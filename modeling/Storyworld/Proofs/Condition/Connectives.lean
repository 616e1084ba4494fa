import Storyworld.Proofs.Condition.Composing
import Storyworld.Proofs.Condition.Escape

/-!
The connectives of conditions. Conditions that parse by themselves can be joined as texts, and the
laws of Boolean algebra hold for what is joined, also where one of the two has no value.
-/

namespace Storyworld

namespace Condition

def conjoined (a b : String) : String :=
  "(" ++ a ++ ") && (" ++ b ++ ")"

def disjoined (a b : String) : String :=
  "(" ++ a ++ ") || (" ++ b ++ ")"

def negated (a : String) : String :=
  "!(" ++ a ++ ")"

section

variable {a b : String} {x y : Expr}

theorem written_negated (parsed : parse a = .ok x) (rest : List Char) :
    Symbol.unary.Written ('!' :: '(' :: (a.toList ++ ')' :: rest)) (.unary .not x) rest :=
  .signed .not (.token rfl .done) (written_between parsed rest)

/-- Both sides stand between parentheses, so neither takes anything from the other. -/
theorem parse_joined (op : LogicalOp) {s : String}
    (text : s.toList = '(' :: (a.toList ++ ')' :: ' ' ::
      (op.symbol.toList ++ ' ' :: '(' :: (b.toList ++ [')']))))
    (left : parse a = .ok x) (right : parse b = .ok y) : parse s = .ok (.logical op x y) := by
  rw [parse_iff_written, text]
  exact Symbol.Written.spaced (.logical op) (written_between left _) (by decide)
    (written_between right [])

theorem parse_conjoined (left : parse a = .ok x) (right : parse b = .ok y) :
    parse (conjoined a b) = .ok (.logical .and x y) :=
  parse_joined .and (by simp [conjoined, LogicalOp.symbol]) left right

theorem parse_disjoined (left : parse a = .ok x) (right : parse b = .ok y) :
    parse (disjoined a b) = .ok (.logical .or x y) :=
  parse_joined .or (by simp [disjoined, LogicalOp.symbol]) left right

theorem parse_negated (parsed : parse a = .ok x) : parse (negated a) = .ok (.unary .not x) := by
  have text : (negated a).toList = '!' :: '(' :: (a.toList ++ [')']) := by
    simp [negated]
  rw [parse_iff_written, text]
  exact (written_negated parsed []).expression

theorem parse_negated_either (left : parse a = .ok x) (right : parse b = .ok y) :
    parse (negated a ++ " || " ++ negated b) =
      .ok (.logical .or (.unary .not x) (.unary .not y)) := by
  have text : (negated a ++ " || " ++ negated b).toList = '!' :: '(' :: (a.toList ++ ')' :: ' ' ::
      ("||".toList ++ ' ' :: '!' :: '(' :: (b.toList ++ [')']))) := by
    simp [negated]
  rw [parse_iff_written, text]
  exact Symbol.Written.spaced (.logical .or) (written_negated left _) (by decide)
    (written_negated right [])

end

section

variable {scope : Scope} {x y : Expr}

theorem Expr.eval_logical_error (op : LogicalOp) {e : Failure} (failed : x.eval scope = .error e) :
    (Expr.logical op x y).eval scope = .error e := by
  cases op <;> rw [eval, failed] <;> rfl

theorem Expr.eval_unary_error (op : UnaryOp) {e : Failure} (failed : x.eval scope = .error e) :
    (Expr.unary op x).eval scope = .error e := by
  rw [eval, failed]
  rfl

theorem Expr.eval_and {v : Value} (value : x.eval scope = .ok v) :
    (Expr.logical .and x y).eval scope = if truthy v then y.eval scope else .ok v := by
  rw [eval, value]
  rfl

theorem Expr.eval_or {v : Value} (value : x.eval scope = .ok v) :
    (Expr.logical .or x y).eval scope = if truthy v then .ok v else y.eval scope := by
  rw [eval, value]
  rfl

theorem Expr.eval_not {v : Value} (value : x.eval scope = .ok v) :
    (Expr.unary .not x).eval scope = .ok (.bool (!truthy v)) := by
  rw [eval, value]
  rfl

/-- Both sides have the same value, or fail alike. -/
theorem Expr.eval_not_and : (Expr.unary .not (.logical .and x y)).eval scope =
    (Expr.logical .or (.unary .not x) (.unary .not y)).eval scope := by
  cases value : x.eval scope with
  | error e =>
    rw [eval_unary_error .not (eval_logical_error .and value),
      eval_logical_error .or (eval_unary_error .not value)]
  | ok v =>
    rw [eval_or (eval_not value)]
    cases truth : truthy v with
    | true =>
      have right : (Expr.logical .and x y).eval scope = y.eval scope := by
        rw [eval_and value, truth, if_pos rfl]
      rw [eval, eval, right]
      rfl
    | false =>
      have left : (Expr.logical .and x y).eval scope = .ok v := by
        rw [eval_and value, truth, if_neg (by simp)]
      rw [eval_not left, truth]
      rfl

end

/-- What a condition answers that has no value: no, unless the failure is a fault. -/
def refusal (e : Failure) : Except Fault Bool :=
  match (Trouble.ofFailure e).absorb with
  | .fault f => .error f
  | _ => .ok false

def verdict : Except Failure Value → Except Fault Bool
  | .ok v => .ok (truthy v)
  | .error e => refusal e

theorem verdict_ok (v : Value) : verdict (.ok v) = .ok (truthy v) :=
  rfl

theorem refusal_cases (e : Failure) : refusal e = .ok false ∨ ∃ f, refusal e = .error f := by
  unfold refusal
  split
  · exact .inr ⟨_, rfl⟩
  · exact .inl rfl

section

variable {scope : Scope} {x : Expr}

theorem verdict_and (y : Expr) : verdict ((Expr.logical .and x y).eval scope) =
    (verdict (x.eval scope) >>= fun p => if p then verdict (y.eval scope) else .ok false) := by
  cases value : x.eval scope with
  | error e =>
    rw [Expr.eval_logical_error .and value]
    obtain same | ⟨f, same⟩ := refusal_cases e <;> rw [verdict, same] <;> rfl
  | ok v =>
    rw [Expr.eval_and value, verdict_ok]
    cases truth : truthy v with
    | true => rfl
    | false =>
      rw [if_neg Bool.false_ne_true, verdict_ok, truth]
      rfl

theorem verdict_or {v : Value} (value : x.eval scope = .ok v) (y : Expr) :
    verdict ((Expr.logical .or x y).eval scope) =
      (verdict (x.eval scope) >>= fun p => if p then .ok true else verdict (y.eval scope)) := by
  rw [Expr.eval_or value, value, verdict_ok]
  cases truth : truthy v with
  | true =>
    rw [if_pos rfl, verdict_ok, truth]
    rfl
  | false => rfl

theorem verdict_not_not :
    verdict ((Expr.unary .not (.unary .not x)).eval scope) = verdict (x.eval scope) := by
  cases value : x.eval scope with
  | error e => rw [Expr.eval_unary_error .not (Expr.eval_unary_error .not value)]
  | ok v =>
    rw [Expr.eval_not (Expr.eval_not value)]
    simp [verdict, truthy]

end

end Condition

namespace State

open Condition Noting

theorem holds_of_parsed {condition : String} {x : Expr} (parsed : parse condition = .ok x)
    (s : State) : (s.holds condition).result = verdict (x.eval s.scope) := by
  cases value : x.eval s.scope with
  | ok v => exact holds_of_ok (truthIn_eq_ok.2 ⟨x, v, parsed, value, rfl⟩)
  | error e =>
    have truth := truthIn_of_eval_error parsed value
    rw [verdict, refusal]
    cases absorbed : (Trouble.ofFailure e).absorb with
    | fault f =>
      rw [absorbed] at truth
      exact holds_of_fault truth
    | malformed m =>
      rw [absorbed] at truth
      exact holds_of_trouble truth (by simp)
    | failed message =>
      rw [absorbed] at truth
      exact holds_of_trouble truth (by simp)

theorem valueIn_eq_ok {scope : Scope} {s : String} {x : Expr} {v : Value}
    (parsed : parse s = .ok x) : valueIn scope s = .ok v ↔ x.eval scope = .ok v := by
  rw [valueIn, parsed]
  exact mapError_eq_ok

end State

end Storyworld
