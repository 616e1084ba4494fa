import Storyworld.Value

/-!
Condition expressions.
-/

namespace Storyworld.Condition

inductive UnaryOp where
  | not
  | negate
  deriving Repr, DecidableEq

inductive BinaryOp where
  | equal
  | unequal
  | same
  | notSame
  | less
  | lessEqual
  | greater
  | greaterEqual
  | plus
  | minus
  | times
  | divide
  | remainder
  deriving Repr, DecidableEq

inductive LogicalOp where
  | and
  | or
  deriving Repr, DecidableEq

inductive Expr where
  | literal (v : Value)
  | name (s : String)
  | member (target key : Expr)
  | unary (op : UnaryOp) (operand : Expr)
  | binary (op : BinaryOp) (left right : Expr)
  | logical (op : LogicalOp) (left right : Expr)
  deriving Inhabited

def UnaryOp.symbol : UnaryOp → String
  | not => "!"
  | negate => "-"

def BinaryOp.symbol : BinaryOp → String
  | equal => "=="
  | unequal => "!="
  | same => "==="
  | notSame => "!=="
  | less => "<"
  | lessEqual => "<="
  | greater => ">"
  | greaterEqual => ">="
  | plus => "+"
  | minus => "-"
  | times => "*"
  | divide => "/"
  | remainder => "%"

def LogicalOp.symbol : LogicalOp → String
  | and => "&&"
  | or => "||"

end Storyworld.Condition
