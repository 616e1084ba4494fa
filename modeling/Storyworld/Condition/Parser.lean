import Storyworld.Condition.Expr
import Storyworld.Condition.Token
import Storyworld.Decimal.Fraction

/-!
From tokens to expressions. Binary operators stand on six levels, the loosest first, and group to
the left; below them come the prefix operators, then member access, then literals, names and
parentheses.
-/

namespace Storyworld.Condition

inductive Malformed where
  | empty
  | stray (s : Stray)
  /-- A token that cannot stand where it does; an empty text is the end of the input. -/
  | unexpected (text : List Char) (pos : Nat)
  | expected (op : List Char) (pos : Nat) (found : List Char)
  | noPropertyName (pos : Nat)
  deriving Repr, DecidableEq

inductive ParseFailure where
  | malformed (m : Malformed)
  | fault (f : Fault)
  deriving Repr, DecidableEq

inductive Joint where
  | logical (op : LogicalOp)
  | binary (op : BinaryOp)
  deriving Repr, DecidableEq

def Joint.join : Joint → Expr → Expr → Expr
  | .logical op, l, r => .logical op l r
  | .binary op, l, r => .binary op l r

/-- The operators of a level, with their spelling. -/
def levelJoints : Nat → List (String × Joint)
  | 0 => [("||", .logical .or)]
  | 1 => [("&&", .logical .and)]
  | 2 => [("==", .binary .equal), ("!=", .binary .unequal), ("===", .binary .same),
      ("!==", .binary .notSame)]
  | 3 => [("<", .binary .less), ("<=", .binary .lessEqual), (">", .binary .greater),
      (">=", .binary .greaterEqual)]
  | 4 => [("+", .binary .plus), ("-", .binary .minus)]
  | 5 => [("*", .binary .times), ("/", .binary .divide), ("%", .binary .remainder)]
  | _ => []

def jointAt? (level : Nat) (t : Token) : Option Joint :=
  if t.kind = .op then
    (levelJoints level).findSome? fun p => if p.1.toList = t.text then some p.2 else none
  else none

def unaryAt? (t : Token) : Option UnaryOp :=
  if t.kind = .op then
    if t.text = ['!'] then some .not else if t.text = ['-'] then some .negate else none
  else none

def Token.isOp (t : Token) (c : Char) : Bool :=
  t.kind == .op && t.text == [c]

/-- The text that a string lexeme stands for, its quotes taken off. -/
def unescape : List Char → List Char
  | '\\' :: c :: cs =>
    (match c with
      | 'n' => '\n'
      | 't' => '\t'
      | 'r' => '\r'
      | c => c) :: unescape cs
  | c :: cs => c :: unescape cs
  | [] => []

def unquote (lexeme : List Char) : String :=
  String.ofList (unescape (lexeme.drop 1).dropLast)

def keyword? (name : String) : Option Value :=
  if name = "true" then some (.bool true)
  else if name = "false" then some (.bool false)
  else if name = "null" ∨ name = "undefined" then some .null
  else none

def numberLiteral (text : List Char) : Except ParseFailure Value :=
  if text.contains '.' then .ok (.float ((Decimal.readFloat? text).getD Decimal.nan))
  else
    match Decimal.readWhole text with
    | .ok i => .ok (.int (i.getD 0))
    | .error f => .error (.fault f)

/-- What is being read: an expression of a level, the operators and operands that follow one, an
operand with its prefix operators, the accesses that follow an operand, or an operand alone. -/
inductive Goal where
  | level (n : Nat)
  | following (n : Nat) (left : Expr)
  | operand
  | accesses (target : Expr)
  | primary

def expectOp (op : Char) : List Token → Except ParseFailure (List Token)
  | t :: ts => if t.isOp op then .ok ts else .error (.malformed (.expected [op] t.pos t.text))
  | [] => .error (.malformed .empty)

/-- Reads a goal from the tokens and gives the tokens left over. The first argument bounds the
depth of the reading. -/
def read : Nat → Goal → List Token → Except ParseFailure (Expr × List Token)
  | 0, _, _ => .error (.malformed .empty)
  | _ + 1, _, [] => .error (.malformed .empty)
  | fuel + 1, .level n, ts =>
    if 6 ≤ n then read fuel .operand ts
    else do
      let (left, ts) ← read fuel (.level (n + 1)) ts
      read fuel (.following n left) ts
  | fuel + 1, .following n left, t :: ts =>
    match jointAt? n t with
    | some j => do
      let (right, ts) ← read fuel (.level (n + 1)) ts
      read fuel (.following n (j.join left right)) ts
    | none => .ok (left, t :: ts)
  | fuel + 1, .operand, t :: ts =>
    match unaryAt? t with
    | some op => do
      let (x, ts) ← read fuel .operand ts
      return (.unary op x, ts)
    | none => do
      let (x, ts) ← read fuel .primary (t :: ts)
      read fuel (.accesses x) ts
  | fuel + 1, .accesses target, t :: ts =>
    if t.isOp '.' then
      match ts with
      | p :: ts =>
        if p.kind = .ident then
          read fuel (.accesses (.member target (.literal (.text (String.ofList p.text))))) ts
        else .error (.malformed (.noPropertyName p.pos))
      | [] => .error (.malformed .empty)
    else if t.isOp '[' then do
      let (key, ts) ← read fuel (.level 0) ts
      let ts ← expectOp ']' ts
      read fuel (.accesses (.member target key)) ts
    else .ok (target, t :: ts)
  | fuel + 1, .primary, t :: ts =>
    match t.kind with
    | .number => do return (.literal (← numberLiteral t.text), ts)
    | .string => .ok (.literal (.text (unquote t.text)), ts)
    | .ident =>
      let s := String.ofList t.text
      match keyword? s with
      | some v => .ok (.literal v, ts)
      | none => .ok (.name s, ts)
    | _ =>
      if t.isOp '(' then do
        let (x, ts) ← read fuel (.level 0) ts
        let ts ← expectOp ')' ts
        return (x, ts)
      else .error (.malformed (.unexpected t.text t.pos))

/-- More steps than any reading of that many tokens takes in depth. -/
def depthFor (ts : List Token) : Nat :=
  12 * (ts.length + 1)

/-- Reads all tokens as one expression. -/
def ofTokens (ts : List Token) : Except ParseFailure Expr := do
  let (x, rest) ← read (depthFor ts) (.level 0) ts
  match rest with
  | t :: _ => if t.kind = .eof then .ok x else .error (.malformed (.unexpected t.text t.pos))
  | [] => .error (.malformed .empty)

def parseChars (cs : List Char) : Except ParseFailure Expr :=
  if (Text.trim cs).isEmpty then .error (.malformed .empty)
  else
    match tokenize cs with
    | .error s => .error (.malformed (.stray s))
    | .ok ts => ofTokens ts

def parse (s : String) : Except ParseFailure Expr :=
  parseChars s.toList

def Stray.message (s : Stray) : String :=
  "Unexpected character " ++ Text.quoted (String.singleton s.char) ++ " at position " ++
    s.pos.repr

def tokenName (text : List Char) : String :=
  Text.quoted (if text.isEmpty then "end of input" else String.ofList text)

def Malformed.message : Malformed → String
  | empty => "Empty condition"
  | stray s => s.message
  | unexpected text pos => "Unexpected " ++ tokenName text ++ " at position " ++ pos.repr
  | expected op pos found =>
    "Expected " ++ Text.quoted (String.ofList op) ++ " at position " ++ pos.repr ++ ", found " ++
      tokenName found
  | noPropertyName pos => "Expected property name after '.' at position " ++ pos.repr

end Storyworld.Condition
