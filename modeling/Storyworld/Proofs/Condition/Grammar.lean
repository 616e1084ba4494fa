import Storyworld.Condition.Parser

/-!
The grammar of condition expressions, apart from the parser. A phrase is a derivation: it spells
tokens and stands for an expression. A chain of operators of one level is read as its first operand
with a row of links behind it, and the links group to the left; in the same way the accesses that
follow an operand form a row of steps.
-/

namespace Storyworld.Condition

/-- The levels of the binary operators, the loosest first. -/
inductive Level where
  | disjunction
  | conjunction
  | equality
  | comparison
  | sum
  | product
  deriving Repr, DecidableEq

inductive Symbol where
  | level (l : Level)
  | unary
  | access
  | primary
  deriving Repr, DecidableEq

/-- What a phrase can be: a whole expression of a symbol, or a row that follows an operand. -/
inductive Part where
  | whole (s : Symbol)
  | links (l : Level)
  | steps
  deriving Repr, DecidableEq

abbrev Part.expression : Part :=
  .whole (.level .disjunction)

/-- The operands of a level are one level tighter. -/
def Level.operand : Level → Symbol
  | disjunction => .level .conjunction
  | conjunction => .level .equality
  | equality => .level .comparison
  | comparison => .level .sum
  | sum => .level .product
  | product => .unary

def Joint.level : Joint → Level
  | .logical .or => .disjunction
  | .logical .and => .conjunction
  | .binary .equal | .binary .unequal | .binary .same | .binary .notSame => .equality
  | .binary .less | .binary .lessEqual | .binary .greater | .binary .greaterEqual => .comparison
  | .binary .plus | .binary .minus => .sum
  | .binary .times | .binary .divide | .binary .remainder => .product

def Joint.symbol : Joint → String
  | .logical op => op.symbol
  | .binary op => op.symbol

/-- All binary operators. -/
def joints : List Joint :=
  [.logical .or, .logical .and] ++
    [.equal, .unequal, .same, .notSame, .less, .lessEqual, .greater, .greaterEqual, .plus, .minus,
      .times, .divide, .remainder].map .binary

theorem mem_joints (j : Joint) : j ∈ joints := by
  cases j with
  | logical op => cases op <;> decide
  | binary op => cases op <;> decide

def Token.Spells (t : Token) (s : String) : Prop :=
  t.kind = .op ∧ t.text = s.toList

inductive Keyword : String → Value → Prop where
  | true : Keyword "true" (.bool Bool.true)
  | false : Keyword "false" (.bool Bool.false)
  | null : Keyword "null" .null
  | undefined : Keyword "undefined" .null

/-- The value of a number: a whole one without a point, a floating-point one with it. -/
inductive Numeral : List Char → Value → Prop where
  | whole {text : List Char} (plain : '.' ∉ text) :
      Numeral text (.int (Decimal.valueOf (Decimal.digitValues text)))
  | pointed {text : List Char} {x : Float} (point : '.' ∈ text)
      (reads : Decimal.readFloat? text = some x) : Numeral text (.float x)

inductive Phrase : Part → Type where
  | chain {l : Level} (first : Phrase (.whole l.operand)) (more : Phrase (.links l)) :
      Phrase (.whole (.level l))
  | noLink {l : Level} : Phrase (.links l)
  | link {l : Level} (t : Token) (j : Joint) (stands : j.level = l) (spelt : t.Spells j.symbol)
      (right : Phrase (.whole l.operand)) (more : Phrase (.links l)) : Phrase (.links l)
  | signed (t : Token) (op : UnaryOp) (spelt : t.Spells op.symbol)
      (operand : Phrase (.whole .unary)) : Phrase (.whole .unary)
  | unsigned (operand : Phrase (.whole .access)) : Phrase (.whole .unary)
  | access (first : Phrase (.whole .primary)) (more : Phrase .steps) : Phrase (.whole .access)
  | noStep : Phrase .steps
  | property (dot word : Token) (dotted : dot.Spells ".") (named : word.kind = .ident)
      (more : Phrase .steps) : Phrase .steps
  | index (left right : Token) (opens : left.Spells "[") (closes : right.Spells "]")
      (key : Phrase .expression) (more : Phrase .steps) : Phrase .steps
  | number (t : Token) (v : Value) (kind : t.kind = .number) (reads : Numeral t.text v) :
      Phrase (.whole .primary)
  | text (t : Token) (kind : t.kind = .string) : Phrase (.whole .primary)
  | keyword (t : Token) (v : Value) (kind : t.kind = .ident)
      (means : Keyword (String.ofList t.text) v) : Phrase (.whole .primary)
  | name (t : Token) (kind : t.kind = .ident)
      (free : ∀ v, ¬ Keyword (String.ofList t.text) v) : Phrase (.whole .primary)
  | group (left right : Token) (opens : left.Spells "(") (closes : right.Spells ")")
      (inner : Phrase .expression) : Phrase (.whole .primary)

theorem Token.Spells.eq {t : Token} {s s' : String} (h : t.Spells s) (h' : t.Spells s') :
    s = s' :=
  String.toList_injective (h.2.symm.trans h'.2)

/-- No operator is spelt like another one. -/
theorem Joint.symbol_injective {j k : Joint} (h : j.symbol = k.symbol) : j = k := by
  have spelt : ∀ j ∈ joints, ∀ k ∈ joints, j.symbol = k.symbol → j = k := by decide
  exact spelt j (mem_joints j) k (mem_joints k) h

theorem Keyword.unique {s : String} {v w : Value} (h : Keyword s v) (h' : Keyword s w) :
    v = w := by
  generalize e : s = s' at h'
  cases h <;> cases h' <;> first | rfl | simp at e

theorem Numeral.unique {text : List Char} {v w : Value} (h : Numeral text v)
    (h' : Numeral text w) : v = w := by
  cases h with
  | whole plain =>
    cases h' with
    | whole => rfl
    | pointed point => exact absurd point plain
  | pointed point reads =>
    cases h' with
    | whole plain => exact absurd point plain
    | pointed _ reads' =>
      rw [reads] at reads'
      cases reads'
      rfl

/-- A row stands for what it makes of the operand in front of it. -/
abbrev Part.Meaning : Part → Type
  | whole _ => Expr
  | links _ | steps => Expr → Expr

namespace Phrase

def tokens : {part : Part} → Phrase part → List Token
  | _, chain first more => first.tokens ++ more.tokens
  | _, noLink => []
  | _, link t _ _ _ right more => t :: (right.tokens ++ more.tokens)
  | _, signed t _ _ operand => t :: operand.tokens
  | _, unsigned operand => operand.tokens
  | _, access first more => first.tokens ++ more.tokens
  | _, noStep => []
  | _, property dot word _ _ more => dot :: word :: more.tokens
  | _, index left right _ _ key more => left :: (key.tokens ++ right :: more.tokens)
  | _, number t _ _ _ => [t]
  | _, text t _ => [t]
  | _, keyword t _ _ _ => [t]
  | _, name t _ _ => [t]
  | _, group left right _ _ inner => left :: (inner.tokens ++ [right])

def tree : {part : Part} → Phrase part → part.Meaning
  | _, chain first more => more.tree first.tree
  | _, noLink => fun left => left
  | _, link _ j _ _ right more => fun left => more.tree (j.join left right.tree)
  | _, signed _ op _ operand => .unary op operand.tree
  | _, unsigned operand => operand.tree
  | _, access first more => more.tree first.tree
  | _, noStep => fun target => target
  | _, property _ word _ _ more => fun target =>
      more.tree (.member target (.literal (.text (String.ofList word.text))))
  | _, index _ _ _ _ key more => fun target => more.tree (.member target key.tree)
  | _, number _ v _ _ => .literal v
  | _, text t _ => .literal (.text (unquote t.text))
  | _, keyword _ v _ _ => .literal v
  | _, name t _ _ => .name (String.ofList t.text)
  | _, group _ _ _ _ inner => inner.tree

end Phrase

/-- Tokens that a symbol derives, with the expression of a derivation. -/
def Symbol.Derives (s : Symbol) (ts : List Token) (x : Expr) : Prop :=
  ∃ p : Phrase (.whole s), p.tokens = ts ∧ p.tree = x

end Storyworld.Condition
