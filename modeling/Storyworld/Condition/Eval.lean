import Storyworld.Condition.Parser
import Storyworld.Number

/-!
Evaluation of condition expressions against named values.
-/

namespace Storyworld.Condition

abbrev Scope := List (String × Value)

inductive Failure where
  | unknownName (name : String)
  | undefinedProperty (key : Value)
  | outOfRange (index : Int)
  | unreadable (key target : Value)
  | notNegatable (v : Value)
  | notComparable (op : BinaryOp) (left right : Value)
  | notNumbers (op : BinaryOp) (left right : Value)
  | divisionByZero
  | fault (f : Fault)
  deriving Inhabited

/-- Zero, the empty text, NaN and an absent value count as false, all else as true. -/
def truthy : Value → Bool
  | .null => false
  | .bool b => b
  | .int i => i != 0
  | .float x => !(x == 0.0) && !x.isNaN
  | .text s => s != ""
  | .list _ => true
  | .mapping _ => true

def indexInto {α : Type} (items : List α) (i : Int) : Except Failure α :=
  if 0 ≤ i then
    match items[i.toNat]? with
    | some x => .ok x
    | none => .error (.outOfRange i)
  else .error (.outOfRange i)

/-- The member of a value under a key. A mapping is asked for the key first; a list and a text
have a length and whole numbers as keys. -/
def memberOf (target key : Value) : Except Failure Value :=
  match target with
  | .mapping entries =>
    match key with
    | .text k =>
      match lookupLast k entries with
      | some v => .ok v
      | none => .error (.undefinedProperty key)
    | .list _ | .mapping _ => .error (.fault (.unusableKey key.kindName))
    | key => .error (.undefinedProperty key)
  | .list items =>
    match key with
    | .text "length" => .ok (.int items.length)
    | .int i => indexInto items i
    | key => .error (.unreadable key target)
  | .text s =>
    match key with
    | .text "length" => .ok (.int s.length)
    | .int i => (indexInto s.toList i).map fun c => .text (String.singleton c)
    | key => .error (.unreadable key target)
  | target => .error (.unreadable key target)

def liftFault {α : Type} : Except Fault α → Except Failure α
  | .ok a => .ok a
  | .error f => .error (.fault f)

inductive Comparison where
  | less
  | lessEqual
  | greater
  | greaterEqual

def Comparison.numbers : Comparison → Number → Number → Bool
  | less => Number.lt
  | lessEqual => Number.le
  | greater => Number.gt
  | greaterEqual => Number.ge

def Comparison.texts : Comparison → String → String → Bool
  | less, s, t => decide (s < t)
  | lessEqual, s, t => !decide (t < s)
  | greater, s, t => decide (t < s)
  | greaterEqual, s, t => !decide (s < t)

def compareValues (op : BinaryOp) (c : Comparison) (l r : Value) : Except Failure Value :=
  match l, r with
  | .text s, .text t => .ok (.bool (c.texts s t))
  | l, r =>
    match l.number?, r.number? with
    | some a, some b => .ok (.bool (c.numbers a b))
    | _, _ => .error (.notComparable op l r)

def arithmetic (op : BinaryOp) (f : Number → Number → Except Failure Number) (l r : Value) :
    Except Failure Value :=
  match l.number?, r.number? with
  | some a, some b => (f a b).map Number.toValue
  | _, _ => .error (.notNumbers op l r)

def unlessZero (f : Number → Number → Except Fault Number) (a b : Number) :
    Except Failure Number :=
  if b.isZero then .error .divisionByZero else liftFault (f a b)

def applyBinary (op : BinaryOp) (l r : Value) : Except Failure Value :=
  match op with
  | .equal => .ok (.bool (l.equal r))
  | .unequal => .ok (.bool (!l.equal r))
  | .same => .ok (.bool (l.strictEqual r))
  | .notSame => .ok (.bool (!l.strictEqual r))
  | .less => compareValues op .less l r
  | .lessEqual => compareValues op .lessEqual l r
  | .greater => compareValues op .greater l r
  | .greaterEqual => compareValues op .greaterEqual l r
  | .plus =>
    match l, r with
    | .text s, .text t => .ok (.text (s ++ t))
    | l, r => arithmetic op (fun a b => liftFault (a.add b)) l r
  | .minus => arithmetic op (fun a b => liftFault (a.sub b)) l r
  | .times => arithmetic op (fun a b => liftFault (a.mul b)) l r
  | .divide => arithmetic op (unlessZero Number.div) l r
  | .remainder => arithmetic op (unlessZero Number.rem) l r

def applyUnary (op : UnaryOp) (v : Value) : Except Failure Value :=
  match op with
  | .not => .ok (.bool (!truthy v))
  | .negate =>
    match v.number? with
    | some a => .ok a.neg.toValue
    | none => .error (.notNegatable v)

/-- The value of an expression. The right side of a connective is evaluated only if the left one
leaves the answer open. -/
def Expr.eval (scope : Scope) : Expr → Except Failure Value
  | .literal v => .ok v
  | .name s =>
    match lookupLast s scope with
    | some v => .ok v
    | none => .error (.unknownName s)
  | .member target key => do
    let t ← target.eval scope
    let k ← key.eval scope
    memberOf t k
  | .unary op x => do applyUnary op (← x.eval scope)
  | .logical .and l r => do
    let v ← l.eval scope
    if truthy v then r.eval scope else return v
  | .logical .or l r => do
    let v ← l.eval scope
    if truthy v then return v else r.eval scope
  | .binary op l r => do
    let v ← l.eval scope
    let w ← r.eval scope
    applyBinary op v w

/-- The wording of a failure; none for a fault that has none. -/
def Failure.message : Failure → Except Fault String
  | unknownName s => .ok ("Unknown name " ++ Text.quoted s)
  | undefinedProperty key => do return "Undefined property " ++ (← key.shown)
  | outOfRange i => do return "Index " ++ (← Decimal.writeWhole i) ++ " out of range"
  | unreadable key target => do
    return "Cannot read property " ++ (← key.shown) ++ " of " ++ target.kindName
  | notNegatable v => do return "Cannot negate " ++ (← v.shown)
  | notComparable op l r => do
    return "Cannot compare " ++ (← l.shown) ++ " " ++ op.symbol ++ " " ++ (← r.shown)
  | notNumbers op l r => do
    return "Operator " ++ Text.quoted op.symbol ++ " needs numbers, got " ++ (← l.shown) ++
      " and " ++ (← r.shown)
  | divisionByZero => .ok "Division by zero"
  | fault f =>
    match f.message with
    | some s => .ok s
    | none => .error f

/-- Why a condition has no truth value: it is malformed, or its evaluation fails, with a wording.
A fault that is neither leaves the condition altogether. -/
inductive Trouble where
  | malformed (m : Malformed)
  | failed (message : String)
  | fault (f : Fault)
  deriving Repr, DecidableEq

def Trouble.ofParse : ParseFailure → Trouble
  | .malformed m => .malformed m
  | .fault f => .fault f

/-- A failure as trouble, faults kept apart. -/
def Trouble.ofFailure : Failure → Trouble
  | .fault f => .fault f
  | e =>
    match e.message with
    | .ok s => .failed s
    | .error f => .fault f

/-- Faults of arithmetic and of look-ups count as failed evaluations of the condition. -/
def Trouble.absorb : Trouble → Trouble
  | .fault f =>
    match f.isComputational, f.message with
    | true, some s => .failed s
    | _, _ => .fault f
  | t => t

/-- The value of a condition text. -/
def valueIn (scope : Scope) (s : String) : Except Trouble Value := do
  let x ← (parse s).mapError Trouble.ofParse
  (x.eval scope).mapError Trouble.ofFailure

/-- The truth of a condition text. -/
def truthIn (scope : Scope) (s : String) : Except Trouble Bool := do
  let x ← (parse s).mapError Trouble.ofParse
  match x.eval scope with
  | .ok v => .ok (truthy v)
  | .error e => .error (Trouble.ofFailure e).absorb

end Storyworld.Condition
