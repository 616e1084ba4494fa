import Storyworld.Text.Blank
import Storyworld.Text.Cut
import Storyworld.Text.Digit
import Storyworld.Text.Quoted

/-!
Tokens of condition expressions. A condition is cut from the left into lexemes; at each place the
longest lexeme of the first fitting class is taken. Runs of blanks are lexemes that give no token.
-/

namespace Storyworld.Condition

inductive TokenKind where
  | number
  | string
  | ident
  | op
  | eof
  deriving Repr, DecidableEq, Inhabited

structure Token where
  kind : TokenKind
  text : List Char
  pos : Nat
  deriving Repr, DecidableEq, Inhabited

def isIdentStart (c : Char) : Bool :=
  c.isAlpha || c == '_' || c == '$'

def isIdentPart (c : Char) : Bool :=
  isIdentStart c || c.isDigit

/-- The longest run of characters of a class, and the rest. -/
def takeRun (p : Char → Bool) (cs : List Char) : List Char × List Char :=
  (cs.takeWhile p, cs.dropWhile p)

theorem takeRun_append (p : Char → Bool) (cs : List Char) :
    (takeRun p cs).1 ++ (takeRun p cs).2 = cs :=
  List.takeWhile_append_dropWhile

/-- Digits, and after them a point and more digits if a digit follows the point. -/
def numberFrom (cs : List Char) : List Char × List Char :=
  let (whole, rest) := takeRun Text.isDigit cs
  match rest with
  | '.' :: d :: more =>
    if Text.isDigit d then
      let (fraction, rest) := takeRun Text.isDigit (d :: more)
      (whole ++ '.' :: fraction, rest)
    else (whole, rest)
  | _ => (whole, rest)

/-- The text up to the closing quote. A backslash takes the next character with it, unless that
ends the line. -/
def stringBody (quote : Char) : List Char → Option (List Char × List Char)
  | [] => none
  | '\\' :: c :: cs =>
    if c == '\n' then none
    else (stringBody quote cs).map fun p => ('\\' :: c :: p.1, p.2)
  | c :: cs =>
    if c == quote then some ([c], cs)
    else if c == '\\' then none
    else (stringBody quote cs).map fun p => (c :: p.1, p.2)

/-- Operators; of two that begin alike the longer one comes first. -/
def operators : List (List Char) :=
  ["===", "!==", "==", "!=", "<=", ">=", "&&", "||", "<", ">", "!", "+", "-", "*", "/", "%", "(",
    ")", ".", "[", "]"].map String.toList

def operatorFrom (cs : List Char) : Option (List Char × List Char) :=
  operators.findSome? fun o => (Text.stripLeading o cs).map fun rest => (o, rest)

/-- The first lexeme of a text, with its kind unless it is blank, and the rest. -/
def lexeme? (cs : List Char) : Option (Option TokenKind × List Char × List Char) :=
  match cs with
  | [] => none
  | c :: rest =>
    if Text.isBlank c then
      some (none, takeRun Text.isBlank cs)
    else if Text.isDigit c then
      some (some .number, numberFrom cs)
    else if c == '.' && rest.head?.any Text.isDigit then
      let (fraction, rest) := takeRun Text.isDigit rest
      some (some .number, '.' :: fraction, rest)
    else if isIdentStart c then
      some (some .ident, takeRun isIdentPart cs)
    else if c == '\'' || c == '"' then
      (stringBody c rest).map fun p => (some .string, c :: p.1, p.2)
    else
      (operatorFrom cs).map fun p => (some .op, p)

theorem takeRun_cons_rest_length {p : Char → Bool} {c : Char} (cs : List Char) (h : p c = true) :
    (takeRun p (c :: cs)).2.length < (c :: cs).length := by
  have : (cs.dropWhile p).length ≤ cs.length := (List.dropWhile_suffix p).length_le
  simp [takeRun, h]
  omega

theorem stringBody_rest_length {q : Char} {cs a b : List Char} (h : stringBody q cs = some (a, b)) :
    b.length < cs.length := by
  fun_induction stringBody q cs generalizing a b with
  | case1 => simp at h
  | case2 => simp at h
  | case3 c cs _ ih =>
    obtain ⟨⟨x, y⟩, hp, hxy⟩ := Option.map_eq_some_iff.1 h
    cases hxy
    have := ih hp
    simp only [List.length_cons]
    omega
  | case4 => simp_all
  | case5 => simp at h
  | case6 c cs _ _ _ ih =>
    obtain ⟨⟨x, y⟩, hp, hxy⟩ := Option.map_eq_some_iff.1 h
    cases hxy
    have := ih hp
    simp only [List.length_cons]
    omega

theorem operatorFrom_eq_some {cs o rest : List Char} (h : operatorFrom cs = some (o, rest)) :
    o ∈ operators ∧ cs = o ++ rest := by
  obtain ⟨o', ho, hs⟩ := List.exists_of_findSome?_eq_some h
  obtain ⟨r, hr, he⟩ := Option.map_eq_some_iff.1 hs
  cases he
  exact ⟨ho, Text.stripLeading_eq_some hr⟩

theorem operators_ne_nil {o : List Char} (h : o ∈ operators) : o ≠ [] := by
  revert o
  decide

theorem numberFrom_rest_length {c : Char} (cs : List Char) (h : Text.isDigit c = true) :
    (numberFrom (c :: cs)).2.length < (c :: cs).length := by
  have h1 := takeRun_cons_rest_length cs h
  unfold numberFrom
  split
  rename_i whole rest hw
  rw [hw] at h1
  split
  · rename_i d more
    split
    · rename_i hd
      have h2 := takeRun_cons_rest_length more hd
      simp only [List.length_cons] at h1 h2 ⊢
      omega
    · exact h1
  · exact h1

/-- A lexeme takes something away. -/
theorem lexeme?_rest_length {cs t rest : List Char} {k : Option TokenKind}
    (h : lexeme? cs = some (k, t, rest)) : rest.length < cs.length := by
  unfold lexeme? at h
  split at h
  · simp at h
  rename_i c r
  split at h
  · rename_i hb
    have := takeRun_cons_rest_length r hb
    simp only [Option.some.injEq, Prod.mk.injEq] at h
    rw [h.2] at this
    exact this
  split at h
  · rename_i hd
    have := numberFrom_rest_length r hd
    simp only [Option.some.injEq, Prod.mk.injEq] at h
    rw [h.2] at this
    exact this
  split at h
  · simp only [takeRun, Option.some.injEq, Prod.mk.injEq] at h
    have : (r.dropWhile Text.isDigit).length ≤ r.length := (List.dropWhile_suffix _).length_le
    rw [h.2.2] at this
    simp only [List.length_cons]
    omega
  split at h
  · rename_i hi
    have := takeRun_cons_rest_length (p := isIdentPart) (c := c) r
      (by simp [isIdentPart, hi])
    simp only [Option.some.injEq, Prod.mk.injEq] at h
    rw [h.2] at this
    exact this
  split at h
  · obtain ⟨⟨x, y⟩, hp, hxy⟩ := Option.map_eq_some_iff.1 h
    cases hxy
    have := stringBody_rest_length hp
    simp only [List.length_cons]
    omega
  · obtain ⟨⟨x, y⟩, hp, hxy⟩ := Option.map_eq_some_iff.1 h
    cases hxy
    obtain ⟨ho, he⟩ := operatorFrom_eq_some hp
    have := List.length_pos_iff.2 (operators_ne_nil ho)
    rw [he, List.length_append]
    omega

/-- The place of a character with which no lexeme begins. -/
structure Stray where
  char : Char
  pos : Nat
  deriving Repr, DecidableEq

/-- Cuts a text that starts at a given place. -/
def tokensFrom (pos : Nat) (cs : List Char) : Except Stray (List Token) :=
  match _h : lexeme? cs with
  | some (kind, text, rest) =>
    match tokensFrom (pos + text.length) rest with
    | .error e => .error e
    | .ok ts =>
      match kind with
      | some k => .ok (⟨k, text, pos⟩ :: ts)
      | none => .ok ts
  | none =>
    match cs with
    | [] => .ok [⟨.eof, [], pos⟩]
    | c :: _ => .error ⟨c, pos⟩
termination_by cs.length
decreasing_by exact lexeme?_rest_length _h

/-- The tokens of an expression; the last one marks the end. -/
def tokenize (cs : List Char) : Except Stray (List Token) :=
  tokensFrom 0 cs

end Storyworld.Condition
