import Storyworld.Proofs.Condition.Unambiguous
import Storyworld.Proofs.Results

/-!
How the reader takes tokens. Its tables are those of the grammar, and a deeper bound changes no
answer but the one that the bound was too small.
-/

namespace Storyworld.Condition

theorem levelJoints_spec {n : Nat} {p : String × Joint} (h : p ∈ levelJoints n) :
    p.2.level.depth = n ∧ p.2.symbol = p.1 := by
  have listed : ∀ n < 6, ∀ p ∈ levelJoints n, p.2.level.depth = n ∧ p.2.symbol = p.1 := by decide
  by_cases low : n < 6
  · exact listed n low p h
  · have none : levelJoints n = [] := by
      unfold levelJoints
      split <;> first | rfl | simp at low
    simp [none] at h

theorem jointAt?_eq_some {n : Nat} {t : Token} {j : Joint} :
    jointAt? n t = some j ↔ j.level.depth = n ∧ t.Spells j.symbol := by
  constructor
  · intro h
    unfold jointAt? at h
    split at h
    case isFalse => cases h
    case isTrue kind =>
      obtain ⟨⟨s, k⟩, mem, found⟩ := List.exists_of_findSome?_eq_some h
      split at found
      case isFalse => cases found
      case isTrue same =>
        cases found
        obtain ⟨stands, spelt⟩ := levelJoints_spec mem
        exact ⟨stands, kind, by rw [spelt, ← same]⟩
  · rintro ⟨rfl, kind, text⟩
    rw [jointAt?, if_pos kind, text]
    have listed : ∀ j ∈ joints, ((levelJoints j.level.depth).findSome? fun p =>
        if p.1.toList = j.symbol.toList then some p.2 else none) = some j := by decide
    exact listed j (mem_joints j)

theorem unaryAt?_eq_some {t : Token} {op : UnaryOp} :
    unaryAt? t = some op ↔ t.Spells op.symbol := by
  constructor
  · intro h
    unfold unaryAt? at h
    split at h
    case isFalse => cases h
    case isTrue kind =>
      split at h
      case isTrue text =>
        cases h
        exact ⟨kind, text⟩
      case isFalse =>
        split at h
        case isTrue text =>
          cases h
          exact ⟨kind, text⟩
        case isFalse => cases h
  · rintro ⟨kind, text⟩
    rw [unaryAt?, if_pos kind, text]
    cases op <;> decide

theorem Token.isOp_iff {t : Token} {c : Char} :
    t.isOp c = true ↔ t.Spells (String.singleton c) := by
  simp [Token.isOp, Token.Spells]

theorem keyword?_eq_some {s : String} {v : Value} : keyword? s = some v ↔ Keyword s v := by
  constructor
  · intro h
    unfold keyword? at h
    split at h
    case isTrue same =>
      cases h
      subst same
      exact .true
    case isFalse =>
      split at h
      case isTrue same =>
        cases h
        subst same
        exact .false
      case isFalse =>
        split at h
        case isTrue same =>
          cases h
          obtain rfl | rfl := same
          · exact .null
          · exact .undefined
        case isFalse => cases h
  · intro h
    cases h <;> rfl

/-- The answer when the bound or the tokens run out. -/
abbrev ParseFailure.empty : ParseFailure :=
  .malformed .empty

/-- A reading with more tokens behind those that are left over. -/
def beyond (more : List Token) (r : Expr × List Token) : Expr × List Token :=
  (r.1, r.2 ++ more)

theorem bind_extends {α β : Type} {f : α → α} {g : β → β} {x x' : Except ParseFailure α}
    {k k' : α → Except ParseFailure β} (hx : x ≠ .error .empty → x' = x.map f)
    (hk : ∀ a, k a ≠ .error .empty → k' (f a) = (k a).map g)
    (h : x >>= k ≠ .error .empty) : x' >>= k' = (x >>= k).map g := by
  cases x with
  | error e =>
    have same := hx fun empty => h (by rw [empty]; rfl)
    rw [same]
    rfl
  | ok a =>
    have same := hx (by simp)
    rw [same]
    exact hk a h

theorem expectOp_append {op : Char} {ts : List Token} (more : List Token)
    (h : expectOp op ts ≠ .error .empty) :
    expectOp op (ts ++ more) = (expectOp op ts).map (· ++ more) := by
  cases ts with
  | nil => exact absurd rfl h
  | cons t ts =>
    simp only [expectOp, List.cons_append]
    split <;> rfl

/-- A deeper bound and more tokens behind those that are looked at change no answer. -/
theorem read_extends {fuel : Nat} {goal : Goal} {ts : List Token} (deeper : Nat)
    (more : List Token) (h : read fuel goal ts ≠ .error .empty) :
    read (fuel + deeper) goal (ts ++ more) = (read fuel goal ts).map (beyond more) := by
  -- a goal that looked behind the tokens, or ran out of its bound, would have had the empty answer
  induction fuel generalizing goal ts with
  | zero => exact absurd rfl h
  | succ fuel ih =>
    rw [Nat.succ_add]
    cases ts with
    | nil => exact absurd rfl h
    | cons t ts =>
      cases goal with
      | level n =>
        simp only [read, List.cons_append] at h ⊢
        split at h
        case isTrue high =>
          rw [if_pos high, if_pos high]
          exact ih h
        case isFalse low =>
          rw [if_neg low, if_neg low]
          exact bind_extends ih (fun _ => ih) h
      | following n left =>
        simp only [read, List.cons_append] at h ⊢
        split at h
        · exact bind_extends ih (fun _ => ih) h
        · rfl
      | operand =>
        simp only [read, List.cons_append] at h ⊢
        split at h
        · exact bind_extends ih (fun _ _ => rfl) h
        · exact bind_extends ih (fun _ => ih) h
      | accesses target =>
        simp only [read, List.cons_append] at h ⊢
        split at h
        case isTrue dot =>
          rw [if_pos dot, if_pos dot]
          cases ts with
          | nil => exact absurd rfl h
          | cons word ts =>
            simp only [List.cons_append] at h ⊢
            split at h
            case isTrue named =>
              rw [if_pos named, if_pos named]
              exact ih h
            case isFalse named =>
              rw [if_neg named, if_neg named]
              rfl
        case isFalse dot =>
          rw [if_neg dot, if_neg dot]
          split at h
          case isTrue bracket =>
            rw [if_pos bracket, if_pos bracket]
            exact bind_extends ih (fun _ => bind_extends (expectOp_append more) fun _ => ih) h
          case isFalse bracket =>
            rw [if_neg bracket, if_neg bracket]
            rfl
      | primary =>
        simp only [read, List.cons_append] at h ⊢
        split at h
        case h_1 => cases numberLiteral t.text <;> rfl
        case h_2 => rfl
        case h_3 => split <;> rfl
        case h_4 =>
          split at h
          case isTrue group =>
            rw [if_pos group, if_pos group]
            exact bind_extends ih
              (fun _ => bind_extends (expectOp_append more) fun _ _ => rfl) h
          case isFalse group =>
            rw [if_neg group, if_neg group]
            rfl

theorem read_mono {fuel fuel' : Nat} {goal : Goal} {ts : List Token} (le : fuel ≤ fuel')
    (h : read fuel goal ts ≠ .error .empty) : read fuel' goal ts = read fuel goal ts := by
  obtain ⟨deeper, rfl⟩ := Nat.exists_eq_add_of_le le
  have same := read_extends deeper [] h
  rw [List.append_nil] at same
  rw [same]
  cases read fuel goal ts <;> simp [Except.map, beyond]

theorem Level.exists_depth {n : Nat} (h : n < 6) : ∃ l : Level, l.depth = n := by
  match n, h with
  | 0, _ => exact ⟨disjunction, rfl⟩
  | 1, _ => exact ⟨conjunction, rfl⟩
  | 2, _ => exact ⟨equality, rfl⟩
  | 3, _ => exact ⟨comparison, rfl⟩
  | 4, _ => exact ⟨sum, rfl⟩
  | 5, _ => exact ⟨product, rfl⟩

abbrev Result :=
  Except ParseFailure (Expr × List Token)

/-- What a goal does with its tokens, given the results of the goals it sets in its turn. -/
inductive Step (R : Goal → List Token → Result → Prop) : Goal → List Token → Result → Prop where
  | high {n : Nat} {ts : List Token} {r : Result} (le : 6 ≤ n) (inner : R .operand ts r) :
      Step R (.level n) ts r
  | level {ts mid : List Token} {x : Expr} {r : Result} (l : Level)
      (first : R (.level (l.depth + 1)) ts (.ok (x, mid)))
      (more : R (.following l.depth x) mid r) : Step R (.level l.depth) ts r
  | levelError {ts : List Token} {e : ParseFailure} (l : Level)
      (first : R (.level (l.depth + 1)) ts (.error e)) : Step R (.level l.depth) ts (.error e)
  | noLink {n : Nat} {left : Expr} {t : Token} {ts : List Token} :
      Step R (.following n left) (t :: ts) (.ok (left, t :: ts))
  | link {left x : Expr} {t : Token} {ts mid : List Token} {r : Result} (j : Joint)
      (spelt : t.Spells j.symbol) (right : R (.level (j.level.depth + 1)) ts (.ok (x, mid)))
      (more : R (.following j.level.depth (j.join left x)) mid r) :
      Step R (.following j.level.depth left) (t :: ts) r
  | linkError {left : Expr} {t : Token} {ts : List Token} {e : ParseFailure} (j : Joint)
      (spelt : t.Spells j.symbol) (right : R (.level (j.level.depth + 1)) ts (.error e)) :
      Step R (.following j.level.depth left) (t :: ts) (.error e)
  | signed {t : Token} {ts rest : List Token} {x : Expr} (op : UnaryOp)
      (spelt : t.Spells op.symbol) (operand : R .operand ts (.ok (x, rest))) :
      Step R .operand (t :: ts) (.ok (.unary op x, rest))
  | signedError {t : Token} {ts : List Token} {e : ParseFailure} (op : UnaryOp)
      (spelt : t.Spells op.symbol) (operand : R .operand ts (.error e)) :
      Step R .operand (t :: ts) (.error e)
  | unsigned {ts mid : List Token} {x : Expr} {r : Result} (first : R .primary ts (.ok (x, mid)))
      (more : R (.accesses x) mid r) : Step R .operand ts r
  | unsignedError {ts : List Token} {e : ParseFailure} (first : R .primary ts (.error e)) :
      Step R .operand ts (.error e)
  | noStep {target : Expr} {t : Token} {ts : List Token} :
      Step R (.accesses target) (t :: ts) (.ok (target, t :: ts))
  | property {target : Expr} {t word : Token} {ts : List Token} {r : Result}
      (dotted : t.Spells ".") (named : word.kind = .ident)
      (more : R (.accesses (.member target (.literal (.text (String.ofList word.text))))) ts r) :
      Step R (.accesses target) (t :: word :: ts) r
  | unnamed {target : Expr} {t word : Token} {ts : List Token} (dotted : t.Spells ".") :
      Step R (.accesses target) (t :: word :: ts)
        (.error (.malformed (.noPropertyName word.pos)))
  | cut {target : Expr} {t : Token} (dotted : t.Spells ".") :
      Step R (.accesses target) [t] (.error .empty)
  | index {target x : Expr} {t right : Token} {ts mid : List Token} {r : Result}
      (opens : t.Spells "[") (closes : right.Spells "]")
      (key : R (.level 0) ts (.ok (x, right :: mid)))
      (more : R (.accesses (.member target x)) mid r) : Step R (.accesses target) (t :: ts) r
  | indexError {target : Expr} {t : Token} {ts : List Token} {e : ParseFailure}
      (opens : t.Spells "[") (key : R (.level 0) ts (.error e)) :
      Step R (.accesses target) (t :: ts) (.error e)
  | indexOpen {target x : Expr} {t : Token} {ts mid : List Token} {e : ParseFailure}
      (opens : t.Spells "[") (key : R (.level 0) ts (.ok (x, mid)))
      (unclosed : expectOp ']' mid = .error e) : Step R (.accesses target) (t :: ts) (.error e)
  | number {t : Token} {ts : List Token} {v : Value} (kind : t.kind = .number)
      (value : numberLiteral t.text = .ok v) : Step R .primary (t :: ts) (.ok (.literal v, ts))
  | numberError {t : Token} {ts : List Token} {e : ParseFailure} (kind : t.kind = .number)
      (value : numberLiteral t.text = .error e) : Step R .primary (t :: ts) (.error e)
  | text {t : Token} {ts : List Token} (kind : t.kind = .string) :
      Step R .primary (t :: ts) (.ok (.literal (.text (unquote t.text)), ts))
  | keyword {t : Token} {ts : List Token} {v : Value} (kind : t.kind = .ident)
      (means : Keyword (String.ofList t.text) v) :
      Step R .primary (t :: ts) (.ok (.literal v, ts))
  | name {t : Token} {ts : List Token} (kind : t.kind = .ident)
      (free : ∀ v, ¬ Keyword (String.ofList t.text) v) :
      Step R .primary (t :: ts) (.ok (.name (String.ofList t.text), ts))
  | group {t right : Token} {ts rest : List Token} {x : Expr} (opens : t.Spells "(")
      (closes : right.Spells ")") (inner : R (.level 0) ts (.ok (x, right :: rest))) :
      Step R .primary (t :: ts) (.ok (x, rest))
  | groupError {t : Token} {ts : List Token} {e : ParseFailure} (opens : t.Spells "(")
      (inner : R (.level 0) ts (.error e)) : Step R .primary (t :: ts) (.error e)
  | groupOpen {t : Token} {ts mid : List Token} {x : Expr} {e : ParseFailure}
      (opens : t.Spells "(") (inner : R (.level 0) ts (.ok (x, mid)))
      (unclosed : expectOp ')' mid = .error e) : Step R .primary (t :: ts) (.error e)
  | stray {t : Token} {ts : List Token} :
      Step R .primary (t :: ts) (.error (.malformed (.unexpected t.text t.pos)))

theorem expectOp_eq_ok {op : Char} {ts rest : List Token} (h : expectOp op ts = .ok rest) :
    ∃ t, ts = t :: rest ∧ t.Spells (String.singleton op) := by
  unfold expectOp at h
  split at h
  case h_1 t ts =>
    split at h
    case isTrue spelt =>
      cases h
      exact ⟨t, rfl, Token.isOp_iff.1 spelt⟩
    case isFalse => cases h
  case h_2 => cases h

/-- The reader takes such a step, its bound one less for the goals it sets. -/
theorem read_step {fuel : Nat} {goal : Goal} {t : Token} {ts : List Token} {r : Result}
    (h : read (fuel + 1) goal (t :: ts) = r) :
    Step (fun g us s => read fuel g us = s) goal (t :: ts) r := by
  cases goal with
  | level n =>
    simp only [read] at h
    split at h
    case isTrue high => exact .high high h
    case isFalse low =>
      obtain ⟨l, rfl⟩ := Level.exists_depth (Nat.lt_of_not_le low)
      cases first : read fuel (.level (l.depth + 1)) (t :: ts) with
      | error e =>
        rw [first] at h
        cases h
        exact .levelError l first
      | ok p =>
        rw [first] at h
        exact .level l first h
  | following n left =>
    simp only [read] at h
    split at h
    case h_1 j joint =>
      obtain ⟨rfl, spelt⟩ := jointAt?_eq_some.1 joint
      cases right : read fuel (.level (j.level.depth + 1)) ts with
      | error e =>
        rw [right] at h
        cases h
        exact .linkError j spelt right
      | ok p =>
        rw [right] at h
        exact .link j spelt right h
    case h_2 =>
      cases h
      exact .noLink
  | operand =>
    simp only [read] at h
    split at h
    case h_1 op unary =>
      have spelt := unaryAt?_eq_some.1 unary
      cases operand : read fuel .operand ts with
      | error e =>
        rw [operand] at h
        cases h
        exact .signedError op spelt operand
      | ok p =>
        rw [operand] at h
        cases h
        exact .signed op spelt operand
    case h_2 =>
      cases first : read fuel .primary (t :: ts) with
      | error e =>
        rw [first] at h
        cases h
        exact .unsignedError first
      | ok p =>
        rw [first] at h
        exact .unsigned first h
  | accesses target =>
    simp only [read] at h
    split at h
    case isTrue dot =>
      have dotted := Token.isOp_iff.1 dot
      split at h
      case h_1 word ts =>
        split at h
        case isTrue named => exact .property dotted named h
        case isFalse =>
          cases h
          exact .unnamed dotted
      case h_2 =>
        cases h
        exact .cut dotted
    case isFalse =>
      split at h
      case isFalse =>
        cases h
        exact .noStep
      case isTrue bracket =>
        have opens := Token.isOp_iff.1 bracket
        cases key : read fuel (.level 0) ts with
        | error e =>
          rw [key] at h
          cases h
          exact .indexError opens key
        | ok p =>
          obtain ⟨x, mid⟩ := p
          rw [key] at h
          cases closing : expectOp ']' mid with
          | error e =>
            have failed := (bind_eq_error.2 (.inl closing)).symm.trans h
            cases failed
            exact .indexOpen opens key closing
          | ok rest =>
            obtain ⟨right, rfl, closes⟩ := expectOp_eq_ok closing
            exact .index opens closes key ((bind_of_ok closing rfl).symm.trans h)
  | primary =>
    simp only [read] at h
    split at h
    case h_1 kind =>
      cases value : numberLiteral t.text with
      | error e =>
        rw [value] at h
        cases h
        exact .numberError kind value
      | ok v =>
        rw [value] at h
        cases h
        exact .number kind value
    case h_2 kind =>
      cases h
      exact .text kind
    case h_3 kind =>
      split at h
      case h_1 v keyword =>
        cases h
        exact .keyword kind (keyword?_eq_some.1 keyword)
      case h_2 none =>
        cases h
        refine .name kind fun v keyword => ?_
        rw [keyword?_eq_some.2 keyword] at none
        cases none
    case h_4 =>
      split at h
      case isFalse =>
        cases h
        exact .stray
      case isTrue parenthesis =>
        have opens := Token.isOp_iff.1 parenthesis
        cases inner : read fuel (.level 0) ts with
        | error e =>
          rw [inner] at h
          cases h
          exact .groupError opens inner
        | ok p =>
          obtain ⟨x, mid⟩ := p
          rw [inner] at h
          cases closing : expectOp ')' mid with
          | error e =>
            have failed := (bind_eq_error.2 (.inl closing)).symm.trans h
            cases failed
            exact .groupOpen opens inner closing
          | ok rest =>
            obtain ⟨right, rfl, closes⟩ := expectOp_eq_ok closing
            have done := (bind_of_ok closing rfl).symm.trans h
            cases done
            exact .group opens closes inner

end Storyworld.Condition
