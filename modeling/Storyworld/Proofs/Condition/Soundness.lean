import Storyworld.Proofs.Condition.Lexing
import Storyworld.Proofs.Condition.Reading

/-!
What the reader accepts is a phrase. The tokens it takes are those of a phrase of the goal's part,
and its answer is what that phrase stands for.
-/

namespace Storyworld.Condition

/-- The symbol that a goal of a depth reads. -/
def Symbol.ofDepth : Nat → Symbol
  | 0 => .level .disjunction
  | 1 => .level .conjunction
  | 2 => .level .equality
  | 3 => .level .comparison
  | 4 => .level .sum
  | 5 => .level .product
  | _ => .unary

theorem Symbol.ofDepth_level (l : Level) : ofDepth l.depth = .level l := by
  cases l <;> rfl

theorem Symbol.ofDepth_operand (l : Level) : ofDepth (l.depth + 1) = l.operand := by
  cases l <;> rfl

theorem Symbol.ofDepth_high {n : Nat} (h : 6 ≤ n) : ofDepth n = .unary := by
  unfold ofDepth
  split <;> first | rfl | simp at h

theorem Level.depth_injective {l m : Level} (h : l.depth = m.depth) : l = m := by
  have same := Symbol.ofDepth_level l
  rw [h, Symbol.ofDepth_level] at same
  exact (Symbol.level.inj same).symm

/-- The tokens a goal has taken are those of a phrase that stands for its answer. -/
def Goal.Spelt (used : List Token) (x : Expr) : Goal → Prop
  | level n => (Symbol.ofDepth n).Derives used x
  | following n left => ∀ l : Level, l.depth = n →
      ∃ p : Phrase (.links l), p.tokens = used ∧ p.tree left = x
  | operand => Symbol.unary.Derives used x
  | accesses target => ∃ p : Phrase .steps, p.tokens = used ∧ p.tree target = x
  | primary => Symbol.primary.Derives used x

def Numbered (ts : List Token) : Prop :=
  ∀ t ∈ ts, t.kind = .number → NumberText t.text

theorem Numbered.tail {t : Token} {ts : List Token} (h : Numbered (t :: ts)) : Numbered ts :=
  fun s mem => h s (List.mem_cons_of_mem _ mem)

theorem Numbered.right {used rest : List Token} (h : Numbered (used ++ rest)) : Numbered rest :=
  fun s mem => h s (List.mem_append_right _ mem)

theorem Symbol.Derives.chain {l : Level} {us vs : List Token} {left x : Expr}
    (first : l.operand.Derives us left)
    (more : ∃ p : Phrase (.links l), p.tokens = vs ∧ p.tree left = x) :
    (Symbol.level l).Derives (us ++ vs) x := by
  obtain ⟨p, rfl, rfl⟩ := first
  obtain ⟨q, rfl, rfl⟩ := more
  exact ⟨.chain p q, rfl, rfl⟩

theorem Symbol.Derives.access {us vs : List Token} {target x : Expr}
    (first : Symbol.primary.Derives us target)
    (more : ∃ p : Phrase .steps, p.tokens = vs ∧ p.tree target = x) :
    Symbol.unary.Derives (us ++ vs) x := by
  obtain ⟨p, rfl, rfl⟩ := first
  obtain ⟨q, rfl, rfl⟩ := more
  exact ⟨.unsigned (.access p q), rfl, rfl⟩

theorem read_sound {fuel : Nat} {goal : Goal} {ts rest : List Token} {x : Expr}
    (h : read fuel goal ts = .ok (x, rest)) (numbers : Numbered ts) :
    ∃ used, ts = used ++ rest ∧ goal.Spelt used x := by
  induction fuel generalizing goal ts rest x with
  | zero => cases h
  | succ fuel ih =>
    cases ts with
    | nil => cases h
    | cons t ts =>
      cases read_step h with
      | high le inner =>
        obtain ⟨used, same, unary⟩ := ih inner numbers
        refine ⟨used, same, ?_⟩
        simp only [Goal.Spelt, Symbol.ofDepth_high le]
        exact unary
      | level l first more =>
        obtain ⟨us, same, operand⟩ := ih first numbers
        rw [same] at numbers
        obtain ⟨vs, rfl, links⟩ := ih more numbers.right
        refine ⟨us ++ vs, by rw [same, List.append_assoc], ?_⟩
        simp only [Goal.Spelt, Symbol.ofDepth_operand, Symbol.ofDepth_level] at operand ⊢
        exact .chain operand (links l rfl)
      | noLink => exact ⟨[], rfl, fun l _ => ⟨.noLink, rfl, rfl⟩⟩
      | link j spelt right more =>
        obtain ⟨us, rfl, operand⟩ := ih right numbers.tail
        obtain ⟨vs, rfl, links⟩ := ih more numbers.tail.right
        refine ⟨t :: (us ++ vs), by simp, fun l depth => ?_⟩
        obtain rfl := Level.depth_injective depth
        simp only [Goal.Spelt, Symbol.ofDepth_operand] at operand
        obtain ⟨p, rfl, rfl⟩ := operand
        obtain ⟨q, rfl, rfl⟩ := links _ rfl
        exact ⟨.link t j rfl spelt p q, rfl, rfl⟩
      | signed op spelt operand =>
        obtain ⟨us, rfl, p, rfl, rfl⟩ := ih operand numbers.tail
        exact ⟨t :: p.tokens, rfl, .signed t op spelt p, rfl, rfl⟩
      | unsigned first more =>
        obtain ⟨us, same, primary⟩ := ih first numbers
        rw [same] at numbers
        obtain ⟨vs, rfl, steps⟩ := ih more numbers.right
        exact ⟨us ++ vs, by rw [same, List.append_assoc], .access primary steps⟩
      | noStep => exact ⟨[], rfl, .noStep, rfl, rfl⟩
      | @property _ _ word ts _ dotted named more =>
        obtain ⟨us, rfl, p, rfl, rfl⟩ := ih more numbers.tail.tail
        exact ⟨t :: word :: p.tokens, rfl, .property t word dotted named p, rfl, rfl⟩
      | @index _ _ _ right _ _ _ opens closes key more =>
        obtain ⟨us, rfl, p, rfl, rfl⟩ := ih key numbers.tail
        obtain ⟨vs, rfl, q, rfl, rfl⟩ := ih more numbers.tail.right.tail
        exact ⟨t :: (p.tokens ++ right :: q.tokens), by simp,
          .index t right opens closes p q, rfl, rfl⟩
      | @number _ _ v kind value =>
        have means := (t.numberLiteral_eq_ok kind (numbers t (by simp) kind)).1 value
        exact ⟨[t], rfl, .number t v kind means.1, rfl, rfl⟩
      | text kind => exact ⟨[t], rfl, .text t kind, rfl, rfl⟩
      | keyword kind means => exact ⟨[t], rfl, .keyword t _ kind means, rfl, rfl⟩
      | name kind free => exact ⟨[t], rfl, .name t kind free, rfl, rfl⟩
      | @group _ right _ _ _ opens closes inner =>
        obtain ⟨us, rfl, p, rfl, rfl⟩ := ih inner numbers.tail
        exact ⟨t :: (p.tokens ++ [right]), by simp, .group t right opens closes p, rfl, rfl⟩

end Storyworld.Condition
