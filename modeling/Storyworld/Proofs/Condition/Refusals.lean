import Storyworld.Proofs.Condition.Soundness

/-!
What the reader refuses. The bound is large enough for any tokens that end with the mark of the
end, and the reader never looks behind that mark; so all it can say is that a token stands in a
wrong place, or that a number has too many digits.
-/

namespace Storyworld.Condition

structure Input (ts : List Token) : Prop where
  numbers : Numbered ts
  ended : ∃ t, ts.getLast? = some t ∧ t.kind = .eof

theorem Input.ne_nil {ts : List Token} (h : Input ts) : ts ≠ [] := by
  rintro rfl
  obtain ⟨t, last, -⟩ := h.ended
  cases last

/-- Tokens before the end may be taken away. -/
theorem Input.right {used rest : List Token} (h : Input (used ++ rest))
    (inside : ∀ t ∈ used, t.kind ≠ .eof) : Input rest := by
  refine ⟨h.numbers.right, ?_⟩
  obtain ⟨t, last, ends⟩ := h.ended
  rw [List.getLast?_append] at last
  cases rest with
  | nil =>
    have mem : t ∈ used := List.mem_of_getLast? (by simpa using last)
    exact absurd ends (inside t mem)
  | cons s rest =>
    refine ⟨t, ?_, ends⟩
    rw [List.getLast?_cons] at last ⊢
    simpa using last

theorem Input.tail {t : Token} {ts : List Token} (h : Input (t :: ts)) (inside : t.kind ≠ .eof) :
    Input ts :=
  have whole : Input ([t] ++ ts) := h
  whole.right (by simpa using inside)

theorem Phrase.inside {part : Part} (p : Phrase part) : ∀ t ∈ p.tokens, t.kind ≠ .eof := by
  induction p with
  | noLink | noStep => simp [tokens]
  | chain first more ihFirst ihMore | access first more ihFirst ihMore =>
    intro t mem
    obtain mem | mem := List.mem_append.1 mem
    · exact ihFirst t mem
    · exact ihMore t mem
  | link t j stands spelt right more ihRight ihMore =>
    simp only [tokens, List.mem_cons, List.mem_append]
    rintro s (rfl | mem | mem)
    · simp [spelt.1]
    · exact ihRight s mem
    · exact ihMore s mem
  | signed t op spelt operand ih =>
    simp only [tokens, List.mem_cons]
    rintro s (rfl | mem)
    · simp [spelt.1]
    · exact ih s mem
  | unsigned operand ih => exact ih
  | property dot word dotted named more ih =>
    simp only [tokens, List.mem_cons]
    rintro s (rfl | rfl | mem)
    · simp [dotted.1]
    · simp [named]
    · exact ih s mem
  | index left right opens closes key more ihKey ihMore =>
    simp only [tokens, List.mem_cons, List.mem_append]
    rintro s (rfl | mem | rfl | mem)
    · simp [opens.1]
    · exact ihKey s mem
    · simp [closes.1]
    · exact ihMore s mem
  | number t _ kind | text t kind | keyword t _ kind | name t kind =>
    simp [tokens, kind]
  | group left right opens closes inner ih =>
    simp only [tokens, List.mem_cons, List.mem_append, List.not_mem_nil, or_false]
    rintro s (rfl | mem | rfl)
    · simp [opens.1]
    · exact ih s mem
    · simp [closes.1]

theorem Symbol.Derives.rest {s : Symbol} {used rest : List Token} {x : Expr}
    (h : s.Derives used x) (input : Input (used ++ rest)) :
    Input rest ∧ rest.length < (used ++ rest).length := by
  obtain ⟨p, rfl, -⟩ := h
  have some := List.length_pos_iff.2 (p.tokens_ne_nil rfl)
  refine ⟨input.right p.inside, ?_⟩
  rw [List.length_append]
  omega

/-- Why tokens are refused. -/
inductive Refusal (ts : List Token) : ParseFailure → Prop where
  | malformed (m : Malformed) (proper : m ≠ .empty) : Refusal ts (.malformed m)
  | fault (t : Token) (mem : t ∈ ts) (long : t.Overlong) : Refusal ts (.fault .tooManyDigits)

theorem Refusal.mono {ts us : List Token} {e : ParseFailure} (h : Refusal ts e)
    (sub : ∀ t ∈ ts, t ∈ us) : Refusal us e := by
  cases h with
  | malformed m proper => exact .malformed m proper
  | fault t mem long => exact .fault t (sub t mem) long

theorem Refusal.cons {t : Token} {ts : List Token} {e : ParseFailure} (h : Refusal ts e) :
    Refusal (t :: ts) e :=
  h.mono fun _ => List.mem_cons_of_mem t

theorem Refusal.append {used rest : List Token} {e : ParseFailure} (h : Refusal rest e) :
    Refusal (used ++ rest) e :=
  h.mono fun _ => List.mem_append_right used

theorem expectOp_eq_error {op : Char} {ts : List Token} {e : ParseFailure}
    (h : expectOp op ts = .error e) (ne : ts ≠ []) : Refusal ts e := by
  unfold expectOp at h
  split at h
  case h_1 =>
    split at h
    case isTrue => cases h
    case isFalse =>
      cases h
      exact .malformed _ (by simp)
  case h_2 => exact absurd rfl ne

/-- The depth that a goal needs on top of ten for each token. -/
def Goal.rank : Goal → Nat
  | level n => 3 + (6 - n)
  | following _ _ => 0
  | operand => 2
  | accesses _ => 0
  | primary => 1

theorem read_rest {fuel : Nat} {goal : Goal} {s : Symbol} {ts rest : List Token}
    {x : Expr} (h : read fuel goal ts = .ok (x, rest)) (input : Input ts)
    (derives : ∀ {used}, goal.Spelt used x → s.Derives used x) :
    ∃ used, ts = used ++ rest ∧ Input rest ∧ rest.length < ts.length := by
  obtain ⟨used, rfl, spelt⟩ := read_sound h input.numbers
  exact ⟨used, rfl, (derives spelt).rest input⟩

theorem read_refusal {fuel : Nat} {goal : Goal} {ts : List Token} {e : ParseFailure}
    (h : read fuel goal ts = .error e) (enough : 10 * ts.length + goal.rank ≤ fuel)
    (input : Input ts) : Refusal ts e := by
  -- a goal set behind a taken token may start anew at the loosest level, so a token counts ten
  induction fuel generalizing goal ts e with
  | zero =>
    have some := List.length_pos_iff.2 input.ne_nil
    omega
  | succ fuel ih =>
    cases ts with
    | nil => exact absurd rfl input.ne_nil
    | cons t ts =>
      cases read_step h with
      | high le inner =>
        exact ih inner (by simp only [Goal.rank, List.length_cons] at *; omega) input
      | level l first more =>
        obtain ⟨used, same, input', shorter⟩ := read_rest first input id
        have refused := ih more (by simp only [Goal.rank, List.length_cons] at *; omega) input'
        rw [same]
        exact refused.append
      | levelError l first =>
        have low := l.depth_lt_six
        exact ih first (by simp only [Goal.rank, List.length_cons] at *; omega) input
      | link j spelt right more =>
        obtain ⟨used, rfl, input', shorter⟩ := read_rest right (input.tail (by simp [spelt.1])) id
        have refused := ih more (by simp only [Goal.rank, List.length_cons] at *; omega) input'
        exact refused.append.cons
      | linkError j spelt right =>
        have behind := input.tail (by simp [spelt.1])
        have refused := ih right (by simp only [Goal.rank, List.length_cons] at *; omega) behind
        exact refused.cons
      | signedError op spelt operand =>
        have behind := input.tail (by simp [spelt.1])
        have refused := ih operand (by simp only [Goal.rank, List.length_cons] at *; omega) behind
        exact refused.cons
      | unsigned first more =>
        obtain ⟨used, same, input', shorter⟩ := read_rest first input id
        have refused := ih more (by simp only [Goal.rank, List.length_cons] at *; omega) input'
        rw [same]
        exact refused.append
      | unsignedError first =>
        exact ih first (by simp only [Goal.rank, List.length_cons] at *; omega) input
      | property dotted named more =>
        have behind := (input.tail (by simp [dotted.1])).tail (by simp [named])
        have refused := ih more (by simp only [Goal.rank, List.length_cons] at *; omega) behind
        exact refused.cons.cons
      | unnamed dotted => exact .malformed _ (by simp)
      | cut dotted => exact absurd rfl (input.tail (by simp [dotted.1])).ne_nil
      | index opens closes key more =>
        obtain ⟨used, rfl, input', shorter⟩ := read_rest key (input.tail (by simp [opens.1])) id
        have behind := input'.tail (by simp [closes.1])
        have refused := ih more (by simp only [Goal.rank, List.length_cons] at *; omega) behind
        exact refused.cons.append.cons
      | indexError opens key =>
        have behind := input.tail (by simp [opens.1])
        have refused := ih key (by simp only [Goal.rank, List.length_cons] at *; omega) behind
        exact refused.cons
      | indexOpen opens key unclosed =>
        obtain ⟨used, rfl, input', -⟩ := read_rest key (input.tail (by simp [opens.1])) id
        exact (expectOp_eq_error unclosed input'.ne_nil).append.cons
      | numberError kind value =>
        obtain ⟨rfl, long⟩ := t.numberLiteral_eq_error kind (input.numbers t (by simp) kind) value
        exact .fault t (by simp) long
      | groupError opens inner =>
        have behind := input.tail (by simp [opens.1])
        have refused := ih inner (by simp only [Goal.rank, List.length_cons] at *; omega) behind
        exact refused.cons
      | groupOpen opens inner unclosed =>
        obtain ⟨used, rfl, input', -⟩ := read_rest inner (input.tail (by simp [opens.1])) id
        exact (expectOp_eq_error unclosed input'.ne_nil).append.cons
      | stray => exact .malformed _ (by simp)

end Storyworld.Condition
