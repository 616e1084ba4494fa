import Storyworld.Proofs.Condition.Soundness

/-!
Every phrase is read. A phrase in front of a token that cannot belong to it is taken as a whole,
and the answer is what it stands for.
-/

namespace Storyworld.Condition

/-- A goal has a result at some bound, and so at every greater one. -/
structure Reads (goal : Goal) (ts : List Token) (r : Except ParseFailure (Expr × List Token)) :
    Prop where
  settled : r ≠ .error .empty
  reached : ∃ fuel, read fuel goal ts = r

/-- Two readings have a bound in common. -/
theorem Reads.both {g g' : Goal} {ts ts' : List Token}
    {r r' : Except ParseFailure (Expr × List Token)} (h : Reads g ts r) (h' : Reads g' ts' r') :
    ∃ fuel, read fuel g ts = r ∧ read fuel g' ts' = r' := by
  obtain ⟨m, first⟩ := h.reached
  obtain ⟨n, second⟩ := h'.reached
  refine ⟨max m n, ?_, ?_⟩
  · rw [read_mono (Nat.le_max_left m n) (by rw [first]; exact h.settled), first]
  · rw [read_mono (Nat.le_max_right m n) (by rw [second]; exact h'.settled), second]

theorem Reads.unique {g : Goal} {ts : List Token}
    {r r' : Except ParseFailure (Expr × List Token)} (h : Reads g ts r) (h' : Reads g ts r') :
    r = r' := by
  obtain ⟨fuel, first, second⟩ := h.both h'
  exact first.symm.trans second

namespace Reads

variable {ts mid rest : List Token} {t : Token} {x y : Expr} {e : ParseFailure}
  {r : Except ParseFailure (Expr × List Token)}

theorem exists_cons {goal : Goal} (h : Reads goal ts r) : ∃ t rest, ts = t :: rest := by
  obtain ⟨fuel, reached⟩ := h.reached
  cases ts with
  | nil =>
    have settled := h.settled
    rw [← reached] at settled
    cases fuel <;> exact absurd rfl settled
  | cons t rest => exact ⟨t, rest, rfl⟩

theorem high {n : Nat} (le : 6 ≤ n) (h : Reads .operand ts r) : Reads (.level n) ts r := by
  obtain ⟨fuel, first⟩ := h.reached
  obtain ⟨t, ts, rfl⟩ := h.exists_cons
  exact ⟨h.settled, fuel + 1, by simp only [read, if_pos le, first]⟩

theorem level {n : Nat} (lt : n < 6) (h : Reads (.level (n + 1)) ts (.ok (x, mid)))
    (h' : Reads (.following n x) mid r) : Reads (.level n) ts r := by
  obtain ⟨fuel, first, later⟩ := h.both h'
  obtain ⟨t, ts, rfl⟩ := h.exists_cons
  refine ⟨h'.settled, fuel + 1, ?_⟩
  simp only [read, if_neg (Nat.not_le_of_lt lt), first]
  exact later

theorem level_error {n : Nat} (lt : n < 6) (h : Reads (.level (n + 1)) ts (.error e)) :
    Reads (.level n) ts (.error e) := by
  obtain ⟨fuel, first⟩ := h.reached
  obtain ⟨t, ts, rfl⟩ := h.exists_cons
  refine ⟨h.settled, fuel + 1, ?_⟩
  simp only [read, if_neg (Nat.not_le_of_lt lt), first]
  rfl

theorem noLink {n : Nat} {left : Expr}
    (h : ∀ j : Joint, ¬ (j.level.depth = n ∧ t.Spells j.symbol)) :
    Reads (.following n left) (t :: ts) (.ok (left, t :: ts)) := by
  have none : jointAt? n t = none := by
    rw [Option.eq_none_iff_forall_ne_some]
    intro j joint
    exact h j (jointAt?_eq_some.1 joint)
  exact ⟨by simp, 1, by simp only [read, none]⟩

theorem link {j : Joint} {left : Expr} (spelt : t.Spells j.symbol)
    (h : Reads (.level (j.level.depth + 1)) ts (.ok (x, mid)))
    (h' : Reads (.following j.level.depth (j.join left x)) mid r) :
    Reads (.following j.level.depth left) (t :: ts) r := by
  obtain ⟨fuel, first, later⟩ := h.both h'
  refine ⟨h'.settled, fuel + 1, ?_⟩
  simp only [read, jointAt?_eq_some.2 ⟨rfl, spelt⟩, first]
  exact later

theorem link_error {j : Joint} {left : Expr} (spelt : t.Spells j.symbol)
    (h : Reads (.level (j.level.depth + 1)) ts (.error e)) :
    Reads (.following j.level.depth left) (t :: ts) (.error e) := by
  obtain ⟨fuel, first⟩ := h.reached
  refine ⟨h.settled, fuel + 1, ?_⟩
  simp only [read, jointAt?_eq_some.2 ⟨rfl, spelt⟩, first]
  rfl

theorem signed {op : UnaryOp} (spelt : t.Spells op.symbol)
    (h : Reads .operand ts (.ok (x, rest))) :
    Reads .operand (t :: ts) (.ok (.unary op x, rest)) := by
  obtain ⟨fuel, first⟩ := h.reached
  refine ⟨by simp, fuel + 1, ?_⟩
  simp only [read, unaryAt?_eq_some.2 spelt, first]
  rfl

theorem signed_error {op : UnaryOp} (spelt : t.Spells op.symbol)
    (h : Reads .operand ts (.error e)) : Reads .operand (t :: ts) (.error e) := by
  obtain ⟨fuel, first⟩ := h.reached
  refine ⟨h.settled, fuel + 1, ?_⟩
  simp only [read, unaryAt?_eq_some.2 spelt, first]
  rfl

theorem unaryAt?_eq_none (plain : ∀ op : UnaryOp, ¬ t.Spells op.symbol) : unaryAt? t = none := by
  rw [Option.eq_none_iff_forall_ne_some]
  intro op unary
  exact plain op (unaryAt?_eq_some.1 unary)

theorem unsigned (plain : ∀ op : UnaryOp, ¬ t.Spells op.symbol)
    (h : Reads .primary (t :: ts) (.ok (x, mid))) (h' : Reads (.accesses x) mid r) :
    Reads .operand (t :: ts) r := by
  obtain ⟨fuel, first, later⟩ := h.both h'
  refine ⟨h'.settled, fuel + 1, ?_⟩
  simp only [read, unaryAt?_eq_none plain, first]
  exact later

theorem unsigned_error (plain : ∀ op : UnaryOp, ¬ t.Spells op.symbol)
    (h : Reads .primary (t :: ts) (.error e)) : Reads .operand (t :: ts) (.error e) := by
  obtain ⟨fuel, first⟩ := h.reached
  refine ⟨h.settled, fuel + 1, ?_⟩
  simp only [read, unaryAt?_eq_none plain, first]
  rfl

theorem noStep {target : Expr} (dot : ¬ t.Spells ".") (bracket : ¬ t.Spells "[") :
    Reads (.accesses target) (t :: ts) (.ok (target, t :: ts)) := by
  have noDot : ¬ t.isOp '.' = true := fun op => dot (Token.isOp_iff.1 op)
  have noBracket : ¬ t.isOp '[' = true := fun op => bracket (Token.isOp_iff.1 op)
  exact ⟨by simp, 1, by simp only [read, if_neg noDot, if_neg noBracket]⟩

theorem property {target : Expr} {word : Token} (dotted : t.Spells ".")
    (named : word.kind = .ident)
    (h : Reads (.accesses (.member target (.literal (.text (String.ofList word.text))))) ts r) :
    Reads (.accesses target) (t :: word :: ts) r := by
  obtain ⟨fuel, first⟩ := h.reached
  have dot : t.isOp '.' = true := Token.isOp_iff.2 dotted
  exact ⟨h.settled, fuel + 1, by simp only [read, if_pos dot, if_pos named, first]⟩

theorem isOp_bracket (opens : t.Spells "[") : ¬ t.isOp '.' = true ∧ t.isOp '[' = true :=
  ⟨fun op => absurd (opens.eq (Token.isOp_iff.1 op)) (by decide), Token.isOp_iff.2 opens⟩

theorem index {target : Expr} {right : Token} (opens : t.Spells "[") (closes : right.Spells "]")
    (h : Reads (.level 0) ts (.ok (x, right :: mid)))
    (h' : Reads (.accesses (.member target x)) mid r) :
    Reads (.accesses target) (t :: ts) r := by
  obtain ⟨fuel, first, later⟩ := h.both h'
  obtain ⟨noDot, bracket⟩ := isOp_bracket opens
  have closing : expectOp ']' (right :: mid) = .ok mid := by
    rw [expectOp, if_pos (Token.isOp_iff.2 closes)]
  refine ⟨h'.settled, fuel + 1, ?_⟩
  simp only [read, if_neg noDot, if_pos bracket]
  exact bind_of_ok first (bind_of_ok closing later)

theorem index_error {target : Expr} (opens : t.Spells "[")
    (h : Reads (.level 0) ts (.error e)) : Reads (.accesses target) (t :: ts) (.error e) := by
  obtain ⟨fuel, first⟩ := h.reached
  obtain ⟨noDot, bracket⟩ := isOp_bracket opens
  refine ⟨h.settled, fuel + 1, ?_⟩
  simp only [read, if_neg noDot, if_pos bracket, first]
  rfl

theorem number {v : Value} (kind : t.kind = .number) (value : numberLiteral t.text = .ok v) :
    Reads .primary (t :: ts) (.ok (.literal v, ts)) := by
  refine ⟨by simp, 1, ?_⟩
  simp only [read, kind, value]
  rfl

theorem number_error (kind : t.kind = .number) (value : numberLiteral t.text = .error e)
    (settled : e ≠ .empty) : Reads .primary (t :: ts) (.error e) := by
  refine ⟨by simpa using settled, 1, ?_⟩
  simp only [read, kind, value]
  rfl

theorem text (kind : t.kind = .string) :
    Reads .primary (t :: ts) (.ok (.literal (.text (unquote t.text)), ts)) :=
  ⟨by simp, 1, by simp only [read, kind]⟩

theorem keyword {v : Value} (kind : t.kind = .ident) (means : Keyword (String.ofList t.text) v) :
    Reads .primary (t :: ts) (.ok (.literal v, ts)) :=
  ⟨by simp, 1, by simp only [read, kind, keyword?_eq_some.2 means]⟩

theorem name (kind : t.kind = .ident) (free : ∀ v, ¬ Keyword (String.ofList t.text) v) :
    Reads .primary (t :: ts) (.ok (.name (String.ofList t.text), ts)) := by
  have none : keyword? (String.ofList t.text) = none := by
    rw [Option.eq_none_iff_forall_ne_some]
    intro v keyword
    exact free v (keyword?_eq_some.1 keyword)
  exact ⟨by simp, 1, by simp only [read, kind, none]⟩

theorem group {right : Token} (opens : t.Spells "(") (closes : right.Spells ")")
    (h : Reads (.level 0) ts (.ok (x, right :: rest))) :
    Reads .primary (t :: ts) (.ok (x, rest)) := by
  obtain ⟨fuel, first⟩ := h.reached
  have parenthesis : t.isOp '(' = true := Token.isOp_iff.2 opens
  have closing : expectOp ')' (right :: rest) = .ok rest := by
    rw [expectOp, if_pos (Token.isOp_iff.2 closes)]
  refine ⟨by simp, fuel + 1, ?_⟩
  simp only [read, opens.1, if_pos parenthesis]
  exact bind_of_ok first (bind_of_ok closing rfl)

theorem group_error (opens : t.Spells "(") (h : Reads (.level 0) ts (.error e)) :
    Reads .primary (t :: ts) (.error e) := by
  obtain ⟨fuel, first⟩ := h.reached
  have parenthesis : t.isOp '(' = true := Token.isOp_iff.2 opens
  refine ⟨h.settled, fuel + 1, ?_⟩
  simp only [read, opens.1, if_pos parenthesis, first]
  rfl

end Reads

/-- A number token from which the parser takes the value that the grammar gives it. -/
def Token.Legible (t : Token) : Prop :=
  t.kind = .number → ∀ v, Numeral t.text v → numberLiteral t.text = .ok v

/-- A phrase is read up to its end wherever the text goes on with something that cannot belong to
it. -/
def Phrase.Read : {part : Part} → Phrase part → Prop
  | .whole (.level l), p => ∀ rest, Follows l.depth rest →
      Reads (.level l.depth) (p.tokens ++ rest) (.ok (p.tree, rest))
  | .whole .unary, p => ∀ rest, Follows 6 rest →
      Reads .operand (p.tokens ++ rest) (.ok (p.tree, rest))
  | .whole .access, p => ∀ rest, Follows 6 rest →
      Reads .operand (p.tokens ++ rest) (.ok (p.tree, rest))
  | .whole .primary, p => ∀ rest, Reads .primary (p.tokens ++ rest) (.ok (p.tree, rest))
  | .links l, p => ∀ left rest, Follows l.depth rest →
      Reads (.following l.depth left) (p.tokens ++ rest) (.ok (p.tree left, rest))
  | .steps, p => ∀ target rest, Follows 6 rest →
      Reads (.accesses target) (p.tokens ++ rest) (.ok (p.tree target, rest))

theorem Phrase.Read.operand {l : Level} {p : Phrase (.whole l.operand)} (h : p.Read)
    {rest : List Token} (follows : Follows l.operand.depth rest) :
    Reads (.level (l.depth + 1)) (p.tokens ++ rest) (.ok (p.tree, rest)) := by
  cases l with
  | disjunction | conjunction | equality | comparison | sum => exact h rest follows
  | product => exact .high (by decide) (h rest follows)

theorem Follows.exists_cons {n : Nat} {ts : List Token} (h : Follows n ts) :
    ∃ t rest, ts = t :: rest := by
  cases ts with
  | nil => exact h.elim
  | cons t rest => exact ⟨t, rest, rfl⟩

theorem Phrase.reads {part : Part} (p : Phrase part) (legible : ∀ t ∈ p.tokens, t.Legible) :
    p.Read := by
  induction p with
  | @chain l first more ihFirst ihMore =>
    intro rest follows
    simp only [tokens, List.mem_append] at legible
    have front := ihFirst fun t mem => legible t (.inl mem)
    have back := ihMore fun t mem => legible t (.inr mem)
    simp only [tokens, tree, List.append_assoc]
    exact .level l.depth_lt_six (front.operand (more.follows_links follows))
      (back first.tree rest follows)
  | @noLink l =>
    intro left rest follows
    obtain ⟨t, rest, rfl⟩ := follows.exists_cons
    refine .noLink fun j binds => ?_
    have loose := follows j.level.depth (.joint j binds.2)
    omega
  | link t j stands spelt right more ihRight ihMore =>
    subst stands
    intro left rest follows
    simp only [tokens, List.mem_cons, List.mem_append] at legible
    have front := ihRight fun t mem => legible t (.inr (.inl mem))
    have back := ihMore fun t mem => legible t (.inr (.inr mem))
    simp only [tokens, tree, List.append_assoc, List.cons_append]
    exact .link spelt (front.operand (more.follows_links follows)) (back _ rest follows)
  | signed t op spelt operand ih =>
    intro rest follows
    exact .signed spelt (ih (fun s mem => legible s (List.mem_cons_of_mem t mem)) rest follows)
  | unsigned operand ih => exact ih legible
  | access first more ihFirst ihMore =>
    intro rest follows
    simp only [tokens, List.mem_append] at legible
    have front := ihFirst fun t mem => legible t (.inl mem)
    have back := ihMore fun t mem => legible t (.inr mem)
    obtain ⟨t, ts, begins, plain⟩ := (Phrase.access first more).access_begins
    have whole : first.tokens ++ (more.tokens ++ rest) = t :: (ts ++ rest) := by
      rw [tokens] at begins
      rw [← List.append_assoc, begins, List.cons_append]
    have primary := front (more.tokens ++ rest)
    rw [whole] at primary
    simp only [tokens, tree, List.append_assoc, whole]
    exact .unsigned plain primary (back first.tree rest follows)
  | noStep =>
    intro target rest follows
    obtain ⟨t, rest, rfl⟩ := follows.exists_cons
    exact .noStep (fun dot => follows.not_binds (.dot dot) (Nat.le_refl _))
      (fun bracket => follows.not_binds (.bracket bracket) (Nat.le_refl _))
  | property dot word dotted named more ih =>
    intro target rest follows
    simp only [tokens, List.mem_cons] at legible
    exact .property dotted named
      (ih (fun t mem => legible t (.inr (.inr mem))) _ rest follows)
  | index left right opens closes key more ihKey ihMore =>
    intro target rest follows
    simp only [tokens, List.mem_cons, List.mem_append] at legible
    have inner := ihKey (fun t mem => legible t (.inr (.inl mem))) (right :: (more.tokens ++ rest))
      (.of_closing (.inl closes) _ _)
    have back := ihMore fun t mem => legible t (.inr (.inr (.inr mem)))
    simp only [tokens, tree, List.append_assoc, List.cons_append]
    exact .index opens closes inner (back _ rest follows)
  | number t v kind reads =>
    intro rest
    exact .number kind (legible t (by simp [tokens]) kind v reads)
  | text t kind =>
    intro rest
    exact .text kind
  | keyword t v kind means =>
    intro rest
    exact .keyword kind means
  | name t kind free =>
    intro rest
    exact .name kind free
  | group left right opens closes inner ih =>
    intro rest
    simp only [tokens, List.mem_cons, List.mem_append] at legible
    have inside := ih (fun t mem => legible t (.inr (.inl mem))) (right :: rest)
      (.of_closing (.inr closes) _ _)
    simp only [tokens, tree, List.append_assoc, List.cons_append, List.nil_append]
    exact .group opens closes inside

end Storyworld.Condition
