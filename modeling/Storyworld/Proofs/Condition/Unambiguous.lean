import Storyworld.Proofs.Condition.Grammar

/-!
The tokens of a phrase have no other reading. A phrase ends where the next token binds looser than
the phrase does, so two phrases of one part that start at the same place end at the same place.
-/

namespace Storyworld.Condition

def Level.depth : Level → Nat
  | disjunction => 0
  | conjunction => 1
  | equality => 2
  | comparison => 3
  | sum => 4
  | product => 5

def Symbol.depth : Symbol → Nat
  | level l => l.depth
  | unary | access => 6
  | primary => 7

def Part.depth : Part → Nat
  | whole s => s.depth
  | links l => l.depth
  | steps => 6

theorem Level.operand_depth (l : Level) : l.operand.depth = l.depth + 1 := by
  cases l <;> rfl

theorem Level.depth_lt_six (l : Level) : l.depth < 6 := by
  cases l <;> decide

/-- How tightly a token binds to the operand in front of it. -/
inductive Token.Binds (t : Token) : Nat → Prop where
  | joint (j : Joint) (spelt : t.Spells j.symbol) : Binds t j.level.depth
  | dot (spelt : t.Spells ".") : Binds t 6
  | bracket (spelt : t.Spells "[") : Binds t 6

theorem Joint.symbol_ne (j : Joint) : j.symbol ≠ "." ∧ j.symbol ≠ "[" ∧ j.symbol ≠ "!" ∧
    j.symbol ≠ "]" ∧ j.symbol ≠ ")" := by
  have differs : ∀ j ∈ joints, j.symbol ≠ "." ∧ j.symbol ≠ "[" ∧ j.symbol ≠ "!" ∧
      j.symbol ≠ "]" ∧ j.symbol ≠ ")" := by decide
  exact differs j (mem_joints j)

theorem Token.Binds.unique {t : Token} {m n : Nat} (h : t.Binds m) (h' : t.Binds n) : m = n := by
  cases h with
  | joint j spelt =>
    cases h' with
    | joint k spelt' => rw [Joint.symbol_injective (spelt.eq spelt')]
    | dot spelt' => exact absurd (spelt.eq spelt') j.symbol_ne.1
    | bracket spelt' => exact absurd (spelt.eq spelt') j.symbol_ne.2.1
  | dot spelt =>
    cases h' with
    | joint k spelt' => exact absurd (spelt'.eq spelt) k.symbol_ne.1
    | dot | bracket => rfl
  | bracket spelt =>
    cases h' with
    | joint k spelt' => exact absurd (spelt'.eq spelt) k.symbol_ne.2.1
    | dot | bracket => rfl

theorem Token.Binds.le_six {t : Token} {m : Nat} (h : t.Binds m) : m ≤ 6 := by
  cases h with
  | joint j => exact Nat.le_of_lt j.level.depth_lt_six
  | dot | bracket => exact Nat.le_refl 6

theorem UnaryOp.symbol_injective {op op' : UnaryOp} (h : op.symbol = op'.symbol) : op = op' := by
  cases op <;> cases op' <;> first | rfl | simp [UnaryOp.symbol] at h

/-- A text that goes on with a token that binds looser than a given depth, or not at all. -/
def Follows (n : Nat) : List Token → Prop
  | [] => False
  | t :: _ => ∀ m, t.Binds m → m < n

theorem Follows.mono {m n : Nat} {ts : List Token} (h : Follows m ts) (le : m ≤ n) :
    Follows n ts := by
  cases ts with
  | nil => exact h
  | cons t ts => exact fun k binds => Nat.lt_of_lt_of_le (h k binds) le

theorem Follows.not_binds {n m : Nat} {t : Token} {ts : List Token} (h : Follows n (t :: ts))
    (binds : t.Binds m) (le : n ≤ m) : False :=
  Nat.not_lt_of_le le (h m binds)

theorem Follows.of_binds {t : Token} {m n : Nat} (binds : t.Binds m) (lt : m < n)
    (ts : List Token) : Follows n (t :: ts) := by
  intro k binds'
  rw [binds'.unique binds]
  exact lt

theorem Follows.of_kind {t : Token} (h : t.kind ≠ .op) (n : Nat) (ts : List Token) :
    Follows n (t :: ts) := by
  intro m binds
  cases binds with
  | joint _ spelt | dot spelt | bracket spelt => exact absurd spelt.1 h

theorem follows_end (n : Nat) : Follows n [⟨.eof, [], 0⟩] :=
  .of_kind (by decide) n []

theorem Follows.of_closing {t : Token} (h : t.Spells "]" ∨ t.Spells ")") (n : Nat)
    (ts : List Token) : Follows n (t :: ts) := by
  intro m binds
  cases binds with
  | joint j spelt =>
    obtain close | close := h
    · exact absurd (spelt.eq close) j.symbol_ne.2.2.2.1
    · exact absurd (spelt.eq close) j.symbol_ne.2.2.2.2
  | dot spelt | bracket spelt =>
    obtain close | close := h <;> exact absurd (spelt.eq close) (by decide)

theorem Follows.seven {n : Nat} {ts : List Token} (h : Follows n ts) : Follows 7 ts := by
  cases ts with
  | nil => exact h
  | cons t ts => exact fun m binds => Nat.lt_succ_of_le binds.le_six

namespace Phrase

/-- Behind an operand of a level comes a link of the level, or what follows the whole chain. -/
theorem follows_links {l : Level} (more : Phrase (.links l)) {rest : List Token}
    (h : Follows l.depth rest) : Follows l.operand.depth (more.tokens ++ rest) := by
  rw [l.operand_depth]
  cases more with
  | noLink => exact h.mono (Nat.le_succ _)
  | link t j stands spelt =>
    subst stands
    exact .of_binds (.joint j spelt) (Nat.lt_succ_self _) _

theorem follows_steps (more : Phrase .steps) {rest : List Token} (h : Follows 6 rest) :
    Follows 7 (more.tokens ++ rest) := by
  cases more with
  | noStep => exact h.seven
  | property dot _ dotted => exact .of_binds (.dot dotted) (by decide) _
  | index left _ opens => exact .of_binds (.bracket opens) (by decide) _

/-- A primary expression begins with an opening parenthesis or with no operator at all. -/
theorem primary_begins (p : Phrase (.whole .primary)) :
    ∃ t ts, p.tokens = t :: ts ∧ (t.kind = .op → t.Spells "(") := by
  cases p with
  | number t _ kind | text t kind | keyword t _ kind | name t kind =>
    exact ⟨t, [], rfl, fun h => by simp [kind] at h⟩
  | group left _ opens => exact ⟨left, _, rfl, fun _ => opens⟩

theorem access_begins (p : Phrase (.whole .access)) :
    ∃ t ts, p.tokens = t :: ts ∧ ∀ op : UnaryOp, ¬ t.Spells op.symbol := by
  cases p with
  | access first more =>
    obtain ⟨t, ts, begins, opens⟩ := first.primary_begins
    refine ⟨t, ts ++ more.tokens, by simp [tokens, begins], fun op spelt => ?_⟩
    have same := spelt.eq (opens spelt.1)
    cases op <;> simp [UnaryOp.symbol] at same

theorem tokens_ne_nil {part : Part} (p : Phrase part) {s : Symbol} (h : part = .whole s) :
    p.tokens ≠ [] := by
  induction p generalizing s with
  | noLink | link | noStep | property | index => cases h
  | chain first more ihFirst | access first more ihFirst =>
    have := ihFirst rfl
    simp [tokens, this]
  | unsigned operand ih => exact ih rfl
  | signed | number | text | keyword | name | group => simp [tokens]

/-- A phrase of one token that is no operator is read from that token alone. -/
theorem leaf_split {p q : Phrase (.whole .primary)} {t : Token} {a b : List Token}
    (single : p.tokens = [t]) (kind : t.kind ≠ .op) (same : p.tokens ++ a = q.tokens ++ b) :
    p = q ∧ a = b := by
  rw [single, List.singleton_append] at same
  cases q with
  | number t' v' kind' reads' =>
    simp only [tokens, List.singleton_append, List.cons.injEq] at same
    obtain ⟨rfl, rfl⟩ := same
    cases p with
    | number s v _ reads =>
      simp only [tokens, List.cons.injEq, and_true] at single
      subst single
      obtain rfl := reads.unique reads'
      exact ⟨rfl, rfl⟩
    | text s other | keyword s _ other | name s other =>
      simp only [tokens, List.cons.injEq, and_true] at single
      simp [single, kind'] at other
    | group => simp [tokens] at single
  | text t' kind' =>
    simp only [tokens, List.singleton_append, List.cons.injEq] at same
    obtain ⟨rfl, rfl⟩ := same
    cases p with
    | text s =>
      simp only [tokens, List.cons.injEq, and_true] at single
      subst single
      exact ⟨rfl, rfl⟩
    | number s _ other | keyword s _ other | name s other =>
      simp only [tokens, List.cons.injEq, and_true] at single
      simp [single, kind'] at other
    | group => simp [tokens] at single
  | keyword t' v' kind' means' =>
    simp only [tokens, List.singleton_append, List.cons.injEq] at same
    obtain ⟨rfl, rfl⟩ := same
    cases p with
    | keyword s v _ means =>
      simp only [tokens, List.cons.injEq, and_true] at single
      subst single
      obtain rfl := means.unique means'
      exact ⟨rfl, rfl⟩
    | name s _ free =>
      simp only [tokens, List.cons.injEq, and_true] at single
      subst single
      exact absurd means' (free v')
    | number s _ other | text s other =>
      simp only [tokens, List.cons.injEq, and_true] at single
      simp [single, kind'] at other
    | group => simp [tokens] at single
  | name t' kind' free' =>
    simp only [tokens, List.singleton_append, List.cons.injEq] at same
    obtain ⟨rfl, rfl⟩ := same
    cases p with
    | name s =>
      simp only [tokens, List.cons.injEq, and_true] at single
      subst single
      exact ⟨rfl, rfl⟩
    | keyword s v _ means =>
      simp only [tokens, List.cons.injEq, and_true] at single
      subst single
      exact absurd means (free' v)
    | number s _ other | text s other =>
      simp only [tokens, List.cons.injEq, and_true] at single
      simp [single, kind'] at other
    | group => simp [tokens] at single
  | group left' _ opens' =>
    simp only [tokens, List.cons_append, List.cons.injEq] at same
    rw [same.1] at kind
    exact absurd opens'.1 kind

/-- Two phrases of one part with the same tokens, each with something behind it that cannot belong
to it, are the same phrase. -/
theorem split {part : Part} (p q : Phrase part) (a b : List Token) (ha : Follows part.depth a)
    (hb : Follows part.depth b) (same : p.tokens ++ a = q.tokens ++ b) : p = q ∧ a = b := by
  -- what follows a part of a phrase is the next part, and that cannot belong to the first
  induction p generalizing a b with
  | chain first more ihFirst ihMore =>
    cases q with
    | chain first' more' =>
      simp only [tokens, List.append_assoc] at same
      obtain ⟨rfl, rest⟩ :=
        ihFirst first' _ _ (more.follows_links ha) (more'.follows_links hb) same
      obtain ⟨rfl, rfl⟩ := ihMore more' a b ha hb rest
      exact ⟨rfl, rfl⟩
  | noLink =>
    cases q with
    | noLink => exact ⟨rfl, same⟩
    | link t j stands spelt =>
      subst stands
      simp only [tokens, List.nil_append, List.cons_append] at same
      subst same
      exact (ha.not_binds (.joint j spelt) (Nat.le_refl _)).elim
  | link t j stands spelt right more ihRight ihMore =>
    cases q with
    | noLink =>
      subst stands
      simp only [tokens, List.nil_append, List.cons_append] at same
      subst same
      exact (hb.not_binds (.joint j spelt) (Nat.le_refl _)).elim
    | link t' j' stands' spelt' right' more' =>
      simp only [tokens, List.cons_append, List.append_assoc, List.cons.injEq] at same
      obtain ⟨rfl, same⟩ := same
      obtain rfl := Joint.symbol_injective (spelt.eq spelt')
      obtain ⟨rfl, rest⟩ :=
        ihRight right' _ _ (more.follows_links ha) (more'.follows_links hb) same
      obtain ⟨rfl, rfl⟩ := ihMore more' a b ha hb rest
      exact ⟨rfl, rfl⟩
  | signed t op spelt operand ih =>
    cases q with
    | signed t' op' spelt' operand' =>
      simp only [tokens, List.cons_append, List.cons.injEq] at same
      obtain ⟨rfl, same⟩ := same
      obtain rfl := UnaryOp.symbol_injective (spelt.eq spelt')
      obtain ⟨rfl, rfl⟩ := ih operand' a b ha hb same
      exact ⟨rfl, rfl⟩
    | unsigned operand' =>
      obtain ⟨t', ts, begins, unsigned⟩ := operand'.access_begins
      simp only [tokens, begins, List.cons_append, List.cons.injEq] at same
      obtain ⟨rfl, -⟩ := same
      exact absurd spelt (unsigned op)
  | unsigned operand ih =>
    cases q with
    | signed t' op' spelt' operand' =>
      obtain ⟨t, ts, begins, unsigned⟩ := operand.access_begins
      simp only [tokens, begins, List.cons_append, List.cons.injEq] at same
      obtain ⟨rfl, -⟩ := same
      exact absurd spelt' (unsigned op')
    | unsigned operand' =>
      obtain ⟨rfl, rfl⟩ := ih operand' a b ha hb same
      exact ⟨rfl, rfl⟩
  | access first more ihFirst ihMore =>
    cases q with
    | access first' more' =>
      simp only [tokens, List.append_assoc] at same
      obtain ⟨rfl, rest⟩ :=
        ihFirst first' _ _ (more.follows_steps ha) (more'.follows_steps hb) same
      obtain ⟨rfl, rfl⟩ := ihMore more' a b ha hb rest
      exact ⟨rfl, rfl⟩
  | noStep =>
    cases q with
    | noStep => exact ⟨rfl, same⟩
    | property dot' word' dotted' =>
      simp only [tokens, List.nil_append, List.cons_append] at same
      subst same
      exact (ha.not_binds (.dot dotted') (Nat.le_refl _)).elim
    | index left' right' opens' =>
      simp only [tokens, List.nil_append, List.cons_append] at same
      subst same
      exact (ha.not_binds (.bracket opens') (Nat.le_refl _)).elim
  | property dot word dotted named more ih =>
    cases q with
    | noStep =>
      simp only [tokens, List.nil_append, List.cons_append] at same
      subst same
      exact (hb.not_binds (.dot dotted) (Nat.le_refl _)).elim
    | property dot' word' dotted' named' more' =>
      simp only [tokens, List.cons_append, List.cons.injEq] at same
      obtain ⟨rfl, rfl, same⟩ := same
      obtain ⟨rfl, rfl⟩ := ih more' a b ha hb same
      exact ⟨rfl, rfl⟩
    | index left' right' opens' =>
      simp only [tokens, List.cons_append, List.cons.injEq] at same
      obtain ⟨rfl, -⟩ := same
      exact absurd (dotted.eq opens') (by decide)
  | index left right opens closes key more ihKey ihMore =>
    cases q with
    | noStep =>
      simp only [tokens, List.nil_append, List.cons_append] at same
      subst same
      exact (hb.not_binds (.bracket opens) (Nat.le_refl _)).elim
    | property dot' word' dotted' =>
      simp only [tokens, List.cons_append, List.cons.injEq] at same
      obtain ⟨rfl, -⟩ := same
      exact absurd (opens.eq dotted') (by decide)
    | index left' right' opens' closes' key' more' =>
      simp only [tokens, List.cons_append, List.append_assoc, List.cons.injEq] at same
      obtain ⟨rfl, same⟩ := same
      obtain ⟨rfl, rest⟩ :=
        ihKey key' _ _ (.of_closing (.inl closes) _ _) (.of_closing (.inl closes') _ _) same
      simp only [List.cons.injEq] at rest
      obtain ⟨rfl, rest⟩ := rest
      obtain ⟨rfl, rfl⟩ := ihMore more' a b ha hb rest
      exact ⟨rfl, rfl⟩
  | number t _ kind | text t kind | keyword t _ kind | name t kind =>
    exact leaf_split rfl (by simp [kind]) same
  | group left right opens closes inner ih =>
    cases q with
    | number t' _ kind' | text t' kind' | keyword t' _ kind' | name t' kind' =>
      have turned := leaf_split rfl (by simp [kind']) same.symm
      exact ⟨turned.1.symm, turned.2.symm⟩
    | group left' right' opens' closes' inner' =>
      simp only [tokens, List.cons_append, List.append_assoc, List.nil_append,
        List.cons.injEq] at same
      obtain ⟨rfl, same⟩ := same
      obtain ⟨rfl, rest⟩ :=
        ih inner' _ _ (.of_closing (.inr closes) _ _) (.of_closing (.inr closes') _ _) same
      simp only [List.cons.injEq] at rest
      obtain ⟨rfl, rfl⟩ := rest
      exact ⟨rfl, rfl⟩

/-- The grammar is unambiguous: no two phrases of one part have the same tokens. -/
theorem tokens_injective {part : Part} {p q : Phrase part} (h : p.tokens = q.tokens) : p = q := by
  have last := follows_end part.depth
  exact (split p q _ _ last last (by rw [h])).1

end Phrase

end Storyworld.Condition
