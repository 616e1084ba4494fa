import Storyworld.Proofs.Condition.Parsing
import Storyworld.Proofs.Condition.Seams

/-!
Conditions put together from parts. A text that begins with a phrase is made up of texts that
begin with its parts, and a text that parses can stand between parentheses wherever an operand can.
-/

namespace Storyworld.Condition

theorem Token.bare_eq {t u : Token} : t.bare = u.bare ↔ t.kind = u.kind ∧ t.text = u.text := by
  simp [bare]

theorem Token.Spells.moved {t u : Token} {s : String} (h : t.Spells s) (same : u.bare = t.bare) :
    u.Spells s := by
  obtain ⟨kind, text⟩ := bare_eq.1 same
  exact ⟨kind.trans h.1, text.trans h.2⟩

theorem Token.Overlong.moved {t u : Token} (h : t.Overlong) (same : u.bare = t.bare) :
    u.Overlong := by
  obtain ⟨kind, text⟩ := bare_eq.1 same
  exact ⟨kind.trans h.kind, text ▸ h.plain, text ▸ h.long⟩

/-- The tokens of a phrase may stand elsewhere. -/
theorem Phrase.moved {part : Part} (p : Phrase part) {us : List Token}
    (same : us.map Token.bare = p.tokens.map Token.bare) :
    ∃ q : Phrase part, q.tokens = us ∧ q.tree = p.tree := by
  induction p generalizing us with
  | chain first more ihFirst ihMore =>
    simp only [tokens, List.map_append] at same
    obtain ⟨front, back, rfl, left, right⟩ := List.map_eq_append_iff.1 same
    obtain ⟨p, rfl, means⟩ := ihFirst left
    obtain ⟨q, rfl, means'⟩ := ihMore right
    exact ⟨.chain p q, rfl, by rw [tree, tree, means, means']⟩
  | noLink =>
    obtain rfl := List.map_eq_nil_iff.1 same
    exact ⟨.noLink, rfl, rfl⟩
  | link t j stands spelt right more ihRight ihMore =>
    simp only [tokens, List.map_cons, List.map_append] at same
    obtain ⟨u, us, rfl, here, later⟩ := List.map_eq_cons_iff.1 same
    obtain ⟨front, back, rfl, left, right⟩ := List.map_eq_append_iff.1 later
    obtain ⟨p, rfl, means⟩ := ihRight left
    obtain ⟨q, rfl, means'⟩ := ihMore right
    exact ⟨.link u j stands (spelt.moved here) p q, rfl, by simp only [tree, means, means']⟩
  | signed t op spelt operand ih =>
    obtain ⟨u, us, rfl, here, later⟩ := List.map_eq_cons_iff.1 same
    obtain ⟨p, rfl, means⟩ := ih later
    exact ⟨.signed u op (spelt.moved here) p, rfl, by rw [tree, tree, means]⟩
  | unsigned operand ih =>
    obtain ⟨p, rfl, means⟩ := ih same
    exact ⟨.unsigned p, rfl, means⟩
  | access first more ihFirst ihMore =>
    simp only [tokens, List.map_append] at same
    obtain ⟨front, back, rfl, left, right⟩ := List.map_eq_append_iff.1 same
    obtain ⟨p, rfl, means⟩ := ihFirst left
    obtain ⟨q, rfl, means'⟩ := ihMore right
    exact ⟨.access p q, rfl, by rw [tree, tree, means, means']⟩
  | noStep =>
    obtain rfl := List.map_eq_nil_iff.1 same
    exact ⟨.noStep, rfl, rfl⟩
  | property dot word dotted named more ih =>
    obtain ⟨u, us, rfl, here, later⟩ := List.map_eq_cons_iff.1 same
    obtain ⟨v, us, rfl, next, later⟩ := List.map_eq_cons_iff.1 later
    obtain ⟨kind, text⟩ := Token.bare_eq.1 next
    obtain ⟨p, rfl, means⟩ := ih later
    exact ⟨.property u v (dotted.moved here) (kind.trans named) p, rfl, by
      simp only [tree, means, text]⟩
  | index left right opens closes key more ihKey ihMore =>
    simp only [tokens, List.map_cons, List.map_append] at same
    obtain ⟨u, us, rfl, here, later⟩ := List.map_eq_cons_iff.1 same
    obtain ⟨front, back, rfl, inside, behind⟩ := List.map_eq_append_iff.1 later
    obtain ⟨v, back, rfl, next, behind⟩ := List.map_eq_cons_iff.1 behind
    obtain ⟨p, rfl, means⟩ := ihKey inside
    obtain ⟨q, rfl, means'⟩ := ihMore behind
    exact ⟨.index u v (opens.moved here) (closes.moved next) p q, rfl, by
      simp only [tree, means, means']⟩
  | number t v kind reads =>
    obtain ⟨u, us, rfl, here, later⟩ := List.map_eq_cons_iff.1 same
    obtain rfl := List.map_eq_nil_iff.1 later
    obtain ⟨kind', text⟩ := Token.bare_eq.1 here
    exact ⟨.number u v (kind'.trans kind) (text ▸ reads), rfl, rfl⟩
  | text t kind =>
    obtain ⟨u, us, rfl, here, later⟩ := List.map_eq_cons_iff.1 same
    obtain rfl := List.map_eq_nil_iff.1 later
    obtain ⟨kind', text⟩ := Token.bare_eq.1 here
    exact ⟨.text u (kind'.trans kind), rfl, by rw [tree, tree, text]⟩
  | keyword t v kind means =>
    obtain ⟨u, us, rfl, here, later⟩ := List.map_eq_cons_iff.1 same
    obtain rfl := List.map_eq_nil_iff.1 later
    obtain ⟨kind', text⟩ := Token.bare_eq.1 here
    exact ⟨.keyword u v (kind'.trans kind) (text ▸ means), rfl, rfl⟩
  | name t kind free =>
    obtain ⟨u, us, rfl, here, later⟩ := List.map_eq_cons_iff.1 same
    obtain rfl := List.map_eq_nil_iff.1 later
    obtain ⟨kind', text⟩ := Token.bare_eq.1 here
    exact ⟨.name u (kind'.trans kind) (text ▸ free), rfl, by rw [tree, tree, text]⟩
  | group left right opens closes inner ih =>
    simp only [tokens, List.map_cons, List.map_append] at same
    obtain ⟨u, us, rfl, here, later⟩ := List.map_eq_cons_iff.1 same
    obtain ⟨front, back, rfl, inside, behind⟩ := List.map_eq_append_iff.1 later
    obtain ⟨v, back, rfl, next, behind⟩ := List.map_eq_cons_iff.1 behind
    obtain rfl := List.map_eq_nil_iff.1 behind
    obtain ⟨p, rfl, means⟩ := ih inside
    exact ⟨.group u v (opens.moved here) (closes.moved next) p, rfl, means⟩

/-- A text begins with a phrase of a part and goes on with a rest. -/
def Part.Written (part : Part) (cs : List Char) (m : part.Meaning) (rest : List Char) : Prop :=
  ∃ p : Phrase part, Cuts cs p.tokens rest ∧ p.tree = m ∧ ∀ t ∈ p.tokens, ¬ t.Overlong

abbrev Symbol.Written (s : Symbol) (cs : List Char) (x : Expr) (rest : List Char) : Prop :=
  (Part.whole s).Written cs x rest

section

variable {cs mid inner behind rest t : List Char} {x y key : Expr} {l : Level}

theorem Part.Written.skip {part : Part} {m : part.Meaning} (blanks : Cuts cs [] mid)
    (h : part.Written mid m rest) : part.Written cs m rest := by
  obtain ⟨p, cuts, means, short⟩ := h
  exact ⟨p, blanks.append cuts, means, short⟩

theorem Part.Written.before {part : Part} {m : part.Meaning} {more : List Char}
    (h : part.Written cs m rest) (seam : Seam more) :
    part.Written (cs ++ more) m (rest ++ more) := by
  obtain ⟨p, cuts, means, short⟩ := h
  exact ⟨p, cuts.before seam, means, short⟩

/-- An operator in front of what goes on. -/
def Token.op (s : String) : Token :=
  ⟨.op, s.toList, 0⟩

theorem Token.op_spells (s : String) : (Token.op s).Spells s :=
  ⟨rfl, rfl⟩

theorem Token.not_overlong {t : Token} (h : t.kind ≠ .number) : ¬ t.Overlong :=
  fun overlong => h overlong.kind

namespace Symbol.Written

theorem tighter (h : l.operand.Written cs x rest) : (level l).Written cs x rest := by
  obtain ⟨p, cuts, rfl, short⟩ := h
  refine ⟨.chain p .noLink, ?_, rfl, ?_⟩ <;> simpa only [Phrase.tokens, List.append_nil]

/-- What stands below all levels is an operand of each of them. -/
theorem operand (h : unary.Written cs x rest) (l : Level) : l.operand.Written cs x rest := by
  have product : (level .product).Written cs x rest := tighter h
  have sum : (level .sum).Written cs x rest := tighter product
  have comparison : (level .comparison).Written cs x rest := tighter sum
  have equality : (level .equality).Written cs x rest := tighter comparison
  cases l with
  | disjunction => exact tighter equality
  | conjunction => exact equality
  | equality => exact comparison
  | comparison => exact sum
  | sum => exact product
  | product => exact h

theorem expression (h : unary.Written cs x rest) : Part.expression.Written cs x rest :=
  tighter (h.operand .disjunction)

theorem loosest (h : (level l).Written cs x rest) : Part.expression.Written cs x rest := by
  have conjunction (h : (level .conjunction).Written cs x rest) :
      Part.expression.Written cs x rest := tighter h
  have equality (h : (level .equality).Written cs x rest) := conjunction (tighter h)
  have comparison (h : (level .comparison).Written cs x rest) := equality (tighter h)
  have sum (h : (level .sum).Written cs x rest) := comparison (tighter h)
  cases l with
  | disjunction => exact h
  | conjunction => exact conjunction h
  | equality => exact equality h
  | comparison => exact comparison h
  | sum => exact sum h
  | product => exact sum (tighter h)

theorem joined (j : Joint) (left : j.level.operand.Written cs x mid)
    (op : Cuts mid [Token.op j.symbol] behind) (right : j.level.operand.Written behind y rest) :
    (level j.level).Written cs (j.join x y) rest := by
  obtain ⟨p, first, rfl, short⟩ := left
  obtain ⟨q, second, rfl, short'⟩ := right
  have proper : ¬ (Token.op j.symbol).Overlong := Token.not_overlong (by simp [Token.op])
  refine ⟨.chain p (.link _ j rfl (Token.op_spells _) q .noLink), ?_, rfl, ?_⟩
  · simpa [Phrase.tokens] using first.append (op.append second)
  · simp only [Phrase.tokens, List.mem_append, List.mem_cons, List.append_nil]
    rintro t (mem | rfl | mem)
    · exact short t mem
    · exact proper
    · exact short' t mem

theorem signed (op : UnaryOp) (sign : Cuts cs [Token.op op.symbol] mid)
    (h : unary.Written mid x rest) : unary.Written cs (.unary op x) rest := by
  obtain ⟨p, cuts, rfl, short⟩ := h
  exact ⟨.signed _ op (Token.op_spells _) p, sign.append cuts, rfl,
    List.forall_mem_cons.2 ⟨Token.not_overlong (by simp [Token.op]), short⟩⟩

theorem access {f : Expr → Expr} (first : primary.Written cs x mid)
    (more : Part.steps.Written mid f rest) : unary.Written cs (f x) rest := by
  obtain ⟨p, cuts, rfl, short⟩ := first
  obtain ⟨q, cuts', rfl, short'⟩ := more
  exact ⟨.unsigned (.access p q), cuts.append cuts', rfl, List.forall_mem_append.2 ⟨short, short'⟩⟩

theorem group (opens : Cuts cs [Token.op "("] mid) (h : Part.expression.Written mid x inner)
    (closes : Cuts inner [Token.op ")"] rest) : primary.Written cs x rest := by
  obtain ⟨p, cuts, rfl, short⟩ := h
  refine ⟨.group _ _ (Token.op_spells _) (Token.op_spells _) p,
    opens.append (cuts.append closes), rfl, ?_⟩
  simp only [Phrase.tokens, List.mem_cons, List.mem_append, List.not_mem_nil, or_false]
  rintro t (rfl | mem | rfl)
  · exact Token.not_overlong (by simp [Token.op])
  · exact short t mem
  · exact Token.not_overlong (by simp [Token.op])

theorem text (cuts : Cuts cs [⟨.string, t, 0⟩] rest) :
    primary.Written cs (.literal (.text (unquote t))) rest :=
  ⟨.text ⟨.string, t, 0⟩ rfl, cuts, rfl,
    List.forall_mem_singleton.2 (Token.not_overlong (by simp))⟩

theorem number {v : Value} (cuts : Cuts cs [⟨.number, t, 0⟩] rest) (means : Numeral t v)
    (short : t.length ≤ Decimal.digitLimit) : primary.Written cs (.literal v) rest :=
  ⟨.number ⟨.number, t, 0⟩ v rfl means, cuts, rfl,
    List.forall_mem_singleton.2 fun overlong => Nat.not_le_of_lt overlong.long short⟩

theorem keyword {v : Value} (cuts : Cuts cs [⟨.ident, t, 0⟩] rest)
    (means : Keyword (String.ofList t) v) : primary.Written cs (.literal v) rest :=
  ⟨.keyword ⟨.ident, t, 0⟩ v rfl means, cuts, rfl,
    List.forall_mem_singleton.2 (Token.not_overlong (by simp))⟩

theorem name (cuts : Cuts cs [⟨.ident, t, 0⟩] rest)
    (free : ∀ v, ¬ Keyword (String.ofList t) v) :
    primary.Written cs (.name (String.ofList t)) rest :=
  ⟨.name ⟨.ident, t, 0⟩ rfl free, cuts, rfl,
    List.forall_mem_singleton.2 (Token.not_overlong (by simp))⟩

end Symbol.Written

theorem steps_done (cs : List Char) : Part.steps.Written cs id cs :=
  ⟨.noStep, .done, rfl, by simp [Phrase.tokens]⟩

theorem steps_index {f : Expr → Expr} (opens : Cuts cs [Token.op "["] mid)
    (inside : Part.expression.Written mid key inner) (closes : Cuts inner [Token.op "]"] behind)
    (more : Part.steps.Written behind f rest) :
    Part.steps.Written cs (fun target => f (.member target key)) rest := by
  obtain ⟨p, cuts, rfl, short⟩ := inside
  obtain ⟨q, cuts', rfl, short'⟩ := more
  refine ⟨.index _ _ (Token.op_spells _) (Token.op_spells _) p q,
    opens.append (cuts.append (closes.append cuts')), rfl, ?_⟩
  simp only [Phrase.tokens, List.mem_cons, List.mem_append]
  rintro t (rfl | mem | rfl | mem)
  · exact Token.not_overlong (by simp [Token.op])
  · exact short t mem
  · exact Token.not_overlong (by simp [Token.op])
  · exact short' t mem

theorem steps_property {f : Expr → Expr} (dot : Cuts cs [Token.op "."] mid)
    (word : Cuts mid [⟨.ident, t, 0⟩] behind) (more : Part.steps.Written behind f rest) :
    Part.steps.Written cs
      (fun target => f (.member target (.literal (.text (String.ofList t))))) rest := by
  obtain ⟨q, cuts, rfl, short⟩ := more
  refine ⟨.property _ ⟨.ident, t, 0⟩ (Token.op_spells _) rfl q, dot.append (word.append cuts),
    rfl, ?_⟩
  simp only [Phrase.tokens, List.mem_cons]
  rintro t (rfl | rfl | mem)
  · exact Token.not_overlong (by simp [Token.op])
  · exact Token.not_overlong (by simp)
  · exact short t mem

end

theorem ofTokens_short {p : Phrase .expression} {last : Token} {x : Expr}
    (lexed : ∀ t ∈ p.tokens, t.Lexed) (h : ofTokens (p.tokens ++ [last]) = .ok x) :
    ∀ t ∈ p.tokens, ¬ t.Overlong := by
  obtain ⟨r, reading, -⟩ := bind_eq_ok.1 h
  exact short_of_reads p (fun t mem => (lexed t mem).number) ⟨by simp, _, reading⟩
    (Part.Faults.level (n := 0))

/-- A text parses exactly if all of it is a phrase. -/
theorem parse_iff_written {s : String} {x : Expr} :
    parse s = .ok x ↔ Part.expression.Written s.toList x [] := by
  constructor
  · intro h
    by_cases blank : ∀ c ∈ s.toList, Text.isBlank c = true
    · rw [parse_of_blank blank] at h
      cases h
    rw [parse_of_not_blank blank] at h
    obtain ⟨ts, cut, read⟩ := bind_eq_ok.1 h
    rw [mapError_eq_ok] at cut
    obtain ⟨body, last, rfl, ends, lexed⟩ := tokensFrom_eq_ok cut
    obtain ⟨body', last', same, cuts⟩ := Cuts.of_tokensFrom cut
    obtain ⟨rfl, -⟩ := List.append_inj' same rfl
    obtain ⟨p, rfl, rfl⟩ := ofTokens_derives lexed ends read
    have bare : (p.tokens.map Token.bare).map Token.bare = p.tokens.map Token.bare := by
      simp [Token.bare]
    obtain ⟨q, tokens, means⟩ := p.moved bare
    refine ⟨q, tokens ▸ cuts, means, ?_⟩
    rw [tokens, List.forall_mem_map]
    exact fun t mem overlong => ofTokens_short lexed read t mem (overlong.moved rfl)
  · rintro ⟨p, cuts, rfl, short⟩
    obtain ⟨body, last, cut, ends, same⟩ := cuts.tokensFrom 0
    obtain ⟨body', last', same', -, lexed⟩ := tokensFrom_eq_ok cut
    obtain ⟨rfl, -⟩ := List.append_inj' same' rfl
    have bare : body.map Token.bare = p.tokens.map Token.bare := by
      rw [← same, List.map_map]
      rfl
    obtain ⟨q, rfl, means⟩ := p.moved bare
    have blank : ¬ ∀ c ∈ s.toList, Text.isBlank c = true :=
      fun blank => not_covers_of_blank blank q ⟨last, ends, cut⟩
    have legible : ∀ t ∈ q.tokens, ¬ t.Overlong := by
      intro t mem overlong
      have bare : t.bare ∈ p.tokens := same ▸ List.mem_map_of_mem mem
      exact short _ bare (overlong.moved rfl)
    rw [parse_of_not_blank blank]
    exact bind_of_ok (mapError_eq_ok.2 cut)
      (ofTokens_of_derives lexed ends legible ⟨q, rfl, means⟩)

theorem cuts_blank {c : Char} (plain : Text.isBlank c = false) (rest : List Char) :
    Cuts (' ' :: c :: rest) [] (c :: rest) := by
  have blank : Text.isBlank ' ' = true := by decide
  have stops : ∀ d ∈ (c :: rest).head?, Text.isBlank d = false := by simpa using plain
  have found := lexes_blank (List.cons_ne_nil ' ' []) (List.forall_mem_singleton.2 blank) stops
  exact .blank (lexeme?_eq_some.2 found) .done

theorem Joint.cuts (j : Joint) (rest : List Char) :
    Cuts (' ' :: (j.symbol.toList ++ ' ' :: rest)) [Token.op j.symbol] (' ' :: rest) := by
  cases j with
  | logical op => cases op <;> exact .blank rfl (.token rfl .done)
  | binary op => cases op <;> exact .blank rfl (.token rfl .done)

/-- Two operands with an operator and blanks between them. -/
theorem Symbol.Written.spaced (j : Joint) {cs mid rest : List Char} {c : Char} {x y : Expr}
    (left : unary.Written cs x (' ' :: (j.symbol.toList ++ ' ' :: c :: mid)))
    (plain : Text.isBlank c = false) (right : unary.Written (c :: mid) y rest) :
    Part.expression.Written cs (j.join x y) rest :=
  loosest (.joined j (left.operand _) (j.cuts _) (.skip (cuts_blank plain mid) (right.operand _)))

theorem stops_closing : Stops ')' :=
  ⟨by decide, by decide, by decide, by decide⟩

/-- What parses by itself is an operand between parentheses. -/
theorem written_between {s : String} {x : Expr} (parsed : parse s = .ok x) (rest : List Char) :
    Symbol.unary.Written ('(' :: (s.toList ++ ')' :: rest)) x rest := by
  have inner := (parse_iff_written.1 parsed).before (.cons stops_closing rest)
  exact .access (.group (.token rfl .done) inner (.token rfl .done)) (steps_done rest)

end Storyworld.Condition
