import Storyworld.Proofs.Condition.Completeness

/-!
When the parser meets a whole number with too many digits. It does so exactly if the tokens up to
the number can be the beginning of a phrase; whatever stands behind the number does not matter.
-/

namespace Storyworld.Condition

theorem Follows.replace {n : Nat} {front a b : List Token} {t : Token}
    (h : Follows n (front ++ t :: a)) : Follows n (front ++ t :: b) := by
  cases front <;> exact h

theorem legible_of_short {ts : List Token} (numbers : Numbered ts)
    (short : ∀ t ∈ ts, ¬ t.Overlong) : ∀ t ∈ ts, t.Legible := by
  intro t mem kind v means
  exact (t.numberLiteral_eq_ok kind (numbers t mem kind)).2 ⟨means, short t mem⟩

/-- A phrase of a part is begun, and a whole number is met that cannot be read. -/
def Part.Faults (ts : List Token) : Part → Prop
  | .whole (.level l) => Reads (.level l.depth) ts (.error (.fault .tooManyDigits))
  | .whole .unary => Reads .operand ts (.error (.fault .tooManyDigits))
  | .whole .access => Reads .operand ts (.error (.fault .tooManyDigits))
  | .whole .primary => Reads .primary ts (.error (.fault .tooManyDigits))
  | .links l => ∀ left, Reads (.following l.depth left) ts (.error (.fault .tooManyDigits))
  | .steps => ∀ target, Reads (.accesses target) ts (.error (.fault .tooManyDigits))

theorem Part.Faults.operand {l : Level} {ts : List Token} (h : (whole l.operand).Faults ts) :
    Reads (.level (l.depth + 1)) ts (.error (.fault .tooManyDigits)) := by
  cases l with
  | disjunction | conjunction | equality | comparison | sum => exact h
  | product => exact .high (by decide) h

namespace Phrase

theorem follows_links_cut {l : Level} {more : Phrase (.links l)} {front rest : List Token}
    {t : Token} (same : more.tokens = front ++ t :: rest) (back : List Token) :
    Follows l.operand.depth (front ++ t :: back) := by
  have follows := more.follows_links (follows_end _)
  rw [same, List.append_assoc, List.cons_append] at follows
  exact follows.replace

end Phrase

/-- Tokens with the first of the numbers that cannot be read, split there. -/
structure Cut (front : List Token) (t : Token) : Prop where
  numbers : Numbered (front ++ [t])
  short : ∀ s ∈ front, ¬ s.Overlong
  long : t.Overlong

namespace Cut

variable {us vs front more : List Token} {s t : Token}

theorem right (h : Cut (us ++ front) t) : Cut front t := by
  have numbers := h.numbers
  rw [List.append_assoc] at numbers
  exact ⟨numbers.right, fun s mem => h.short s (List.mem_append_right us mem), h.long⟩

theorem legible (h : Cut (us ++ front) t) : ∀ s ∈ us, s.Legible := by
  refine legible_of_short (fun s mem => h.numbers s ?_) fun s mem => h.short s ?_
  · simp [mem]
  · simp [mem]

/-- The number stands among the first tokens, or these are legible and it stands behind them. -/
theorem split (h : Cut front t) (same : us ++ vs = front ++ t :: more) :
    (∃ more', us = front ++ t :: more') ∨
      ∃ front', front = us ++ front' ∧ vs = front' ++ t :: more ∧ (∀ s ∈ us, s.Legible) ∧
        Cut front' t := by
  obtain ⟨front', rfl, rest⟩ | ⟨more', rfl, rest⟩ := List.append_eq_append_iff.1 same
  · exact .inr ⟨front', rfl, rest, h.legible, h.right⟩
  · cases more' with
    | nil =>
      rw [← List.append_nil front] at h
      exact .inr ⟨[], by simp, by simpa using rest.symm, by simpa using h.legible, h.right⟩
    | cons s more' =>
      rw [List.cons_append, List.cons.injEq] at rest
      exact .inl ⟨more', by rw [rest.1]⟩

theorem step (h : Cut front t) (kind : s.kind ≠ .number) (same : s :: us = front ++ t :: more) :
    ∃ front', front = s :: front' ∧ us = front' ++ t :: more ∧ Cut front' t := by
  cases front with
  | nil =>
    simp only [List.nil_append, List.cons.injEq] at same
    rw [same.1] at kind
    exact absurd h.long.kind kind
  | cons s' front =>
    simp only [List.cons_append, List.cons.injEq] at same
    obtain ⟨rfl, same⟩ := same
    have behind : Cut ([s] ++ front) t := h
    exact ⟨front, rfl, same, behind.right⟩

theorem fault (h : Cut [] t) : numberLiteral t.text = .error (.fault .tooManyDigits) :=
  h.long.literal (h.numbers t (by simp) h.long.kind)

end Cut

theorem Phrase.faults {part : Part} (p : Phrase part) {front more : List Token} {t : Token}
    (cut : Cut front t) (same : p.tokens = front ++ t :: more) (back : List Token) :
    part.Faults (front ++ t :: back) := by
  induction p generalizing front more with
  | @chain l first rest ihFirst ihRest =>
    obtain ⟨more', inside⟩ | ⟨front, rfl, behind, legible, cut⟩ := cut.split same
    · exact .level_error l.depth_lt_six (ihFirst cut inside).operand
    · have left := (first.reads legible).operand (follows_links_cut behind back)
      rw [List.append_assoc]
      exact .level l.depth_lt_six left (ihRest cut behind first.tree)
  | noLink | noStep => simp [tokens] at same
  | link op j stands spelt right rest ihRight ihRest =>
    subst stands
    intro left
    obtain ⟨front, rfl, same, cut⟩ := cut.step (by simp [spelt.1]) same
    obtain ⟨more', inside⟩ | ⟨front, rfl, behind, legible, cut⟩ := cut.split same
    · exact .link_error spelt (ihRight cut inside).operand
    · have operand := (right.reads legible).operand (follows_links_cut behind back)
      rw [List.cons_append, List.append_assoc]
      exact .link spelt operand (ihRest cut behind _)
  | signed op sign spelt operand ih =>
    obtain ⟨front, rfl, same, cut⟩ := cut.step (by simp [spelt.1]) same
    exact .signed_error spelt (ih cut same)
  | unsigned operand ih => exact ih cut same
  | access first rest ihFirst ihRest =>
    obtain ⟨s, ts, begins, plain⟩ := (Phrase.access first rest).access_begins
    have head : ∃ ts', front ++ t :: back = s :: ts' := by
      rw [begins] at same
      cases front <;> simp only [List.nil_append, List.cons_append, List.cons.injEq] at same <;>
        exact ⟨_, by rw [same.1]; rfl⟩
    obtain ⟨ts', head⟩ := head
    obtain ⟨more', inside⟩ | ⟨front, rfl, behind, legible, cut⟩ := cut.split same
    · have primary := ihFirst cut inside
      rw [head] at primary ⊢
      exact .unsigned_error plain primary
    · have primary := first.reads legible (front ++ t :: back)
      rw [← List.append_assoc, head] at primary
      rw [head]
      exact .unsigned plain primary (ihRest cut behind first.tree)
  | property dot word dotted named rest ih =>
    intro target
    obtain ⟨front, rfl, same, cut⟩ := cut.step (by simp [dotted.1]) same
    obtain ⟨front, rfl, same, cut⟩ := cut.step (by simp [named]) same
    exact .property dotted named (ih cut same _)
  | index left right opens closes key rest ihKey ihRest =>
    intro target
    obtain ⟨front, rfl, same, cut⟩ := cut.step (by simp [opens.1]) same
    obtain ⟨more', inside⟩ | ⟨front, rfl, behind, legible, cut⟩ := cut.split same
    · exact .index_error opens (ihKey cut inside)
    · obtain ⟨front, rfl, behind, cut⟩ := cut.step (by simp [closes.1]) behind
      have inner := key.reads legible (right :: (front ++ t :: back))
        (.of_closing (.inl closes) _ _)
      simp only [List.cons_append, List.append_assoc]
      exact .index opens closes inner (ihRest cut behind _)
  | number s v kind =>
    cases front with
    | nil =>
      simp only [tokens, List.nil_append, List.cons.injEq] at same
      exact .number_error cut.long.kind cut.fault (by simp)
    | cons s' front => simp [tokens] at same
  | text s kind | keyword s _ kind | name s kind =>
    obtain ⟨front, rfl, same, cut⟩ := cut.step (by simp [kind]) same
    simp at same
  | group left right opens closes inner ih =>
    obtain ⟨front, rfl, same, cut⟩ := cut.step (by simp [opens.1]) same
    obtain ⟨more', inside⟩ | ⟨front, rfl, behind, -, cut⟩ := cut.split same
    · exact .group_error opens (ih cut inside)
    · obtain ⟨front, rfl, behind, cut⟩ := cut.step (by simp [closes.1]) behind
      simp at behind

theorem Cut.append {us front : List Token} {t : Token} (h : Cut front t) (numbers : Numbered us)
    (short : ∀ s ∈ us, ¬ s.Overlong) : Cut (us ++ front) t := by
  refine ⟨?_, ?_, h.long⟩
  · intro s mem
    rw [List.append_assoc] at mem
    obtain mem | mem := List.mem_append.1 mem
    · exact numbers s mem
    · exact h.numbers s mem
  · intro s mem
    obtain mem | mem := List.mem_append.1 mem
    · exact short s mem
    · exact h.short s mem

theorem Cut.cons {s t : Token} {front : List Token} (h : Cut front t) (kind : s.kind ≠ .number) :
    Cut (s :: front) t := by
  have numbers : Numbered [s] := by simp [Numbered, kind]
  refine h.append numbers fun r mem overlong => ?_
  rw [List.mem_singleton.1 mem] at overlong
  exact kind overlong.kind

/-- Tokens that begin like a phrase of a part, up to a number that cannot be read. -/
def Part.Meets (part : Part) (ts : List Token) : Prop :=
  ∃ (p : Phrase part) (front : List Token) (t : Token) (back more : List Token),
    ts = front ++ t :: back ∧ Cut front t ∧ p.tokens = front ++ t :: more

theorem Part.Meets.faults {part : Part} {ts : List Token} (h : part.Meets ts) :
    part.Faults ts := by
  obtain ⟨p, front, t, back, more, rfl, cut, same⟩ := h
  exact p.faults cut same back

/-- Tokens with a number among them that cannot be read, split at the first. -/
theorem exists_cut {ts : List Token} (numbers : Numbered ts) (h : ∃ t ∈ ts, t.Overlong) :
    ∃ front t back, ts = front ++ t :: back ∧ Cut front t := by
  induction ts with
  | nil =>
    obtain ⟨t, mem, -⟩ := h
    cases mem
  | cons s ts ih =>
    by_cases overlong : s.Overlong
    · exact ⟨[], s, ts, rfl, fun r mem => numbers r (by simp_all), nofun, overlong⟩
    · obtain ⟨t, mem, long⟩ := h
      obtain rfl | mem := List.mem_cons.1 mem
      · exact absurd long overlong
      · obtain ⟨front, t, back, rfl, cut⟩ := ih numbers.tail ⟨t, mem, long⟩
        have number : Numbered [s] := fun r mem => numbers r (by simp_all)
        refine ⟨s :: front, t, back, rfl, cut.append number fun r mem => ?_⟩
        rwa [List.mem_singleton.1 mem]

/-- What was read has no number in it that cannot be read. -/
theorem short_of_reads {part : Part} {goal : Goal} (p : Phrase part) {rest : List Token}
    {r : Expr × List Token} (numbers : Numbered p.tokens)
    (reads : Reads goal (p.tokens ++ rest) (.ok r))
    (faults : part.Faults (p.tokens ++ rest) →
      Reads goal (p.tokens ++ rest) (.error (.fault .tooManyDigits))) :
    ∀ t ∈ p.tokens, ¬ t.Overlong := by
  intro t mem overlong
  obtain ⟨front, s, back, same, cut⟩ := exists_cut numbers ⟨t, mem, overlong⟩
  have failed := p.faults cut same (back ++ rest)
  rw [← List.cons_append, ← List.append_assoc, ← same] at failed
  exact absurd (reads.unique (faults failed)) (by simp)

theorem Part.Faults.level {n : Nat} {ts : List Token} (h : (whole (.ofDepth n)).Faults ts) :
    Reads (.level n) ts (.error (.fault .tooManyDigits)) := by
  by_cases low : n < 6
  · obtain ⟨l, rfl⟩ := Level.exists_depth low
    rw [Symbol.ofDepth_level] at h
    exact h
  · have high := Nat.le_of_not_lt low
    rw [Symbol.ofDepth_high high] at h
    exact .high high h

/-- The phrase behind a reading of an operand, with no number in it that cannot be read. -/
theorem read_level_short {fuel n : Nat} {ts rest : List Token} {x : Expr}
    (h : read fuel (.level n) ts = .ok (x, rest)) (numbers : Numbered ts) :
    ∃ p : Phrase (.whole (.ofDepth n)), ts = p.tokens ++ rest ∧ Numbered p.tokens ∧
      ∀ t ∈ p.tokens, ¬ t.Overlong := by
  obtain ⟨used, rfl, p, rfl, -⟩ := read_sound h numbers
  have left : Numbered p.tokens := fun t mem => numbers t (List.mem_append_left rest mem)
  exact ⟨p, rfl, left, short_of_reads p left ⟨by simp, fuel, h⟩ Part.Faults.level⟩

theorem read_primary_short {fuel : Nat} {ts rest : List Token} {x : Expr}
    (h : read fuel .primary ts = .ok (x, rest)) (numbers : Numbered ts) :
    ∃ p : Phrase (.whole .primary), ts = p.tokens ++ rest ∧ Numbered p.tokens ∧
      ∀ t ∈ p.tokens, ¬ t.Overlong := by
  obtain ⟨used, rfl, p, rfl, -⟩ := read_sound h numbers
  have left : Numbered p.tokens := fun t mem => numbers t (List.mem_append_left rest mem)
  exact ⟨p, rfl, left, short_of_reads p left ⟨by simp, fuel, h⟩ id⟩

namespace Part.Meets

variable {ts : List Token} {t : Token}

theorem first {l : Level} (h : (whole l.operand).Meets ts) : (whole (.level l)).Meets ts := by
  obtain ⟨p, front, s, back, more, rfl, cut, same⟩ := h
  exact ⟨.chain p .noLink, front, s, back, more, rfl, cut, by simp [Phrase.tokens, same]⟩

theorem chain {l : Level} (p : Phrase (.whole l.operand)) (numbers : Numbered p.tokens)
    (short : ∀ t ∈ p.tokens, ¬ t.Overlong) (h : (links l).Meets ts) :
    (whole (.level l)).Meets (p.tokens ++ ts) := by
  obtain ⟨q, front, s, back, more, rfl, cut, same⟩ := h
  exact ⟨.chain p q, p.tokens ++ front, s, back, more, by simp, cut.append numbers short,
    by simp [Phrase.tokens, same]⟩

theorem right {j : Joint} (spelt : t.Spells j.symbol) (h : (whole j.level.operand).Meets ts) :
    (links j.level).Meets (t :: ts) := by
  obtain ⟨p, front, s, back, more, rfl, cut, same⟩ := h
  exact ⟨.link t j rfl spelt p .noLink, t :: front, s, back, more, rfl,
    cut.cons (by simp [spelt.1]), by simp [Phrase.tokens, same]⟩

theorem link {j : Joint} (spelt : t.Spells j.symbol) (p : Phrase (.whole j.level.operand))
    (numbers : Numbered p.tokens) (short : ∀ t ∈ p.tokens, ¬ t.Overlong)
    (h : (links j.level).Meets ts) : (links j.level).Meets (t :: (p.tokens ++ ts)) := by
  obtain ⟨q, front, s, back, more, rfl, cut, same⟩ := h
  exact ⟨.link t j rfl spelt p q, t :: (p.tokens ++ front), s, back, more, by simp,
    (cut.append numbers short).cons (by simp [spelt.1]), by simp [Phrase.tokens, same]⟩

theorem signed {op : UnaryOp} (spelt : t.Spells op.symbol) (h : (whole .unary).Meets ts) :
    (whole .unary).Meets (t :: ts) := by
  obtain ⟨p, front, s, back, more, rfl, cut, same⟩ := h
  exact ⟨.signed t op spelt p, t :: front, s, back, more, rfl, cut.cons (by simp [spelt.1]),
    by simp [Phrase.tokens, same]⟩

theorem primary (h : (whole .primary).Meets ts) : (whole .unary).Meets ts := by
  obtain ⟨p, front, s, back, more, rfl, cut, same⟩ := h
  exact ⟨.unsigned (.access p .noStep), front, s, back, more, rfl, cut,
    by simp [Phrase.tokens, same]⟩

theorem access (p : Phrase (.whole .primary)) (numbers : Numbered p.tokens)
    (short : ∀ t ∈ p.tokens, ¬ t.Overlong) (h : steps.Meets ts) :
    (whole .unary).Meets (p.tokens ++ ts) := by
  obtain ⟨q, front, s, back, more, rfl, cut, same⟩ := h
  exact ⟨.unsigned (.access p q), p.tokens ++ front, s, back, more, by simp,
    cut.append numbers short, by simp [Phrase.tokens, same]⟩

theorem property {word : Token} (dotted : t.Spells ".") (named : word.kind = .ident)
    (h : steps.Meets ts) : steps.Meets (t :: word :: ts) := by
  obtain ⟨q, front, s, back, more, rfl, cut, same⟩ := h
  exact ⟨.property t word dotted named q, t :: word :: front, s, back, more, rfl,
    (cut.cons (by simp [named])).cons (by simp [dotted.1]), by simp [Phrase.tokens, same]⟩

theorem key (opens : t.Spells "[") (h : expression.Meets ts) : steps.Meets (t :: ts) := by
  obtain ⟨p, front, s, back, more, rfl, cut, same⟩ := h
  exact ⟨.index t ⟨.op, [']'], 0⟩ opens ⟨rfl, rfl⟩ p .noStep, t :: front, s, back, _, rfl,
    cut.cons (by simp [opens.1]), by simp [Phrase.tokens, same]; rfl⟩

theorem index {right : Token} (opens : t.Spells "[") (closes : right.Spells "]")
    (p : Phrase .expression) (numbers : Numbered p.tokens)
    (short : ∀ t ∈ p.tokens, ¬ t.Overlong) (h : steps.Meets ts) :
    steps.Meets (t :: (p.tokens ++ right :: ts)) := by
  obtain ⟨q, front, s, back, more, rfl, cut, same⟩ := h
  exact ⟨.index t right opens closes p q, t :: (p.tokens ++ right :: front), s, back, more,
    by simp, ((cut.cons (by simp [closes.1])).append numbers short).cons (by simp [opens.1]),
    by simp [Phrase.tokens, same]⟩

theorem number (numbers : Numbered (t :: ts)) (long : t.Overlong) :
    (whole .primary).Meets (t :: ts) := by
  refine ⟨.number t _ long.kind (.whole long.plain), [], t, ts, [], rfl, ⟨?_, nofun, long⟩, rfl⟩
  exact fun s mem => numbers s (by simp_all)

theorem group (opens : t.Spells "(") (h : expression.Meets ts) :
    (whole .primary).Meets (t :: ts) := by
  obtain ⟨p, front, s, back, more, rfl, cut, same⟩ := h
  exact ⟨.group t ⟨.op, [')'], 0⟩ opens ⟨rfl, rfl⟩ p, t :: front, s, back, _, rfl,
    cut.cons (by simp [opens.1]), by simp [Phrase.tokens, same]; rfl⟩

end Part.Meets

def Goal.Meets (ts : List Token) : Goal → Prop
  | level n => (Part.whole (.ofDepth n)).Meets ts
  | following n _ => ∀ l : Level, l.depth = n → (Part.links l).Meets ts
  | operand => (Part.whole .unary).Meets ts
  | accesses _ => Part.steps.Meets ts
  | primary => (Part.whole .primary).Meets ts

theorem expectOp_ne_fault {op : Char} {ts : List Token} {f : Fault} :
    expectOp op ts ≠ .error (.fault f) := by
  unfold expectOp
  split
  · split <;> simp
  · simp

/-- The reader meets a number that it cannot read only where a phrase may have one. -/
theorem read_meets {fuel : Nat} {goal : Goal} {ts : List Token} {f : Fault}
    (h : read fuel goal ts = .error (.fault f)) (numbers : Numbered ts) : goal.Meets ts := by
  -- what was read before the number is a phrase, what comes behind it is left out or closed
  induction fuel generalizing goal ts with
  | zero => cases h
  | succ fuel ih =>
    cases ts with
    | nil => cases h
    | cons t ts =>
      cases read_step h with
      | high le inner =>
        have met := ih inner numbers
        simp only [Goal.Meets, Symbol.ofDepth_high le]
        exact met
      | level l first more =>
        have used := read_level_short first numbers
        rw [Symbol.ofDepth_operand] at used
        obtain ⟨p, same, left, short⟩ := used
        simp only [Goal.Meets, Symbol.ofDepth_level]
        rw [same] at numbers ⊢
        exact .chain p left short (ih more numbers.right l rfl)
      | levelError l first =>
        have met := ih first numbers
        simp only [Goal.Meets, Symbol.ofDepth_operand, Symbol.ofDepth_level] at met ⊢
        exact met.first
      | link j spelt right more =>
        have used := read_level_short right numbers.tail
        rw [Symbol.ofDepth_operand] at used
        obtain ⟨p, rfl, inner, short⟩ := used
        intro l depth
        obtain rfl := Level.depth_injective depth
        exact .link spelt p inner short (ih more numbers.tail.right _ rfl)
      | linkError j spelt right =>
        have met := ih right numbers.tail
        simp only [Goal.Meets, Symbol.ofDepth_operand] at met
        intro l depth
        obtain rfl := Level.depth_injective depth
        exact met.right spelt
      | signedError op spelt operand => exact .signed spelt (ih operand numbers.tail)
      | unsigned first more =>
        obtain ⟨p, same, inner, short⟩ := read_primary_short first numbers
        rw [same] at numbers ⊢
        exact .access p inner short (ih more numbers.right)
      | unsignedError first => exact (ih first numbers).primary
      | property dotted named more => exact .property dotted named (ih more numbers.tail.tail)
      | index opens closes key more =>
        obtain ⟨p, rfl, inner, short⟩ := read_level_short key numbers.tail
        exact .index opens closes p inner short (ih more numbers.tail.right.tail)
      | indexError opens key => exact .key opens (ih key numbers.tail)
      | indexOpen opens key unclosed => exact absurd unclosed expectOp_ne_fault
      | numberError kind value =>
        have text := numbers t (by simp) kind
        exact .number numbers (t.numberLiteral_eq_error kind text value).2
      | groupError opens inner => exact .group opens (ih inner numbers.tail)
      | groupOpen opens inner unclosed => exact absurd unclosed expectOp_ne_fault

end Storyworld.Condition
