import Mathlib
import Storyworld.Proofs.Condition.Overlong
import Storyworld.Proofs.Condition.Refusals

/-!
The parser accepts the grammar. Its answer is the expression of the only phrase that has the tokens
of the text, and a text without such a phrase is malformed.
-/

namespace Storyworld.Text

theorem trim_eq_nil {cs : List Char} : trim cs = [] ↔ ∀ c ∈ cs, isBlank c = true := by
  simp only [trim, trimBy, trimEnd, List.reverse_eq_nil_iff, List.dropWhile_eq_nil_iff,
    List.mem_reverse]
  constructor
  · intro h
    cases same : cs.dropWhile isBlank with
    | nil => exact List.dropWhile_eq_nil_iff.1 same
    | cons c rest =>
      have first := List.head?_dropWhile_not isBlank cs
      rw [same] at first h
      simp [h c (by simp)] at first
  · intro h c mem
    exact h c ((List.dropWhile_suffix isBlank).subset mem)

end Storyworld.Text

namespace Storyworld.Condition

/-- A phrase covers a text if it has all tokens of the text but the mark of the end. -/
def Phrase.Covers (p : Phrase .expression) (s : String) : Prop :=
  ∃ last : Token, last.kind = .eof ∧ tokenize s.toList = .ok (p.tokens ++ [last])

theorem depthFor_enough (ts : List Token) :
    10 * ts.length + (Goal.level 0).rank ≤ depthFor ts := by
  simp only [Goal.rank, depthFor]
  omega

section

variable {body : List Token} {last : Token}

theorem input_of_lexed (lexed : ∀ t ∈ body, t.Lexed) (ends : last.kind = .eof) :
    Input (body ++ [last]) := by
  refine ⟨?_, last, by simp, ends⟩
  intro t mem kind
  obtain mem | mem := List.mem_append.1 mem
  · exact (lexed t mem).number kind
  · rw [List.mem_singleton.1 mem, ends] at kind
    cases kind

/-- The mark of the end stands nowhere but at the end. -/
theorem ends_once {used rest : List Token} {t : Token} (lexed : ∀ t ∈ body, t.Lexed)
    (kind : t.kind = .eof) (same : body ++ [last] = used ++ t :: rest) : used = body := by
  obtain ⟨front, rfl, tail⟩ | ⟨front, rfl, tail⟩ := List.append_eq_append_iff.1 same
  · cases front with
    | nil => rw [List.append_nil]
    | cons s front => simp at tail
  · cases front with
    | nil => rw [List.append_nil]
    | cons s front =>
      simp only [List.cons_append, List.cons.injEq] at tail
      exact absurd (tail.1 ▸ kind) (lexed s (by simp)).inside

theorem ofTokens_derives {x : Expr} (lexed : ∀ t ∈ body, t.Lexed) (ends : last.kind = .eof)
    (h : ofTokens (body ++ [last]) = .ok x) : (Symbol.level .disjunction).Derives body x := by
  obtain ⟨⟨y, rest⟩, reading, later⟩ := bind_eq_ok.1 h
  cases rest with
  | nil => cases later
  | cons t rest =>
    dsimp only at later
    split at later
    case isFalse => cases later
    case isTrue kind =>
      cases later
      obtain ⟨used, same, derives⟩ := read_sound reading (input_of_lexed lexed ends).numbers
      rw [ends_once lexed kind same] at derives
      exact derives

theorem read_settled (lexed : ∀ t ∈ body, t.Lexed) (ends : last.kind = .eof) :
    read (depthFor (body ++ [last])) (.level 0) (body ++ [last]) ≠ .error .empty := by
  intro failed
  have refused := read_refusal failed (depthFor_enough _) (input_of_lexed lexed ends)
  cases refused with
  | malformed m proper => exact proper rfl

theorem ofTokens_of_derives {x : Expr} (lexed : ∀ t ∈ body, t.Lexed) (ends : last.kind = .eof)
    (short : ∀ t ∈ body, ¬ t.Overlong) (h : (Symbol.level .disjunction).Derives body x) :
    ofTokens (body ++ [last]) = .ok x := by
  obtain ⟨p, rfl, rfl⟩ := h
  have legible := legible_of_short (fun t mem => (lexed t mem).number) short
  have reads := p.reads legible [last] (.of_kind (by simp [ends]) _ _)
  have reading := reads.unique ⟨read_settled lexed ends, _, rfl⟩
  exact bind_eq_ok.2 ⟨_, reading.symm, by simp [ends]⟩

theorem ofTokens_refusal {e : ParseFailure} (lexed : ∀ t ∈ body, t.Lexed)
    (ends : last.kind = .eof) (h : ofTokens (body ++ [last]) = .error e) :
    Refusal (body ++ [last]) e := by
  have input := input_of_lexed lexed ends
  obtain reading | ⟨⟨y, rest⟩, reading, later⟩ := bind_eq_error.1 h
  · exact read_refusal reading (depthFor_enough _) input
  · obtain ⟨used, same, input', -⟩ := read_rest reading input id
    cases rest with
    | nil => exact absurd rfl input'.ne_nil
    | cons t rest =>
      dsimp only at later
      split at later
      case isTrue => cases later
      case isFalse =>
        cases later
        exact .malformed _ (by simp)

/-- Nothing behind the mark of the end is looked at. -/
theorem ofTokens_append (lexed : ∀ t ∈ body, t.Lexed) (ends : last.kind = .eof)
    (more : List Token) : ofTokens (body ++ [last] ++ more) = ofTokens (body ++ [last]) := by
  have deeper : depthFor (body ++ [last]) ≤ depthFor (body ++ [last] ++ more) := by
    simp only [depthFor, List.length_append]
    omega
  obtain ⟨extra, same⟩ := Nat.exists_eq_add_of_le deeper
  unfold ofTokens
  rw [same, read_extends extra more (read_settled lexed ends)]
  cases reading : read (depthFor (body ++ [last])) (.level 0) (body ++ [last]) with
  | error e => rfl
  | ok r =>
    obtain ⟨x, rest⟩ := r
    obtain ⟨used, -, input, -⟩ := read_rest reading (input_of_lexed lexed ends) id
    obtain ⟨t, rest, rfl⟩ := List.exists_cons_of_ne_nil input.ne_nil
    rfl

end

theorem ofTokens_eq_fault {body : List Token} {last : Token} (lexed : ∀ t ∈ body, t.Lexed)
    (ends : last.kind = .eof) {f : Fault} :
    ofTokens (body ++ [last]) = .error (.fault f) ↔
      f = .tooManyDigits ∧ Part.expression.Meets (body ++ [last]) := by
  constructor
  · intro h
    have refused := ofTokens_refusal lexed ends h
    obtain reading | ⟨⟨x, rest⟩, -, later⟩ := bind_eq_error.1 h
    · have met := read_meets reading (input_of_lexed lexed ends).numbers
      cases refused with
      | fault => exact ⟨rfl, met⟩
    · cases rest with
      | nil => cases later
      | cons t rest =>
        dsimp only at later
        split at later <;> cases later
  · rintro ⟨rfl, met⟩
    have reading := met.faults.unique ⟨read_settled lexed ends, _, rfl⟩
    exact bind_eq_error.2 (.inl reading.symm)

theorem Phrase.Covers.unique {p q : Phrase .expression} {s : String} (h : p.Covers s)
    (h' : q.Covers s) : p = q := by
  obtain ⟨last, -, cut⟩ := h
  obtain ⟨last', -, cut'⟩ := h'
  rw [cut] at cut'
  have same : p.tokens ++ [last] = q.tokens ++ [last'] := Except.ok.inj cut'
  exact tokens_injective (List.append_inj_left' same rfl)

theorem parse_of_blank {s : String} (h : ∀ c ∈ s.toList, Text.isBlank c = true) :
    parse s = .error .empty := by
  unfold parse parseChars
  rw [Text.trim_eq_nil.2 h]
  rfl

/-- A text with something in it is cut into tokens, and these are read. -/
theorem parse_of_not_blank {s : String} (h : ¬ ∀ c ∈ s.toList, Text.isBlank c = true) :
    parse s = (tokenize s.toList).mapError (.malformed <| .stray ·) >>= ofTokens := by
  unfold parse parseChars
  rw [if_neg (by simpa [List.isEmpty_iff, Text.trim_eq_nil] using h)]
  cases tokenize s.toList <;> rfl

theorem tokensFrom_nil (pos : Nat) : tokensFrom pos [] = .ok [⟨.eof, [], pos⟩] := by
  rw [tokensFrom]
  rfl

theorem tokensFrom_blank {cs : List Char} (h : ∀ c ∈ cs, Text.isBlank c = true) (pos : Nat) :
    ∃ last : Token, last.kind = .eof ∧ tokensFrom pos cs = .ok [last] := by
  cases cs with
  | nil => exact ⟨_, rfl, tokensFrom_nil pos⟩
  | cons c cs =>
    have lexes := lexes_blank (List.cons_ne_nil c cs) h (show ∀ d ∈ [].head?, _ by simp)
    rw [List.append_nil] at lexes
    rw [tokensFrom_lexeme (lexeme?_eq_some.2 lexes), tokensFrom_nil]
    exact ⟨_, rfl, rfl⟩

theorem not_covers_of_blank {s : String} (h : ∀ c ∈ s.toList, Text.isBlank c = true)
    (p : Phrase .expression) : ¬ p.Covers s := by
  rintro ⟨last, -, cut⟩
  obtain ⟨last', -, only⟩ := tokensFrom_blank h 0
  rw [tokenize, only] at cut
  have same : [last'] = p.tokens ++ [last] := Except.ok.inj cut
  exact p.tokens_ne_nil rfl (List.append_inj_left' (show [] ++ [last'] = _ from same) rfl).symm

theorem parse_eq_ok {s : String} {x : Expr}
    (short : ∀ ts, tokenize s.toList = .ok ts → ∀ t ∈ ts, ¬ t.Overlong) :
    parse s = .ok x ↔ ∃ p : Phrase .expression, p.Covers s ∧ p.tree = x := by
  by_cases blank : ∀ c ∈ s.toList, Text.isBlank c = true
  · rw [parse_of_blank blank]
    constructor
    · intro h
      cases h
    · rintro ⟨p, covers, -⟩
      exact absurd covers (not_covers_of_blank blank p)
  rw [parse_of_not_blank blank]
  constructor
  · intro h
    obtain ⟨ts, cut, read⟩ := bind_eq_ok.1 h
    rw [mapError_eq_ok] at cut
    obtain ⟨body, last, rfl, ends, lexed⟩ := tokensFrom_eq_ok cut
    obtain ⟨p, rfl, means⟩ := ofTokens_derives lexed ends read
    exact ⟨p, ⟨last, ends, cut⟩, means⟩
  · rintro ⟨p, ⟨last, ends, cut⟩, means⟩
    obtain ⟨body, last', same, -, lexed⟩ := tokensFrom_eq_ok cut
    obtain ⟨rfl, -⟩ := List.append_inj' same rfl
    have legible : ∀ t ∈ p.tokens, ¬ t.Overlong := fun t mem => short _ cut t (by simp [mem])
    exact bind_eq_ok.2 ⟨_, mapError_eq_ok.2 cut,
      ofTokens_of_derives lexed ends legible ⟨p, rfl, means⟩⟩

/-- A text is refused because it is blank, or for a stray character, or for its tokens. -/
theorem parse_refusal {s : String} {e : ParseFailure} (h : parse s = .error e) :
    (e = .empty ∧ ∀ c ∈ s.toList, Text.isBlank c = true) ∨
      (∃ stray, e = .malformed (.stray stray)) ∨
        ∃ ts, tokenize s.toList = .ok ts ∧ Refusal ts e := by
  by_cases blank : ∀ c ∈ s.toList, Text.isBlank c = true
  · rw [parse_of_blank blank] at h
    cases h
    exact .inl ⟨rfl, blank⟩
  rw [parse_of_not_blank blank] at h
  obtain cut | ⟨ts, cut, read⟩ := bind_eq_error.1 h
  · cases cutting : tokenize s.toList with
    | error stray =>
      rw [cutting] at cut
      cases cut
      exact .inr (.inl ⟨stray, rfl⟩)
    | ok ts =>
      rw [cutting] at cut
      cases cut
  · rw [mapError_eq_ok] at cut
    obtain ⟨body, last, rfl, ends, lexed⟩ := tokensFrom_eq_ok cut
    exact .inr (.inr ⟨_, cut, ofTokens_refusal lexed ends read⟩)

theorem parse_malformed {s : String}
    (short : ∀ ts, tokenize s.toList = .ok ts → ∀ t ∈ ts, ¬ t.Overlong)
    (none : ¬ ∃ p : Phrase .expression, p.Covers s) : ∃ m, parse s = .error (.malformed m) := by
  cases answer : parse s with
  | ok x =>
    obtain ⟨p, covers, -⟩ := (parse_eq_ok short).1 answer
    exact absurd ⟨p, covers⟩ none
  | error e =>
    obtain ⟨rfl, -⟩ | ⟨stray, rfl⟩ | ⟨ts, cut, refused⟩ := parse_refusal answer
    · exact ⟨_, rfl⟩
    · exact ⟨_, rfl⟩
    · cases refused with
      | malformed m => exact ⟨m, rfl⟩
      | fault t mem long => exact absurd long (short ts cut t mem)

theorem parse_eq_empty {s : String} :
    parse s = .error .empty ↔ ∀ c ∈ s.toList, Text.isBlank c = true := by
  constructor
  · intro h
    obtain ⟨-, blank⟩ | ⟨stray, same⟩ | ⟨ts, -, refused⟩ := parse_refusal h
    · exact blank
    · cases same
    · cases refused with
      | malformed m proper => exact absurd rfl proper
  · exact parse_of_blank

/-- The parser fails for a number only if it is too long and stands where a phrase of the grammar
that begins with the same tokens has a number. -/
theorem parse_eq_fault {s : String} {f : Fault} :
    parse s = .error (.fault f) ↔
      f = .tooManyDigits ∧ ∃ ts, tokenize s.toList = .ok ts ∧ Part.expression.Meets ts := by
  by_cases blank : ∀ c ∈ s.toList, Text.isBlank c = true
  · rw [parse_of_blank blank]
    constructor
    · intro h
      cases h
    · rintro ⟨-, ts, cut, p, front, t, back, more, same, split, -⟩
      obtain ⟨last, ends, only⟩ := tokensFrom_blank blank 0
      rw [tokenize, only] at cut
      cases cut
      have mem : t ∈ [last] := by simp [same]
      rw [← List.mem_singleton.1 mem, split.long.kind] at ends
      cases ends
  rw [parse_of_not_blank blank]
  constructor
  · intro h
    obtain cut | ⟨ts, cut, read⟩ := bind_eq_error.1 h
    · cases cutting : tokenize s.toList <;> rw [cutting] at cut <;> cases cut
    · rw [mapError_eq_ok] at cut
      obtain ⟨body, last, rfl, ends, lexed⟩ := tokensFrom_eq_ok cut
      obtain ⟨same, met⟩ := (ofTokens_eq_fault lexed ends).1 read
      exact ⟨same, _, cut, met⟩
  · rintro ⟨same, ts, cut, met⟩
    obtain ⟨body, last, rfl, ends, lexed⟩ := tokensFrom_eq_ok cut
    exact bind_of_ok (mapError_eq_ok.2 cut) ((ofTokens_eq_fault lexed ends).2 ⟨same, met⟩)

theorem not_overlong_of_length {s : String} (h : s.toList.length ≤ Decimal.digitLimit)
    (ts : List Token) (cut : tokenize s.toList = .ok ts) : ∀ t ∈ ts, ¬ t.Overlong := by
  intro t mem overlong
  exact Nat.not_le_of_lt overlong.long (Nat.le_trans (tokensFrom_length cut t mem) h)

end Storyworld.Condition
