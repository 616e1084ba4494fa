import Storyworld.Proofs.Condition.Lexing

/-!
Cutting a text piece by piece. The tokens of a text do not depend on where it stands, nor on what
stands behind it as long as that begins with a character that no lexeme takes in.
-/

namespace Storyworld.Condition

/-- A token without its place. -/
def Token.bare (t : Token) : Token :=
  { t with pos := 0 }

/-- A text that is cut into tokens up to a rest. -/
inductive Cuts : List Char → List Token → List Char → Prop where
  | done {cs : List Char} : Cuts cs [] cs
  | blank {cs text mid rest : List Char} {ts : List Token}
      (found : lexeme? cs = some (none, text, mid)) (later : Cuts mid ts rest) : Cuts cs ts rest
  | token {cs text mid rest : List Char} {kind : TokenKind} {ts : List Token}
      (found : lexeme? cs = some (some kind, text, mid)) (later : Cuts mid ts rest) :
      Cuts cs (⟨kind, text, 0⟩ :: ts) rest

theorem Cuts.append {cs mid rest : List Char} {ts us : List Token} (h : Cuts cs ts mid)
    (h' : Cuts mid us rest) : Cuts cs (ts ++ us) rest := by
  induction h with
  | done => exact h'
  | blank found _ ih => exact .blank found (ih h')
  | token found _ ih => exact .token found (ih h')

theorem Cuts.of_tokensFrom {pos : Nat} {cs : List Char} {ts : List Token}
    (h : tokensFrom pos cs = .ok ts) :
    ∃ body last, ts = body ++ [last] ∧ Cuts cs (body.map Token.bare) [] := by
  fun_induction tokensFrom pos cs generalizing ts with
  | case1 => cases h
  | case2 pos cs text rest ts' later kind found _ ih =>
    cases h
    obtain ⟨body, last, rfl, cuts⟩ := ih later
    exact ⟨⟨kind, text, pos⟩ :: body, last, rfl, .token found cuts⟩
  | case3 pos cs text rest ts' later found _ ih =>
    cases h
    obtain ⟨body, last, rfl, cuts⟩ := ih later
    exact ⟨body, last, rfl, .blank found cuts⟩
  | case4 pos =>
    cases h
    exact ⟨[], _, rfl, .done⟩
  | case5 => cases h

theorem tokensFrom_of_lexeme {pos : Nat} {cs text rest : List Char} {kind : Option TokenKind}
    {ts : List Token} (found : lexeme? cs = some (kind, text, rest))
    (later : tokensFrom (pos + text.length) rest = .ok ts) :
    tokensFrom pos cs = .ok ((kind.map fun k => ⟨k, text, pos⟩).toList ++ ts) := by
  rw [tokensFrom_lexeme found, later]
  rfl

theorem Cuts.tokensFrom {cs : List Char} {ts : List Token} (h : Cuts cs ts []) (pos : Nat) :
    ∃ body last, tokensFrom pos cs = .ok (body ++ [last]) ∧ last.kind = .eof ∧
      body.map Token.bare = ts := by
  generalize nothing : ([] : List Char) = rest at h
  induction h generalizing pos with
  | done =>
    subst nothing
    refine ⟨[], ⟨.eof, [], pos⟩, ?_, rfl, rfl⟩
    rw [Condition.tokensFrom]
    rfl
  | @blank cs text mid rest ts found _ ih =>
    obtain ⟨body, last, cut, ends, same⟩ := ih (pos + text.length) nothing
    exact ⟨body, last, tokensFrom_of_lexeme found cut, ends, same⟩
  | @token cs text mid rest kind ts found _ ih =>
    obtain ⟨body, last, cut, ends, same⟩ := ih (pos + text.length) nothing
    refine ⟨⟨kind, text, pos⟩ :: body, last, tokensFrom_of_lexeme found cut, ends, ?_⟩
    rw [List.map_cons, same]
    rfl

/-- A character that goes on no lexeme, unless that is a text between quotes. -/
structure Stops (c : Char) : Prop where
  blank : Text.isBlank c = false
  digit : Text.isDigit c = false
  part : isIdentPart c = false
  mark : c ∉ ['.', '=', '&', '|']

/-- A character that goes on no token, unless that is a text between quotes. -/
structure EndsToken (c : Char) : Prop where
  digit : Text.isDigit c = false
  part : isIdentPart c = false
  mark : c ∉ ['.', '=', '&', '|']

theorem Stops.endsToken {c : Char} (h : Stops c) : EndsToken c :=
  ⟨h.digit, h.part, h.mark⟩

theorem isBlank_of_isIdentPart {c : Char} (h : isIdentPart c = true) : Text.isBlank c = false := by
  obtain start | digit := Bool.or_eq_true_iff.1 h
  · exact isBlank_of_isIdentStart start
  · exact Text.isBlank_of_isDigit (Decimal.isDigit_of_plain digit)

/-- Every token ends in front of a blank, unless that stands between its quotes. -/
theorem EndsToken.of_blank {c : Char} (blank : Text.isBlank c = true) : EndsToken c := by
  refine ⟨Bool.eq_false_iff.2 fun digit => ?_, Bool.eq_false_iff.2 fun part => ?_, fun mark => ?_⟩
  · rw [Text.isBlank_of_isDigit digit] at blank
    cases blank
  · rw [isBlank_of_isIdentPart part] at blank
    cases blank
  · simp only [List.mem_cons, List.not_mem_nil, or_false] at mark
    obtain rfl | rfl | rfl | rfl := mark <;> exact absurd blank (by decide)

def Seam (more : List Char) : Prop :=
  ∀ c ∈ more.head?, Stops c

theorem Seam.cons {c : Char} (h : Stops c) (more : List Char) : Seam (c :: more) := by
  intro d mem
  cases mem
  exact h

theorem takeRun_before {p : Char → Bool} {more : List Char}
    (stops : ∀ c ∈ more.head?, p c = false) (cs : List Char) :
    takeRun p (cs ++ more) = ((takeRun p cs).1, (takeRun p cs).2 ++ more) := by
  induction cs with
  | nil =>
    cases more with
    | nil => rfl
    | cons c more => simp [takeRun, stops c rfl]
  | cons c cs ih =>
    simp only [takeRun, List.cons_append, Prod.mk.injEq] at ih ⊢
    cases inside : p c with
    | true => simpa [inside] using ih
    | false => simp [inside]

theorem numberFrom_before {more : List Char} (ends : ∀ c ∈ more.head?, EndsToken c)
    (cs : List Char) :
    numberFrom (cs ++ more) = ((numberFrom cs).1, (numberFrom cs).2 ++ more) := by
  have run (ds : List Char) : takeRun Text.isDigit (ds ++ more) =
      ((takeRun Text.isDigit ds).1, (takeRun Text.isDigit ds).2 ++ more) :=
    takeRun_before (fun c mem => (ends c mem).digit) ds
  simp only [numberFrom, run cs]
  generalize takeRun Text.isDigit cs = p
  obtain ⟨whole, rest⟩ := p
  cases rest with
  | nil =>
    cases more with
    | nil => rfl
    | cons c more =>
      have point : c ≠ '.' := fun same => (ends c rfl).mark (by simp [same])
      simp [point]
  | cons c rest =>
    by_cases point : c = '.'
    · subst point
      cases rest with
      | nil =>
        cases more with
        | nil => rfl
        | cons c more => simp [(ends c rfl).digit]
      | cons d rest =>
        have later := run (d :: rest)
        rw [List.cons_append] at later
        cases digit : Text.isDigit d <;> simp [digit, later]
    · simp [point]

/-- A text between quotes ends with its closing quote, whatever is behind that. -/
theorem stringBody_front {quote : Char} (proper : quote ≠ '\\') {cs text rest : List Char}
    (h : stringBody quote cs = some (text, rest)) (other : List Char) :
    stringBody quote (text ++ other) = some (text, other) := by
  fun_induction stringBody quote cs generalizing text rest with
  | case1 => cases h
  | case2 => cases h
  | case3 c cs line ih =>
    obtain ⟨⟨a, b⟩, inner, same⟩ := Option.map_eq_some_iff.1 h
    cases same
    simp [stringBody, line, ih inner]
  | case4 c cs plain closes =>
    cases h
    have same : c = quote := by simpa using closes
    rw [List.cons_append, stringBody, if_pos closes]
    · rfl
    · exact fun d ds escape => absurd (same ▸ escape) proper
  | case5 => cases h
  | case6 c cs plain opens other' ih =>
    obtain ⟨⟨a, b⟩, inner, same⟩ := Option.map_eq_some_iff.1 h
    cases same
    rw [List.cons_append, stringBody, if_neg opens, if_neg other', ih inner]
    · rfl
    · exact fun d ds escape => absurd (by simp [escape]) other'

theorem stringBody_before {quote : Char} (proper : quote ≠ '\\') {cs text rest : List Char}
    (h : stringBody quote cs = some (text, rest)) (more : List Char) :
    stringBody quote (cs ++ more) = some (text, rest ++ more) := by
  rw [← stringBody_append h, List.append_assoc]
  exact stringBody_front proper h (rest ++ more)

theorem stripLeading_before {o more : List Char} (apart : ∀ c ∈ more.head?, c ∉ o)
    (cs : List Char) :
    Text.stripLeading o (cs ++ more) = (Text.stripLeading o cs).map (· ++ more) := by
  induction o generalizing cs with
  | nil => rfl
  | cons x o ih =>
    cases cs with
    | nil =>
      cases more with
      | nil => rfl
      | cons c more =>
        have other : x ≠ c := fun same => apart c rfl (by simp [same])
        simp [Text.stripLeading, other]
    | cons c cs =>
      have later := ih (fun d mem inside => apart d mem (List.mem_cons_of_mem x inside)) cs
      by_cases same : x = c
      · simp [Text.stripLeading, same, later]
      · simp [Text.stripLeading, same]

theorem operatorFrom_before {more : List Char} (ends : ∀ c ∈ more.head?, EndsToken c) (c : Char)
    (cs : List Char) :
    operatorFrom (c :: cs ++ more) = (operatorFrom (c :: cs)).map fun p => (p.1, p.2 ++ more) := by
  have marks : ∀ o ∈ operators,
      o ≠ [] ∧ (o.tail.all fun d => ['.', '=', '&', '|'].contains d) = true := by
    decide
  have each : ∀ o ∈ operators, Text.stripLeading o (c :: cs ++ more) =
      (Text.stripLeading o (c :: cs)).map (· ++ more) := by
    intro o mem
    obtain ⟨ne, tail⟩ := marks o mem
    obtain ⟨x, o, rfl⟩ := List.exists_cons_of_ne_nil ne
    have apart : ∀ d ∈ more.head?, d ∉ o := fun d first inside =>
      (ends d first).mark (List.contains_iff_mem.1 (List.all_eq_true.1 tail d inside))
    by_cases same : x = c
    · simp [Text.stripLeading, same, stripLeading_before apart]
    · simp [Text.stripLeading, same]
  unfold operatorFrom
  generalize operators = os at each
  induction os with
  | nil => rfl
  | cons o os ih =>
    obtain ⟨here, later⟩ := List.forall_mem_cons.1 each
    rw [List.findSome?_cons, List.findSome?_cons, here, ih later]
    cases Text.stripLeading o (c :: cs) <;> rfl

theorem stringBody_proper {c : Char} (quote : c = '\'' ∨ c = '"') : c ≠ '\\' := by
  rintro rfl
  exact absurd quote (by decide)

/-- What a text begins with, it still begins with when it is longer. -/
theorem head?_any_append {p : Char → Bool} {cs more : List Char}
    (first : cs.head?.any p = true) : (cs ++ more).head?.any p = true := by
  cases cs with
  | nil => cases first
  | cons c cs => exact first

/-- The first lexeme of a text is the same in front of a character that goes on no token. A blank
lexeme must not be followed by a blank. -/
theorem Lexes.before {cs text rest more : List Char} {kind : Option TokenKind}
    (h : Lexes cs kind text rest) (ends : ∀ c ∈ more.head?, EndsToken c)
    (plain : kind = none → ∀ c ∈ more.head?, Text.isBlank c = false) :
    Lexes (cs ++ more) kind text (rest ++ more) := by
  have run {p : Char → Bool} (stops : ∀ d ∈ more.head?, p d = false) {ds text rest : List Char}
      (same : takeRun p ds = (text, rest)) : takeRun p (ds ++ more) = (text, rest ++ more) := by
    rw [takeRun_before stops, same]
  cases h with
  | blank first same => exact .blank first (run (plain rfl) same)
  | @number c cs _ _ first same =>
    have longer : numberFrom (c :: cs ++ more) = (text, rest ++ more) := by
      rw [numberFrom_before ends, same]
    exact .number first longer
  | fraction next same =>
    exact .fraction (head?_any_append next) (run (fun c mem => (ends c mem).digit) same)
  | ident first same => exact .ident first (run (fun c mem => (ends c mem).part) same)
  | quoted first body =>
    exact .quoted first (stringBody_before (stringBody_proper first) body more)
  | @operator c cs _ _ other found =>
    have longer : operatorFrom (c :: cs ++ more) = some (text, rest ++ more) := by
      rw [operatorFrom_before ends, found]
      rfl
    refine .operator ?_ longer
    rintro ⟨rfl, next⟩
    refine other ⟨rfl, ?_⟩
    cases cs with
    | nil =>
      cases more with
      | nil => exact next
      | cons d more => simp [(ends d rfl).digit] at next
    | cons d cs => exact next

theorem lexeme?_before {cs text rest more : List Char} {kind : Option TokenKind}
    (seam : Seam more) (h : lexeme? cs = some (kind, text, rest)) :
    lexeme? (cs ++ more) = some (kind, text, rest ++ more) :=
  lexeme?_eq_some.2 <| (lexeme?_eq_some.1 h).before (fun c mem => (seam c mem).endsToken)
    fun _ c mem => (seam c mem).blank

theorem Cuts.before {cs rest more : List Char} {ts : List Token} (h : Cuts cs ts rest)
    (seam : Seam more) : Cuts (cs ++ more) ts (rest ++ more) := by
  induction h with
  | done => exact .done
  | blank found _ ih => exact .blank (lexeme?_before seam found) ih
  | token found _ ih => exact .token (lexeme?_before seam found) ih

end Storyworld.Condition
