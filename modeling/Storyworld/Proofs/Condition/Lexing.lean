import Storyworld.Proofs.Condition.Numbers

/-!
What the tokenizer gives: tokens of the classes, the numbers among them well formed, and one token
behind them all that marks the end. The classes of lexemes differ in their first characters, so
each lexeme is of one class whatever the order in which the classes are tried.
-/

namespace Storyworld.Condition

theorem isIdentStart_range {c : Char} (h : isIdentStart c = true) :
    c.toNat = 36 ∨ 58 ≤ c.toNat ∧ c.toNat ≤ 127 := by
  delta isIdentStart Char.isAlpha Char.isUpper Char.isLower at h
  simp only [Bool.or_eq_true, Bool.and_eq_true, decide_eq_true_eq, beq_iff_eq,
    UInt32.le_iff_toNat_le] at h
  obtain ((⟨low, high⟩ | ⟨low, high⟩) | rfl) | rfl := h
  · exact .inr ⟨Nat.le_trans (by decide) low, Nat.le_trans high (by decide)⟩
  · exact .inr ⟨Nat.le_trans (by decide) low, Nat.le_trans high (by decide)⟩
  · decide
  · decide

theorem isDigit_of_isIdentStart {c : Char} (h : isIdentStart c = true) :
    Text.isDigit c = false := by
  have apart : ∀ z ∈ Text.zeros, 36 < z ∧ z + 9 < 58 ∨ 127 < z := by decide
  rw [Bool.eq_false_iff]
  intro digit
  obtain ⟨z, mem, low, high⟩ := Text.isDigit_near_zero digit
  have place := isIdentStart_range h
  have := apart z mem
  omega

theorem isBlank_of_isIdentStart {c : Char} (h : isIdentStart c = true) :
    Text.isBlank c = false := by
  have apart : ∀ s ∈ Text.blankSpans, s.2 < 36 ∨ 127 < s.1 := by decide
  rw [Bool.eq_false_iff]
  intro blank
  obtain ⟨s, span, first, last⟩ := (Text.inSpans_iff _ _).1 blank
  have place := isIdentStart_range h
  have := apart s span
  omega

/-- A lexeme at the front of a text. Its first character settles its class, but for a point, which
begins a number if a digit follows it. -/
inductive Lexes : List Char → Option TokenKind → List Char → List Char → Prop where
  | blank {c : Char} {cs text rest : List Char} (first : Text.isBlank c = true)
      (run : takeRun Text.isBlank (c :: cs) = (text, rest)) : Lexes (c :: cs) none text rest
  | number {c : Char} {cs text rest : List Char} (first : Text.isDigit c = true)
      (run : numberFrom (c :: cs) = (text, rest)) : Lexes (c :: cs) (some .number) text rest
  | fraction {cs text rest : List Char} (next : cs.head?.any Text.isDigit = true)
      (run : takeRun Text.isDigit cs = (text, rest)) :
      Lexes ('.' :: cs) (some .number) ('.' :: text) rest
  | ident {c : Char} {cs text rest : List Char} (first : isIdentStart c = true)
      (run : takeRun isIdentPart (c :: cs) = (text, rest)) :
      Lexes (c :: cs) (some .ident) text rest
  | quoted {c : Char} {cs text rest : List Char} (first : c = '\'' ∨ c = '"')
      (body : stringBody c cs = some (text, rest)) :
      Lexes (c :: cs) (some .string) (c :: text) rest
  | operator {c : Char} {cs text rest : List Char}
      (other : ¬ (c = '.' ∧ cs.head?.any Text.isDigit = true))
      (found : operatorFrom (c :: cs) = some (text, rest)) :
      Lexes (c :: cs) (some .op) text rest

theorem operatorFrom_first {c : Char} {cs text rest : List Char}
    (found : operatorFrom (c :: cs) = some (text, rest)) :
    Text.isBlank c = false ∧ Text.isDigit c = false ∧ isIdentStart c = false ∧
      ¬ (c = '\'' ∨ c = '"') := by
  have listed : ∀ o ∈ operators, Text.isBlank (o.headD '=') = false ∧
      Text.isDigit (o.headD '=') = false ∧ isIdentStart (o.headD '=') = false ∧
        ¬ (o.headD '=' = '\'' ∨ o.headD '=' = '"') := by
    decide
  obtain ⟨mem, same⟩ := operatorFrom_eq_some found
  obtain ⟨d, text, rfl⟩ := List.exists_cons_of_ne_nil (operators_ne_nil mem)
  obtain ⟨rfl, -⟩ := List.cons.inj same
  exact listed _ mem

theorem lexeme?_eq_some {cs text rest : List Char} {kind : Option TokenKind} :
    lexeme? cs = some (kind, text, rest) ↔ Lexes cs kind text rest := by
  constructor
  · intro h
    unfold lexeme? at h
    split at h
    · cases h
    rename_i c r
    split at h
    · rename_i first
      cases h
      exact .blank first rfl
    split at h
    · rename_i first
      simp only [Option.some.injEq, Prod.mk.injEq] at h
      obtain ⟨rfl, run⟩ := h
      exact .number first run
    split at h
    · rename_i point
      simp only [Bool.and_eq_true, beq_iff_eq] at point
      obtain ⟨rfl, next⟩ := point
      cases h
      exact .fraction next rfl
    rename_i other
    split at h
    · rename_i first
      cases h
      exact .ident first rfl
    split at h
    · rename_i first
      obtain ⟨⟨a, b⟩, body, same⟩ := Option.map_eq_some_iff.1 h
      cases same
      exact .quoted (by simpa using first) body
    · obtain ⟨⟨a, b⟩, found, same⟩ := Option.map_eq_some_iff.1 h
      cases same
      exact .operator (by simpa using other) found
  · intro h
    cases h with
    | blank first run => rw [lexeme?, if_pos first, run]
    | number first run =>
      simp only [lexeme?, Text.isBlank_of_isDigit first, first, run, Bool.false_eq_true, if_false,
        if_true]
    | fraction next run =>
      have plain : Text.isBlank '.' = false ∧ Text.isDigit '.' = false := by decide
      simp [lexeme?, plain, next, run]
    | @ident c cs _ _ first run =>
      have point : c ≠ '.' := by
        rintro rfl
        exact absurd first (by decide)
      simp [lexeme?, isBlank_of_isIdentStart first, isDigit_of_isIdentStart first, point, first,
        run]
    | @quoted c cs text rest first body =>
      obtain ⟨blank, digit, start, point⟩ : Text.isBlank c = false ∧ Text.isDigit c = false ∧
          isIdentStart c = false ∧ c ≠ '.' := by
        obtain rfl | rfl := first <;> decide
      simp [lexeme?, blank, digit, start, point, first, body]
    | @operator c cs text rest other found =>
      obtain ⟨blank, digit, start, quote⟩ := operatorFrom_first found
      have other' : (c == '.' && cs.head?.any Text.isDigit) = false := by simpa using other
      have quote' : (c == '\'' || c == '"') = false := by simpa using quote
      simp only [lexeme?, blank, digit, other', start, quote', found, Bool.false_eq_true, if_false,
        Option.map_some]

structure Token.Lexed (t : Token) : Prop where
  inside : t.kind ≠ .eof
  number : t.kind = .number → NumberText t.text

theorem takeRun_all (p : Char → Bool) (cs : List Char) : ∀ c ∈ (takeRun p cs).1, p c = true :=
  List.all_eq_true.1 List.all_takeWhile

theorem takeRun_ne_nil {c : Char} (h : Text.isDigit c = true) (cs : List Char) :
    (takeRun Text.isDigit (c :: cs)).1 ≠ [] := by
  simp [takeRun, h]

theorem numberFrom_text {c : Char} (h : Text.isDigit c = true) (cs : List Char) :
    NumberText (numberFrom (c :: cs)).1 := by
  have whole := takeRun_all Text.isDigit (c :: cs)
  have ne := takeRun_ne_nil h cs
  unfold numberFrom
  split
  rename_i ds rest same
  rw [same] at whole ne
  split
  · rename_i d more
    split
    · rename_i digit
      exact .pointed whole (takeRun_ne_nil digit more) (takeRun_all Text.isDigit (d :: more))
    · exact .whole ne whole
  · exact .whole ne whole

theorem Lexes.lexed {cs text rest : List Char} {kind : TokenKind}
    (h : Lexes cs (some kind) text rest) (pos : Nat) : Token.Lexed ⟨kind, text, pos⟩ := by
  cases h with
  | @number c cs _ _ first run =>
    refine ⟨by simp, fun _ => ?_⟩
    have number := numberFrom_text first cs
    rw [run] at number
    exact number
  | @fraction cs _ _ next run =>
    refine ⟨by simp, fun _ => ?_⟩
    obtain ⟨d, more, rfl⟩ : ∃ d more, cs = d :: more := by
      cases cs with
      | nil => cases next
      | cons d more => exact ⟨d, more, rfl⟩
    have none : ∀ c ∈ ([] : List Char), Text.isDigit c = true := by simp
    have ne := takeRun_ne_nil (by simpa using next) more
    have digits := takeRun_all Text.isDigit (d :: more)
    rw [run] at ne digits
    exact .pointed none ne digits
  | ident | quoted | operator => exact ⟨by simp, by simp⟩

theorem numberFrom_append (cs : List Char) : (numberFrom cs).1 ++ (numberFrom cs).2 = cs := by
  have whole := takeRun_append Text.isDigit cs
  unfold numberFrom
  split
  rename_i ds rest same
  rw [same] at whole
  split
  · rename_i d more
    split
    · rw [List.append_assoc, List.cons_append, takeRun_append]
      exact whole
    · exact whole
  · exact whole

theorem stringBody_append {quote : Char} {cs text rest : List Char}
    (h : stringBody quote cs = some (text, rest)) : text ++ rest = cs := by
  fun_induction stringBody quote cs generalizing text rest with
  | case1 => cases h
  | case2 => cases h
  | case3 c cs _ ih =>
    obtain ⟨⟨a, b⟩, inner, same⟩ := Option.map_eq_some_iff.1 h
    cases same
    rw [← ih inner]
    rfl
  | case4 =>
    cases h
    rfl
  | case5 => cases h
  | case6 c cs _ _ _ ih =>
    obtain ⟨⟨a, b⟩, inner, same⟩ := Option.map_eq_some_iff.1 h
    cases same
    rw [← ih inner]
    rfl

theorem takeRun_rebuild {p : Char → Bool} {cs text rest : List Char}
    (run : takeRun p cs = (text, rest)) : text ++ rest = cs := by
  have whole := takeRun_append p cs
  rw [run] at whole
  exact whole

/-- A run takes characters of its class, and stops where there is none. -/
theorem takeRun_eq {p : Char → Bool} {cs text rest : List Char} : takeRun p cs = (text, rest) ↔
    cs = text ++ rest ∧ (∀ c ∈ text, p c = true) ∧ ∀ c ∈ rest.head?, p c = false := by
  constructor
  · intro run
    refine ⟨(takeRun_rebuild run).symm, ?_⟩
    obtain ⟨rfl, rfl⟩ := Prod.mk.inj run
    refine ⟨takeRun_all p cs, fun c first => ?_⟩
    have stops := List.head?_dropWhile_not p cs
    rw [Option.mem_def.1 first] at stops
    simpa using stops
  · rintro ⟨rfl, inside, stops⟩
    have none : takeRun p rest = ([], rest) := by
      cases rest with
      | nil => rfl
      | cons c rest => simp [takeRun, stops c rfl]
    rw [takeRun, Prod.mk.injEq] at none
    simp [takeRun, List.takeWhile_append_of_pos inside, List.dropWhile_append_of_pos inside, none]

theorem lexes_blank {text rest : List Char} (some : text ≠ [])
    (blank : ∀ c ∈ text, Text.isBlank c = true)
    (stops : ∀ c ∈ rest.head?, Text.isBlank c = false) : Lexes (text ++ rest) none text rest := by
  have run := takeRun_eq.2 ⟨rfl, blank, stops⟩
  obtain ⟨c, text, rfl⟩ := List.exists_cons_of_ne_nil some
  exact .blank (blank c List.mem_cons_self) run

/-- A lexeme and what is behind it make up the text. -/
theorem Lexes.append {cs text rest : List Char} {kind : Option TokenKind}
    (h : Lexes cs kind text rest) : text ++ rest = cs := by
  cases h with
  | blank first run => exact takeRun_rebuild run
  | @number c cs _ _ first run =>
    have whole := numberFrom_append (c :: cs)
    rw [run] at whole
    exact whole
  | fraction next run => rw [List.cons_append, takeRun_rebuild run]
  | ident first run => exact takeRun_rebuild run
  | quoted first body => rw [List.cons_append, stringBody_append body]
  | operator other found => exact (operatorFrom_eq_some found).2.symm

/-- Behind a lexeme the text is cut as it would be by itself. -/
theorem tokensFrom_lexeme {cs text rest : List Char} {kind : Option TokenKind}
    (found : lexeme? cs = some (kind, text, rest)) (pos : Nat) :
    tokensFrom pos cs = (tokensFrom (pos + text.length) rest).map
      ((kind.map fun k => ⟨k, text, pos⟩).toList ++ ·) := by
  rw [tokensFrom]
  split
  case h_1 kind' text' rest' found' =>
    rw [found] at found'
    cases found'
    cases tokensFrom (pos + text.length) rest with
    | error e => rfl
    | ok ts => cases kind <;> rfl
  case h_2 found' =>
    rw [found] at found'
    cases found'

/-- One end, and only behind all other tokens. -/
theorem tokensFrom_eq_ok {pos : Nat} {cs : List Char} {ts : List Token}
    (h : tokensFrom pos cs = .ok ts) :
    ∃ body last, ts = body ++ [last] ∧ last.kind = .eof ∧ ∀ t ∈ body, t.Lexed := by
  fun_induction tokensFrom pos cs generalizing ts with
  | case1 => cases h
  | case2 pos cs text rest ts' later kind found _ ih =>
    cases h
    obtain ⟨body, last, rfl, ends, lexed⟩ := ih later
    refine ⟨⟨kind, text, pos⟩ :: body, last, rfl, ends, fun t mem => ?_⟩
    obtain rfl | mem := List.mem_cons.1 mem
    · exact (lexeme?_eq_some.1 found).lexed pos
    · exact lexed t mem
  | case3 pos cs text rest ts' later _ _ ih =>
    cases h
    exact ih later
  | case4 pos =>
    cases h
    exact ⟨[], _, rfl, rfl, by simp⟩
  | case5 => cases h

/-- No token is longer than the text. -/
theorem tokensFrom_length {pos : Nat} {cs : List Char} {ts : List Token}
    (h : tokensFrom pos cs = .ok ts) : ∀ t ∈ ts, t.text.length ≤ cs.length := by
  fun_induction tokensFrom pos cs generalizing ts with
  | case1 => cases h
  | case2 pos cs text rest ts' later kind found _ ih =>
    cases h
    have whole := congrArg List.length (lexeme?_eq_some.1 found).append
    rw [List.length_append] at whole
    intro t mem
    obtain rfl | mem := List.mem_cons.1 mem
    · dsimp only
      omega
    · have := ih later t mem
      omega
  | case3 pos cs text rest ts' later found _ ih =>
    cases h
    have whole := congrArg List.length (lexeme?_eq_some.1 found).append
    rw [List.length_append] at whole
    intro t mem
    have := ih later t mem
    omega
  | case4 pos =>
    cases h
    simp
  | case5 => cases h

end Storyworld.Condition
