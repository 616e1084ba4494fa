import Storyworld.Proofs.Condition.Parsing
import Storyworld.Proofs.Condition.Tiling

/-!
Blanks between tokens. The reader never looks at the places of tokens, and each token is cut out of
a text again when blanks stand around it; so a condition means the same however its tokens are
spaced.
-/

namespace Storyworld.Condition

/-- A failure without its place. -/
def Malformed.bare : Malformed → Malformed
  | empty => empty
  | stray s => stray ⟨s.char, 0⟩
  | unexpected text _ => unexpected text 0
  | expected op _ found => expected op 0 found
  | noPropertyName _ => noPropertyName 0

def ParseFailure.bare : ParseFailure → ParseFailure
  | malformed m => malformed m.bare
  | fault f => fault f

/-- A result of reading without places. -/
def Result.bare (r : Result) : Result :=
  (r.map fun p => (p.1, p.2.map Token.bare)).mapError ParseFailure.bare

section

variable {t : Token} {ts : List Token}

@[simp] theorem Token.bare_kind : t.bare.kind = t.kind := rfl

@[simp] theorem Token.bare_text : t.bare.text = t.text := rfl

@[simp] theorem jointAt?_bare (n : Nat) : jointAt? n t.bare = jointAt? n t := rfl

@[simp] theorem unaryAt?_bare : unaryAt? t.bare = unaryAt? t := rfl

@[simp] theorem Token.isOp_bare (c : Char) : t.bare.isOp c = t.isOp c := by
  rw [Token.isOp, Token.isOp, bare_kind, bare_text]

/-- Readings in a row give no places if each of them gives none. -/
theorem bind_bare {α β γ : Type} {f : α → α} {g : β → γ} {x x' : Except ParseFailure α}
    {k : α → Except ParseFailure β} {k' : α → Except ParseFailure γ}
    (hx : x' = (x.map f).mapError ParseFailure.bare)
    (hk : ∀ a, k' (f a) = ((k a).map g).mapError ParseFailure.bare) :
    x' >>= k' = ((x >>= k).map g).mapError ParseFailure.bare := by
  rw [hx]
  cases x with
  | error e => rfl
  | ok a => exact hk a

theorem expectOp_bare (op : Char) : expectOp op (ts.map Token.bare) =
    ((expectOp op ts).map (·.map Token.bare)).mapError ParseFailure.bare := by
  cases ts with
  | nil => rfl
  | cons t ts =>
    simp only [expectOp, List.map_cons, Token.isOp_bare]
    by_cases spelt : t.isOp op = true
    · rw [if_pos spelt, if_pos spelt]
      rfl
    · rw [if_neg spelt, if_neg spelt]
      rfl

theorem numberLiteral_bare (text : List Char) :
    numberLiteral text = ((numberLiteral text).map id).mapError ParseFailure.bare := by
  unfold numberLiteral
  split
  · rfl
  · cases Decimal.readWhole text <;> rfl

/-- The reader does not look at places. -/
theorem read_bare (fuel : Nat) (goal : Goal) (ts : List Token) :
    read fuel goal (ts.map Token.bare) = Result.bare (read fuel goal ts) := by
  induction fuel generalizing goal ts with
  | zero => rfl
  | succ fuel ih =>
    cases ts with
    | nil => rfl
    | cons t ts =>
      cases goal with
      | level n =>
        simp only [read, List.map_cons]
        split
        · exact ih .operand (t :: ts)
        · exact bind_bare (ih _ (t :: ts)) fun p => ih _ p.2
      | following n left =>
        simp only [read, List.map_cons, jointAt?_bare]
        split
        · exact bind_bare (ih _ ts) fun p => ih _ p.2
        · rfl
      | operand =>
        simp only [read, List.map_cons, unaryAt?_bare]
        split
        · exact bind_bare (ih _ ts) fun p => rfl
        · exact bind_bare (ih _ (t :: ts)) fun p => ih _ p.2
      | accesses target =>
        simp only [read, List.map_cons, Token.isOp_bare]
        by_cases dot : t.isOp '.' = true
        · rw [if_pos dot, if_pos dot]
          cases ts with
          | nil => rfl
          | cons word ts =>
            by_cases named : word.kind = .ident
            · have named' : word.bare.kind = .ident := named
              simp only [List.map_cons, if_pos named, if_pos named']
              exact ih _ ts
            · have named' : ¬ word.bare.kind = .ident := named
              simp only [List.map_cons, if_neg named, if_neg named']
              rfl
        · rw [if_neg dot, if_neg dot]
          by_cases bracket : t.isOp '[' = true
          · rw [if_pos bracket, if_pos bracket]
            refine bind_bare (ih _ ts) fun p => ?_
            exact bind_bare (expectOp_bare _) fun us => ih _ us
          · rw [if_neg bracket, if_neg bracket]
            rfl
      | primary =>
        simp only [read, List.map_cons, Token.bare_kind, Token.bare_text, Token.isOp_bare]
        split
        case h_1 => exact bind_bare (numberLiteral_bare t.text) fun v => rfl
        case h_2 => rfl
        case h_3 => split <;> rfl
        case h_4 =>
          by_cases parenthesis : t.isOp '(' = true
          · rw [if_pos parenthesis, if_pos parenthesis]
            refine bind_bare (ih _ ts) fun p => ?_
            exact bind_bare (expectOp_bare _) fun us => rfl
          · rw [if_neg parenthesis, if_neg parenthesis]
            rfl

theorem ofTokens_bare (ts : List Token) :
    ofTokens (ts.map Token.bare) = (ofTokens ts).mapError ParseFailure.bare := by
  have depth : depthFor (ts.map Token.bare) = depthFor ts := by
    rw [depthFor, depthFor, List.length_map]
  have row : ofTokens (ts.map Token.bare) =
      ((ofTokens ts).map id).mapError ParseFailure.bare := by
    unfold ofTokens
    rw [depth]
    refine bind_bare (read_bare _ _ ts) fun p => ?_
    obtain ⟨x, rest⟩ := p
    cases rest with
    | nil => rfl
    | cons t rest =>
      by_cases ends : t.kind = .eof
      · have ends' : t.bare.kind = .eof := ends
        simp only [List.map_cons, if_pos ends, if_pos ends']
        rfl
      · have ends' : ¬ t.bare.kind = .eof := ends
        simp only [List.map_cons, if_neg ends, if_neg ends']
        rfl
  rw [row]
  cases ofTokens ts <;> rfl

/-- Tokens that differ in nothing but their places are read alike. -/
theorem ofTokens_of_bare {us : List Token} (same : us.map Token.bare = ts.map Token.bare) :
    (ofTokens us).mapError ParseFailure.bare = (ofTokens ts).mapError ParseFailure.bare := by
  rw [← ofTokens_bare, same, ofTokens_bare]

end

/-- A text with tokens is blank if the mark of the end is its only one. -/
theorem blank_of_only_end {cs : List Char} {last : Token} (cut : tokenize cs = .ok [last]) :
    ∀ c ∈ cs, Text.isBlank c = true := by
  have tiles := tokenize_tiles cut
  obtain ⟨body, same, -⟩ := tiles.ended
  obtain ⟨-, same⟩ := List.append_inj' (show [] ++ [last] = _ from same) rfl
  obtain rfl := List.singleton_inj.1 same
  intro c mem
  obtain ⟨i, here⟩ := List.mem_iff_getElem?.1 mem
  refine tiles.outside i c (Nat.zero_le i) here fun t only covers => ?_
  obtain rfl := List.mem_singleton.1 only
  exact Nat.lt_irrefl _ (Nat.lt_of_le_of_lt covers.1 covers.2)

theorem parse_eq_of_tokens {s : String} {ts : List Token} (cut : tokenize s.toList = .ok ts) :
    parse s = if ts.length = 1 then .error .empty else ofTokens ts := by
  by_cases blank : ∀ c ∈ s.toList, Text.isBlank c = true
  · obtain ⟨last, -, only⟩ := tokensFrom_blank blank 0
    rw [tokenize, only] at cut
    cases cut
    exact parse_of_blank blank
  · have more : ts.length ≠ 1 := by
      intro one
      obtain ⟨last, rfl⟩ := List.length_eq_one_iff.1 one
      exact blank (blank_of_only_end cut)
    rw [parse_of_not_blank blank, cut, if_neg more]
    rfl

/-- Blanks that part two tokens. -/
structure Gap where
  chars : List Char
  ne_nil : chars ≠ []
  blank : ∀ c ∈ chars, Text.isBlank c = true

theorem Gap.first (gap : Gap) (more : List Char) :
    ∀ c ∈ (gap.chars ++ more).head?, Text.isBlank c = true := by
  intro c first
  rw [List.head?_append_of_ne_nil _ gap.ne_nil] at first
  exact gap.blank c (List.mem_of_mem_head? first)

/-- Texts with a gap between each and the next. -/
def spaced (gap : Nat → Gap) : List (List Char) → List Char
  | [] => []
  | [text] => text
  | text :: next :: texts =>
    text ++ ((gap 0).chars ++ spaced (fun n => gap (n + 1)) (next :: texts))

/-- The texts of the tokens, the mark of the end aside. -/
def textsOf (ts : List Token) : List (List Char) :=
  (ts.filter fun t => t.kind ≠ .eof).map Token.text

/-- A condition with its tokens spaced anew. -/
def respaced (gap : Nat → Gap) (ts : List Token) : String :=
  String.ofList (spaced gap (textsOf ts))

theorem Lexes.alone {cs text rest : List Char} {kind : Option TokenKind}
    (h : Lexes cs kind text rest) : Lexes text kind text [] := by
  have whole : Lexes (text ++ ([] ++ rest)) kind text ([] ++ rest) := by
    rw [List.nil_append, h.append]
    exact h
  have short := whole.cut
  rwa [List.append_nil] at short

theorem Cuts.alone {cs rest : List Char} {ts : List Token} (h : Cuts cs ts rest) :
    ∀ t ∈ ts, Lexes t.text (some t.kind) t.text [] := by
  induction h with
  | done => simp
  | blank _ _ ih => exact ih
  | token found _ ih => exact List.forall_mem_cons.2 ⟨(lexeme?_eq_some.1 found).alone, ih⟩

/-- No token begins with a blank. -/
theorem Lexes.plain {cs text rest : List Char} {kind : TokenKind}
    (h : Lexes cs (some kind) text rest) : ∀ c ∈ cs.head?, Text.isBlank c = false := by
  rintro c first
  cases h with
  | number digit =>
    cases first
    exact Text.isBlank_of_isDigit digit
  | fraction =>
    cases first
    decide
  | ident start =>
    cases first
    exact isBlank_of_isIdentStart start
  | quoted quote =>
    cases first
    obtain rfl | rfl := quote <;> decide
  | operator _ found =>
    cases first
    exact (operatorFrom_first found).1

theorem head?_spaced {gap : Nat → Gap} {text : List Char} {texts : List (List Char)}
    (some : text ≠ []) : (spaced gap (text :: texts)).head? = text.head? := by
  cases texts with
  | nil => rfl
  | cons next texts => rw [spaced, List.head?_append_of_ne_nil _ some]

/-- Spaced tokens are cut out again. -/
theorem cuts_spaced {ts : List Token} (alone : ∀ t ∈ ts, Lexes t.text (some t.kind) t.text [])
    (gap : Nat → Gap) : Cuts (spaced gap (ts.map Token.text)) (ts.map Token.bare) [] := by
  induction ts generalizing gap with
  | nil => exact .done
  | cons t ts ih =>
    obtain ⟨here, later⟩ := List.forall_mem_cons.1 alone
    cases ts with
    | nil => exact .token (lexeme?_eq_some.2 here) .done
    | cons u ts =>
      obtain ⟨next, -⟩ := List.forall_mem_cons.1 later
      have rest := ih later fun n => gap (n + 1)
      have ends (more : List Char) : ∀ c ∈ ((gap 0).chars ++ more).head?, EndsToken c :=
        fun c first => .of_blank ((gap 0).first more c first)
      have token (more : List Char) := here.before (ends more) (by simp)
      have stops : ∀ c ∈ (spaced (fun n => gap (n + 1)) ((u :: ts).map Token.text)).head?,
          Text.isBlank c = false := by
        rw [List.map_cons, head?_spaced next.ne_nil]
        exact next.plain
      have blank := lexes_blank (gap 0).ne_nil (gap 0).blank stops
      exact .token (lexeme?_eq_some.2 (token _)) (.blank (lexeme?_eq_some.2 blank) rest)

theorem textsOf_body {body : List Token} {last : Token} (inside : ∀ t ∈ body, t.kind ≠ .eof)
    (ends : last.kind = .eof) : textsOf (body ++ [last]) = body.map Token.text := by
  have kept : body.filter (fun t => t.kind ≠ .eof) = body :=
    List.filter_eq_self.2 fun t mem => decide_eq_true (inside t mem)
  rw [textsOf, List.filter_append, kept]
  simp [ends]

/-- A condition whose tokens are spaced anew has the same tokens, but for their places. -/
theorem tokenize_respaced {s : String} {ts : List Token} (cut : tokenize s.toList = .ok ts)
    (gap : Nat → Gap) :
    ∃ us, tokenize (respaced gap ts).toList = .ok us ∧ us.map Token.bare = ts.map Token.bare := by
  obtain ⟨body, rfl, inside⟩ := (tokenize_tiles cut).ended
  obtain ⟨body', last', same, cuts⟩ := Cuts.of_tokensFrom cut
  obtain ⟨rfl, -⟩ := List.append_inj' same rfl
  have alone : ∀ t ∈ body, Lexes t.text (some t.kind) t.text [] :=
    fun t mem => cuts.alone t.bare (List.mem_map_of_mem mem)
  rw [respaced, String.toList_ofList, textsOf_body inside rfl]
  obtain ⟨again, last, cut', -, bare⟩ := (cuts_spaced alone gap).tokensFrom 0
  obtain ⟨again', same', -⟩ := (tokenize_tiles cut').ended
  obtain ⟨-, ends⟩ := List.append_inj' same' rfl
  refine ⟨_, cut', ?_⟩
  rw [List.map_append, List.map_append, bare, ends]
  rfl

/-- Each gap is one blank wider than the one before it. -/
def widening (n : Nat) : Gap where
  chars := List.replicate (n + 1) ' '
  ne_nil := by simp
  blank := by
    intro c mem
    rw [List.eq_of_mem_replicate mem]
    decide

end Storyworld.Condition
