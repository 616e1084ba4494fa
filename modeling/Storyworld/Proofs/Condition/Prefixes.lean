import Storyworld.Proofs.Condition.Seams
import Storyworld.Proofs.Results

/-!
Beginnings of texts. A lexeme stays the same wherever the text is broken off behind it, and a text
that begins with a lexeme still does when more is written behind it. So a text is cut in the same
way as its beginnings, up to where they end.
-/

namespace Storyworld.Text

theorem stripLeading_eq_some_iff {o cs rest : List Char} :
    stripLeading o cs = some rest ↔ cs = o ++ rest := by
  refine ⟨stripLeading_eq_some, ?_⟩
  rintro rfl
  induction o with
  | nil => rfl
  | cons x o ih => simpa [stripLeading] using ih

theorem stripLeading_eq_none {o cs : List Char} : stripLeading o cs = none ↔ ¬ o <+: cs := by
  rw [Option.eq_none_iff_forall_ne_some]
  constructor
  · rintro apart ⟨rest, same⟩
    exact apart rest (stripLeading_eq_some_iff.2 same.symm)
  · intro apart rest found
    exact apart ⟨rest, (stripLeading_eq_some found).symm⟩

end Storyworld.Text

namespace Storyworld.Condition

variable {cs text rest more : List Char}

theorem takeRun_first {p : Char → Bool} (run : takeRun p cs = (text, rest))
    (first : cs.head?.any p = true) : text.head?.any p = true := by
  obtain ⟨rfl, -, stops⟩ := takeRun_eq.1 run
  cases text with
  | nil =>
    obtain ⟨c, mem, inside⟩ := (Option.any_eq_true _ _).1 first
    rw [stops c mem] at inside
    cases inside
  | cons c text => exact first

/-- A run is the same wherever the text is broken off behind it. -/
theorem takeRun_cut {p : Char → Bool} (text mid : List Char)
    (run : takeRun p (text ++ (mid ++ more)) = (text, mid ++ more)) :
    takeRun p (text ++ mid) = (text, mid) := by
  obtain ⟨-, inside, stops⟩ := takeRun_eq.1 run
  refine takeRun_eq.2 ⟨rfl, inside, fun c first => ?_⟩
  cases mid with
  | nil => cases first
  | cons d mid => exact stops c first

/-- A point with a digit behind it, with which a number goes on. -/
def Pointed (cs : List Char) : Prop :=
  ∃ d more, cs = '.' :: d :: more ∧ Text.isDigit d = true

theorem numberFrom_pointed {d : Char} {whole : List Char}
    (run : takeRun Text.isDigit cs = (whole, '.' :: d :: more)) (digit : Text.isDigit d = true) :
    numberFrom cs = (whole ++ '.' :: (takeRun Text.isDigit (d :: more)).1,
      (takeRun Text.isDigit (d :: more)).2) := by
  simp [numberFrom, run, digit]

theorem numberFrom_whole (run : takeRun Text.isDigit cs = (text, rest)) (plain : ¬ Pointed rest) :
    numberFrom cs = (text, rest) := by
  unfold numberFrom
  rw [run]
  dsimp only
  split
  · rename_i d more
    exact if_neg fun digit => plain ⟨d, more, rfl, digit⟩
  · rfl

theorem numberFrom_cut (text mid : List Char)
    (run : numberFrom (text ++ (mid ++ more)) = (text, mid ++ more)) :
    numberFrom (text ++ mid) = (text, mid) := by
  rcases digits : takeRun Text.isDigit (text ++ (mid ++ more)) with ⟨whole, behind⟩
  -- the characters that make a number go on are its own, or else they do not stand there at all
  by_cases point : Pointed behind
  · obtain ⟨d, tail, rfl, digit⟩ := point
    rw [numberFrom_pointed digits digit] at run
    rcases fraction : takeRun Text.isDigit (d :: tail) with ⟨f, r⟩
    rw [fraction, Prod.mk.injEq] at run
    obtain ⟨rfl, rfl⟩ := run
    obtain ⟨-, front, -⟩ := takeRun_eq.1 digits
    cases f with
    | nil => cases takeRun_first fraction digit
    | cons e f =>
      obtain ⟨rfl, rfl⟩ := List.cons.inj (takeRun_eq.1 fraction).1
      have short : takeRun Text.isDigit (d :: f ++ mid) = (d :: f, mid) :=
        takeRun_cut _ mid fraction
      have point : Text.isDigit '.' = false := by decide
      have start : takeRun Text.isDigit (whole ++ '.' :: d :: f ++ mid) =
          (whole, '.' :: d :: (f ++ mid)) :=
        takeRun_eq.2 ⟨by simp, front, by simpa using point⟩
      rw [numberFrom_pointed start digit, ← List.cons_append, short]
  · rw [numberFrom_whole digits point, Prod.mk.injEq] at run
    obtain ⟨rfl, rfl⟩ := run
    refine numberFrom_whole (takeRun_cut _ _ digits) ?_
    rintro ⟨d, tail, rfl, digit⟩
    exact point ⟨d, tail ++ more, rfl, digit⟩

/-- The operator that is listed first among those that a text begins with. -/
theorem operatorFrom_eq_some_iff : operatorFrom cs = some (text, rest) ↔
    cs = text ++ rest ∧
      ∃ front back, operators = front ++ text :: back ∧ ∀ o ∈ front, ¬ o <+: cs := by
  unfold operatorFrom
  rw [List.findSome?_eq_some_iff]
  constructor
  · rintro ⟨front, o, back, listed, found, earlier⟩
    obtain ⟨r, strip, same⟩ := Option.map_eq_some_iff.1 found
    cases same
    refine ⟨Text.stripLeading_eq_some strip, front, back, listed, fun o mem => ?_⟩
    exact Text.stripLeading_eq_none.1 (Option.map_eq_none_iff.1 (earlier o mem))
  · rintro ⟨same, front, back, listed, earlier⟩
    refine ⟨front, text, back, listed, ?_, fun o mem => ?_⟩
    · rw [Text.stripLeading_eq_some_iff.2 same]
      rfl
    · rw [Text.stripLeading_eq_none.2 (earlier o mem)]
      rfl

theorem operatorFrom_eq_none : operatorFrom cs = none ↔ ∀ o ∈ operators, ¬ o <+: cs := by
  simp [operatorFrom, List.findSome?_eq_none_iff, Text.stripLeading_eq_none]

theorem operatorFrom_cut (text mid : List Char)
    (found : operatorFrom (text ++ (mid ++ more)) = some (text, mid ++ more)) :
    operatorFrom (text ++ mid) = some (text, mid) := by
  obtain ⟨-, front, back, listed, earlier⟩ := operatorFrom_eq_some_iff.1 found
  refine operatorFrom_eq_some_iff.2 ⟨rfl, front, back, listed, fun o mem starts => ?_⟩
  refine earlier o mem (starts.trans ?_)
  rw [← List.append_assoc]
  exact List.prefix_append _ _

theorem Lexes.ne_nil {kind : Option TokenKind} (h : Lexes cs kind text rest) : text ≠ [] := by
  rintro rfl
  have shorter := lexeme?_rest_length (lexeme?_eq_some.2 h)
  rw [← h.append] at shorter
  exact Nat.lt_irrefl _ shorter

/-- A lexeme is the same wherever the text is broken off behind it. -/
theorem Lexes.cut {kind : Option TokenKind} {text mid : List Char}
    (h : Lexes (text ++ (mid ++ more)) kind text (mid ++ more)) :
    Lexes (text ++ mid) kind text mid := by
  obtain ⟨c, text, rfl⟩ := List.exists_cons_of_ne_nil h.ne_nil
  rw [List.cons_append] at h ⊢
  cases h with
  | blank first run => exact .blank first (takeRun_cut (c :: text) mid run)
  | number first run => exact .number first (numberFrom_cut (c :: text) mid run)
  | fraction next run =>
    exact .fraction (head?_any_append (takeRun_first run next)) (takeRun_cut text mid run)
  | ident first run => exact .ident first (takeRun_cut (c :: text) mid run)
  | quoted first body => exact .quoted first (stringBody_front (stringBody_proper first) body mid)
  | operator other found =>
    refine .operator ?_ (operatorFrom_cut (c :: text) mid found)
    rintro ⟨point, next⟩
    refine other ⟨point, ?_⟩
    rw [← List.append_assoc]
    exact head?_any_append next

/-- Where a text begins with a lexeme, a longer one does. -/
theorem exists_lexes_append {kind : Option TokenKind} (h : Lexes cs kind text rest)
    (more : List Char) : ∃ kind' text' rest', Lexes (cs ++ more) kind' text' rest' := by
  cases h with
  | blank first => exact ⟨_, _, _, .blank first rfl⟩
  | number first => exact ⟨_, _, _, .number first rfl⟩
  | fraction next => exact ⟨_, _, _, .fraction (head?_any_append next) rfl⟩
  | ident first => exact ⟨_, _, _, .ident first rfl⟩
  | quoted first body =>
    exact ⟨_, _, _, .quoted first (stringBody_before (stringBody_proper first) body more)⟩
  | @operator c cs _ _ other found =>
    by_cases fraction : c = '.' ∧ (cs ++ more).head?.any Text.isDigit = true
    · obtain ⟨rfl, next⟩ := fraction
      exact ⟨_, _, _, .fraction next rfl⟩
    · obtain ⟨mem, same⟩ := operatorFrom_eq_some found
      have some : operatorFrom (c :: cs ++ more) ≠ none := by
        rw [Ne, operatorFrom_eq_none, same, List.append_assoc]
        exact fun none => none text mem (List.prefix_append _ _)
      obtain ⟨⟨o, tail⟩, longer⟩ := Option.ne_none_iff_exists'.1 some
      exact ⟨_, _, _, .operator fraction longer⟩

theorem lexeme?_eq_none_of_append (stray : lexeme? (cs ++ more) = none) : lexeme? cs = none := by
  rw [Option.eq_none_iff_forall_ne_some] at stray ⊢
  rintro ⟨kind, text, rest⟩ found
  obtain ⟨kind', text', rest', longer⟩ := exists_lexes_append (lexeme?_eq_some.1 found) more
  exact stray _ (lexeme?_eq_some.2 longer)

theorem Cuts.suffix {ts : List Token} (h : Cuts cs ts rest) : ∃ front, cs = front ++ rest := by
  induction h with
  | done => exact ⟨[], rfl⟩
  | blank found _ ih | token found _ ih =>
    obtain ⟨front, rfl⟩ := ih
    exact ⟨_ ++ front, by rw [List.append_assoc, (lexeme?_eq_some.1 found).append]⟩

/-- The lexemes of a text are those of a beginning that ends behind them. -/
theorem Lexes.cut_behind {kind : Option TokenKind} {front mid behind : List Char} {ts : List Token}
    (h : Lexes (front ++ more) kind text behind) (later : Cuts behind ts (mid ++ more)) :
    ∃ short, behind = short ++ more ∧ Lexes front kind text short := by
  obtain ⟨between, rfl⟩ := later.suffix
  have same := h.append
  rw [← List.append_assoc, ← List.append_assoc] at same
  obtain rfl := List.append_cancel_right same
  rw [List.append_assoc, List.append_assoc, ← List.append_assoc between] at h
  exact ⟨between ++ mid, by rw [List.append_assoc], List.append_assoc text between mid ▸ h.cut⟩

theorem Cuts.cut {front mid : List Char} {ts : List Token}
    (h : Cuts (front ++ more) ts (mid ++ more)) : Cuts front ts mid := by
  generalize whole : front ++ more = cs, place : mid ++ more = rest at h
  induction h generalizing front with
  | done =>
    rw [← place] at whole
    rw [List.append_cancel_right whole]
    exact .done
  | blank found later ih =>
    subst whole place
    obtain ⟨short, rfl, lexes⟩ := (lexeme?_eq_some.1 found).cut_behind later
    exact .blank (lexeme?_eq_some.2 lexes) (ih rfl rfl)
  | token found later ih =>
    subst whole place
    obtain ⟨short, rfl, lexes⟩ := (lexeme?_eq_some.1 found).cut_behind later
    exact .token (lexeme?_eq_some.2 lexes) (ih rfl rfl)

/-- What is behind the first lexemes of a text has tokens if the text has. -/
theorem Cuts.rest_tokens {ts us : List Token} {pos : Nat} (h : Cuts cs ts rest)
    (cut : Condition.tokensFrom pos cs = .ok us) :
    ∃ pos' us', Condition.tokensFrom pos' rest = .ok us' := by
  induction h generalizing pos us with
  | done => exact ⟨pos, us, cut⟩
  | blank found _ ih | token found _ ih =>
    rw [tokensFrom_lexeme found] at cut
    obtain ⟨vs, behind, -⟩ := map_eq_ok.1 cut
    exact ih behind

theorem tokensFrom_stray {c : Char} (stray : lexeme? (c :: cs) = none) (pos : Nat) :
    tokensFrom pos (c :: cs) = .error ⟨c, pos⟩ := by
  rw [tokensFrom]
  split
  case h_1 found =>
    rw [stray] at found
    cases found
  case h_2 => rfl

/-- A text that has no tokens is cut up to a place where no lexeme begins. -/
theorem tokensFrom_eq_error {pos : Nat} {e : Stray} (h : tokensFrom pos cs = .error e) :
    ∃ front behind ts, cs = front ++ e.char :: behind ∧ e.pos = pos + front.length ∧
      Cuts cs ts (e.char :: behind) ∧ lexeme? (e.char :: behind) = none := by
  fun_induction tokensFrom pos cs with
  | case1 pos cs kind text rest found e' later ih =>
    cases h
    obtain ⟨front, behind, ts, same, place, cuts, stray⟩ := ih later
    refine ⟨text ++ front, behind, ?_⟩
    rw [List.append_assoc, ← same, List.length_append, place, Nat.add_assoc]
    cases kind with
    | none => exact ⟨ts, (lexeme?_eq_some.1 found).append.symm, rfl, .blank found cuts, stray⟩
    | some kind => exact ⟨_, (lexeme?_eq_some.1 found).append.symm, rfl, .token found cuts, stray⟩
  | case2 => cases h
  | case3 => cases h
  | case4 => cases h
  | case5 pos c behind stray =>
    cases h
    exact ⟨[], behind, [], rfl, rfl, .done, stray⟩

section

variable {c : Char} {front behind longer : List Char} {ts us : List Token}

theorem tokenize_before_stray (cuts : Cuts (front ++ c :: behind) ts (c :: behind)) :
    ∃ us, tokenize front = .ok us := by
  have whole : Cuts (front ++ c :: behind) ts ([] ++ c :: behind) := cuts
  have short : Cuts front ts [] := whole.cut
  obtain ⟨body, last, cut, -⟩ := short.tokensFrom 0
  exact ⟨_, cut⟩

/-- A beginning with tokens ends in front of the first place where no lexeme begins. -/
theorem length_le_of_tokenize (cuts : Cuts (front ++ c :: behind) ts (c :: behind))
    (stray : lexeme? (c :: behind) = none) (starts : longer <+: front ++ c :: behind)
    (cut : tokenize longer = .ok us) : longer.length ≤ front.length := by
  refine Nat.le_of_not_lt fun beyond => ?_
  -- behind the stray place the longer text would go on with a lexeme, and so would the whole one
  obtain ⟨mid, rfl⟩ := List.prefix_of_prefix_length_le (List.prefix_append _ _) starts
    (Nat.le_of_lt beyond)
  obtain ⟨more, same⟩ := starts
  rw [List.append_assoc, List.append_cancel_left_eq] at same
  rw [← same] at cuts stray
  rw [← List.append_assoc] at cuts
  obtain ⟨pos, vs, goes⟩ := cuts.cut.rest_tokens cut
  obtain ⟨d, mid, rfl⟩ : ∃ d tail, mid = d :: tail :=
    List.exists_cons_of_ne_nil fun nothing => by simp [nothing] at beyond
  rw [tokensFrom_stray (lexeme?_eq_none_of_append stray)] at goes
  cases goes

end

end Storyworld.Condition
