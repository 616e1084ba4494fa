import Mathlib.Tactic.SplitIfs
import Storyworld.Json.Reader

/-!
Text that was written between quotes is read as it was. Every character goes through its escape, and
no character of a text is half of a pair, so none of them is joined with its neighbour.
-/

namespace Storyworld.Json

theorem hexValue?_hexDigit {d : Nat} (h : d < 16) : hexValue? (Text.hexDigit d) = some d := by
  have each : ∀ d < 16, hexValue? (Text.hexDigit d) = some d := by decide
  exact each d h

theorem hexText_four (n : Nat) : Text.hexText 4 n = [
    Text.hexDigit (n / 16 / 16 / 16 % 16), Text.hexDigit (n / 16 / 16 % 16),
    Text.hexDigit (n / 16 % 16), Text.hexDigit (n % 16)] := rfl

theorem hexFour?_hexText {n : Nat} (h : n < 65536) :
    hexFour? (Text.hexDigit (n / 16 / 16 / 16 % 16)) (Text.hexDigit (n / 16 / 16 % 16))
      (Text.hexDigit (n / 16 % 16)) (Text.hexDigit (n % 16)) = some n := by
  have digit (m : Nat) : hexValue? (Text.hexDigit (m % 16)) = some (m % 16) :=
    hexValue?_hexDigit (Nat.mod_lt m (by decide))
  simp only [hexFour?, digit, Option.bind_eq_bind, Option.bind_some, Option.pure_def,
    Option.some.injEq]
  omega

/-- A character is escaped by a letter, by its code point, or not at all. -/
theorem escape_cases (c : Char) :
    (∃ e, escape c = ['\\', e] ∧ e ≠ 'u' ∧ plainEscape? e = some c.toNat) ∨
      (escape c = '\\' :: 'u' :: Text.hexText 4 c.toNat ∧ c.toNat < 32) ∨
      (escape c = [c] ∧ c ≠ '"' ∧ c ≠ '\\' ∧ ¬ c.toNat < 32) := by
  unfold escape
  split_ifs with quote backslash newline carriage tab feed back control
  · exact .inl ⟨'"', rfl, by decide, by rw [quote]; rfl⟩
  · exact .inl ⟨'\\', rfl, by decide, by rw [backslash]; rfl⟩
  · exact .inl ⟨'n', rfl, by decide, by rw [newline]; rfl⟩
  · exact .inl ⟨'r', rfl, by decide, by rw [carriage]; rfl⟩
  · exact .inl ⟨'t', rfl, by decide, by rw [tab]; rfl⟩
  · exact .inl ⟨'f', rfl, by decide, by rw [feed]; rfl⟩
  · exact .inl ⟨'b', rfl, by decide, by rw [back]; rfl⟩
  · exact .inr (.inl ⟨rfl, control⟩)
  · exact .inr (.inr ⟨rfl, quote, backslash, control⟩)

/-- An escaped character is read as that character. -/
theorem unquote_escape (start : List Char) (c : Char) {rest : List Char} (more : rest ≠ []) :
    unquote start (escape c ++ rest) =
      (unquote start rest).map fun p => (c.toNat :: p.1, p.2) := by
  obtain ⟨next, others, rfl⟩ := List.exists_cons_of_ne_nil more
  obtain ⟨e, letter, other, value⟩ | ⟨hex, control⟩ | ⟨plain, quote, backslash, visible⟩ :=
    escape_cases c
  · rw [letter, List.cons_append, unquote.eq_def]
    simp [other, value]
  · have value := hexFour?_hexText (n := c.toNat) (by omega)
    rw [hex, hexText_four, List.cons_append, unquote.eq_def]
    simp [value]
  · rw [plain, List.cons_append, unquote.eq_def]
    simp [quote, backslash, visible]

theorem unquote_written (start cs rest : List Char) :
    unquote start (cs.flatMap escape ++ '"' :: rest) = .ok (cs.map Char.toNat, rest) := by
  induction cs with
  | nil =>
    rw [List.flatMap_nil, List.nil_append, unquote.eq_def]
    rfl
  | cons c cs ih =>
    rw [List.flatMap_cons, List.append_assoc, unquote_escape start c (by simp), ih]
    rfl

theorem not_half (c : Char) : isHighHalf c.toNat = false ∧ isLowHalf c.toNat = false := by
  have valid : c.toNat < 0xD800 ∨ 0xDFFF < c.toNat ∧ c.toNat < 0x110000 := c.valid
  simp only [isHighHalf, isLowHalf, Bool.and_eq_false_imp, decide_eq_true_eq,
    decide_eq_false_iff_not]
  omega

theorem joinHalves_chars (cs : List Char) : joinHalves (cs.map Char.toNat) = cs.map some := by
  induction cs with
  | nil => rfl
  | cons c cs ih =>
    obtain ⟨high, low⟩ := not_half c
    cases cs with
    | nil => simp [joinHalves, high, low]
    | cons d ds =>
      rw [List.map_cons, List.map_cons] at ih ⊢
      rw [joinHalves, ih]
      simp [high, low]

theorem charsOf_chars (o : Options) (cs : List Char) : charsOf o (cs.map Char.toNat) = some cs := by
  rw [charsOf, joinHalves_chars]
  induction cs with
  | nil => rfl
  | cons c cs ih => simp [List.mapM_cons, ih]

/-- What was written between quotes is read up to the closing quote. -/
theorem readText_written (o : Options) (start : List Char) (s : String) (rest : List Char) :
    readText o start (s.toList.flatMap escape ++ '"' :: rest) = .ok (s, rest) := by
  simp [readText, unquote_written, charsOf_chars]

end Storyworld.Json
