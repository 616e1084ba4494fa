import Storyworld.Proofs.Condition.Grammar

/-!
The texts of number tokens and their values. Every such text has a value, and the parser gives that
value unless the number is whole and has too many digits.
-/

namespace Storyworld.Text

theorem digitOf?_isSome {n first : Nat} (h : (digitOf? n first).isSome) :
    first ≤ n ∧ n ≤ first + 9 := by
  unfold digitOf? at h
  split at h
  case isTrue inside => simpa using inside
  case isFalse => simp at h

theorem isDigit_near_zero {c : Char} (h : isDigit c = true) :
    ∃ z ∈ zeros, z ≤ c.toNat ∧ c.toNat ≤ z + 9 := by
  unfold isDigit digitValue? at h
  split at h
  · exact ⟨48, by decide, digitOf?_isSome h⟩
  · obtain ⟨z, mem, near⟩ := List.findSome?_isSome_iff.1 h
    exact ⟨z, mem, digitOf?_isSome near⟩

theorem isBlank_of_isDigit {c : Char} (h : isDigit c = true) : isBlank c = false := by
  have apart : ∀ z ∈ zeros, ∀ s ∈ blankSpans, z + 9 < s.1 ∨ s.2 < z := by decide
  obtain ⟨z, mem, low, high⟩ := isDigit_near_zero h
  rw [Bool.eq_false_iff]
  intro blank
  obtain ⟨s, span, first, last⟩ := (inSpans_iff _ _).1 blank
  have := apart z mem s span
  omega

theorem isAsciiBlank_of_isDigit {c : Char} (h : isDigit c = true) : isAsciiBlank c = false := by
  have apart : ∀ z ∈ zeros, 32 < z := by decide
  obtain ⟨z, mem, low, high⟩ := isDigit_near_zero h
  have := apart z mem
  simp only [isAsciiBlank, Bool.or_eq_false_iff, beq_eq_false_iff_ne, Bool.and_eq_false_imp,
    decide_eq_true_eq, decide_eq_false_iff_not]
  omega

theorem trimBy_of_none {p : Char → Bool} {cs : List Char} (h : ∀ c ∈ cs, p c = false) :
    trimBy p cs = cs := by
  have front : ∀ {ds : List Char}, (∀ c ∈ ds, p c = false) → ds.dropWhile p = ds := by
    intro ds none
    cases ds with
    | nil => rfl
    | cons d ds => simp [none d (by simp)]
  unfold trimBy trimEnd
  rw [front h, front (by simpa using h), List.reverse_reverse]

end Storyworld.Text

namespace Storyworld.Decimal

theorem toNat_of_isDigit {c : Char} (h : c.isDigit = true) : 48 ≤ c.toNat ∧ c.toNat ≤ 57 := by
  simpa [Char.isDigit, UInt32.le_iff_toNat_le] using h

theorem digitValue?_plain {c : Char} (h : c.isDigit = true) :
    Text.digitValue? c = some (c.toNat - 48) := by
  have range := toNat_of_isDigit h
  have ascii : c.toNat < 128 := by omega
  have near : 48 ≤ c.toNat ∧ c.toNat ≤ 48 + 9 := by omega
  simp [Text.digitValue?, Text.digitOf?, ascii, near]

theorem isDigit_of_plain {c : Char} (h : c.isDigit = true) : Text.isDigit c = true := by
  simp [Text.isDigit, digitValue?_plain h]

end Storyworld.Decimal

namespace Storyworld.Condition

open Decimal

inductive NumberText : List Char → Prop where
  | whole {ds : List Char} (ne : ds ≠ []) (digits : ∀ c ∈ ds, Text.isDigit c = true) :
      NumberText ds
  | pointed {ds fs : List Char} (digits : ∀ c ∈ ds, Text.isDigit c = true) (ne : fs ≠ [])
      (more : ∀ c ∈ fs, Text.isDigit c = true) : NumberText (ds ++ '.' :: fs)

theorem not_mem_of_digits {ds : List Char} {c : Char} (digits : ∀ c ∈ ds, Text.isDigit c = true)
    (h : Text.isDigit c = false) : c ∉ ds := by
  intro mem
  rw [digits c mem] at h
  cases h

theorem NumberText.isDigit_or_point {text : List Char} (h : NumberText text) :
    ∀ c ∈ text, Text.isDigit c = true ∨ c = '.' := by
  intro c mem
  cases h with
  | whole _ digits => exact .inl (digits c mem)
  | pointed digits _ more =>
    simp only [List.mem_append, List.mem_cons] at mem
    obtain mem | rfl | mem := mem
    · exact .inl (digits c mem)
    · exact .inr rfl
    · exact .inl (more c mem)

theorem NumberText.trimNumber {text : List Char} (h : NumberText text) :
    trimNumber text = text := by
  have plain : ∀ c ∈ text, Text.isAsciiBlank c = false := by
    intro c mem
    obtain digit | rfl := h.isDigit_or_point c mem
    · exact Text.isAsciiBlank_of_isDigit digit
    · decide
  have wide : ∀ c ∈ text, Text.isBlank c = false := by
    intro c mem
    obtain digit | rfl := h.isDigit_or_point c mem
    · exact Text.isBlank_of_isDigit digit
    · decide
  unfold Decimal.trimNumber
  split
  · exact Text.trimBy_of_none plain
  · exact Text.trimBy_of_none wide

theorem digitValues_length {ds : List Char} (digits : ∀ c ∈ ds, Text.isDigit c = true) :
    (digitValues ds).length = ds.length := by
  induction ds with
  | nil => rfl
  | cons d ds ih =>
    have first := digits d (by simp)
    obtain ⟨n, value⟩ := Option.isSome_iff_exists.1 first
    have rest := ih fun c mem => digits c (by simp [mem])
    simp only [digitValues] at rest
    simp [digitValues, value, rest]

theorem digitsOf?_digits {ds : List Char} (ne : ds ≠ [])
    (digits : ∀ c ∈ ds, Text.isDigit c = true) : digitsOf? ds = some (digitValues ds) := by
  induction ds with
  | nil => exact absurd rfl ne
  | cons c cs ih =>
    obtain ⟨n, value⟩ := Option.isSome_iff_exists.1 (digits c (by simp))
    cases cs with
    | nil => simp [digitsOf?, digitValues, value]
    | cons d cs =>
      have rest := ih (by simp) fun c mem => digits c (List.mem_cons_of_mem _ mem)
      have plain : d ≠ '_' := by
        rintro rfl
        exact absurd (digits '_' (by simp)) (by decide)
      rw [digitsOf?, rest, value]
      · simp [digitValues, value]
      · simp
      · simp [plain]

/-- Text without a sign in front. -/
theorem splitSign_plain {cs : List Char} (minus : '-' ∉ cs) (plus : '+' ∉ cs) :
    splitSign cs = (false, cs) := by
  unfold splitSign
  split
  case h_1 => simp at minus
  case h_2 => simp at plus
  case h_3 => rfl

theorem readWhole_digits {ds : List Char} (ne : ds ≠ [])
    (digits : ∀ c ∈ ds, Text.isDigit c = true) :
    readWhole ds = if digitLimit < ds.length then .error .tooManyDigits
      else .ok (some (valueOf (digitValues ds))) := by
  unfold readWhole
  rw [(NumberText.whole ne digits).trimNumber, splitSign_plain
    (not_mem_of_digits digits (by decide)) (not_mem_of_digits digits (by decide))]
  simp [digitsOf?_digits ne digits, digitValues_length digits]

theorem plainDigits_digits {ds : List Char} (digits : ∀ c ∈ ds, Text.isDigit c = true) :
    ∀ c ∈ plainDigits ds, c.isDigit = true := by
  have plain : ∀ d < 10, (Char.ofNat (48 + d)).isDigit = true := by decide
  intro c mem
  obtain ⟨a, memA, rfl⟩ := List.mem_map.1 mem
  obtain ⟨n, value⟩ := Option.isSome_iff_exists.1 (digits a memA)
  rw [value]
  exact plain n (Nat.lt_succ_of_le (Text.digitValue?_le_nine value))

theorem dropUnderscores_of_not_mem {cs : List Char} (h : '_' ∉ cs) (b : Bool) :
    dropUnderscores b cs = cs := by
  induction cs generalizing b with
  | nil => cases b <;> rfl
  | cons c cs ih =>
    simp only [List.mem_cons, not_or] at h
    rw [dropUnderscores, ih h.2]
    intro d ds same
    exact absurd same.symm h.1

theorem spanDigits_append {p : Char → Bool} {ds rest : List Char} (digits : ∀ c ∈ ds, p c = true)
    (stops : ∀ c ∈ rest.head?, p c = false) : spanDigits p (ds ++ rest) = (ds, rest) := by
  induction ds with
  | nil =>
    cases rest with
    | nil => rfl
    | cons c rest => simp [spanDigits, stops c rfl]
  | cons d ds ih =>
    have later := ih fun c mem => digits c (by simp [mem])
    simp [spanDigits, digits d (by simp), later]

theorem unsigned?_pointed {ds fs : List Char} (negative : Bool)
    (digits : ∀ c ∈ ds, c.isDigit = true) (ne : fs ≠ []) (more : ∀ c ∈ fs, c.isDigit = true) :
    (unsigned? negative (ds ++ '.' :: fs)).isSome := by
  have whole : spanDigits Char.isDigit (ds ++ '.' :: fs) = (ds, '.' :: fs) :=
    spanDigits_append digits (by simp)
  have fraction : spanDigits Char.isDigit fs = (fs, []) := by
    have all := spanDigits_append more (show ∀ c ∈ ([] : List Char).head?, _ by simp)
    rw [List.append_nil] at all
    exact all
  simp [unsigned?, whole, fraction, ne, exponentOf?]

theorem readFloat?_pointed {ds fs : List Char} (digits : ∀ c ∈ ds, Text.isDigit c = true)
    (ne : fs ≠ []) (more : ∀ c ∈ fs, Text.isDigit c = true) :
    (readFloat? (ds ++ '.' :: fs)).isSome := by
  have point : plainDigits (ds ++ '.' :: fs) = plainDigits ds ++ '.' :: plainDigits fs := by
    have itself : Text.digitValue? '.' = none := by decide
    simp [plainDigits, itself]
  have front := plainDigits_digits digits
  have back := plainDigits_digits more
  have plain : ∀ c ∈ plainDigits ds ++ '.' :: plainDigits fs, c.isDigit = true ∨ c = '.' := by
    intro c mem
    simp only [List.mem_append, List.mem_cons] at mem
    obtain mem | rfl | mem := mem
    · exact .inl (front c mem)
    · exact .inr rfl
    · exact .inl (back c mem)
  have absent : ∀ {c : Char}, c.isDigit = false ∧ c ≠ '.' →
      c ∉ plainDigits ds ++ '.' :: plainDigits fs := by
    intro c other mem
    obtain digit | point := plain c mem
    · simp [digit] at other
    · exact other.2 point
  unfold readFloat? asciiFloat?
  rw [(NumberText.pointed digits ne more).trimNumber, point,
    dropUnderscores_of_not_mem (absent (by decide)),
    splitSign_plain (absent (by decide)) (absent (by decide))]
  dsimp only
  split
  · rfl
  · split
    · rfl
    · exact unsigned?_pointed false front (by simpa [plainDigits] using ne) back

/-- A whole number is read unless it has too many digits; a number with a point is always read. -/
theorem numberLiteral_eq {text : List Char} (h : NumberText text) :
    (∃ v, Numeral text v ∧ ('.' ∉ text → text.length ≤ digitLimit) ∧
        numberLiteral text = .ok v) ∨
      ('.' ∉ text ∧ digitLimit < text.length ∧
        numberLiteral text = .error (.fault .tooManyDigits)) := by
  cases h with
  | whole ne digits =>
    have plain : '.' ∉ text := not_mem_of_digits digits (by decide)
    have read := readWhole_digits ne digits
    by_cases long : digitLimit < text.length
    · rw [if_pos long] at read
      exact .inr ⟨plain, long, by simp [numberLiteral, plain, read]⟩
    · rw [if_neg long] at read
      exact .inl ⟨_, .whole plain, fun _ => Nat.le_of_not_lt long, by
        simp [numberLiteral, plain, read]⟩
  | pointed digits ne more =>
    obtain ⟨x, read⟩ := Option.isSome_iff_exists.1 (readFloat?_pointed digits ne more)
    exact .inl ⟨_, .pointed (by simp) read, fun plain => absurd (by simp) plain, by
      simp [numberLiteral, read]⟩

/-- A whole number with more digits than may be read. -/
structure Token.Overlong (t : Token) : Prop where
  kind : t.kind = .number
  plain : '.' ∉ t.text
  long : digitLimit < t.text.length

theorem Token.Overlong.literal {t : Token} (h : t.Overlong) (text : NumberText t.text) :
    numberLiteral t.text = .error (.fault .tooManyDigits) := by
  obtain ⟨v, -, short, -⟩ | ⟨-, -, read⟩ := numberLiteral_eq text
  · exact absurd (short h.plain) (Nat.not_le_of_lt h.long)
  · exact read

theorem Token.numberLiteral_eq_ok {t : Token} (kind : t.kind = .number)
    (text : NumberText t.text) {v : Value} :
    numberLiteral t.text = .ok v ↔ Numeral t.text v ∧ ¬ t.Overlong := by
  obtain ⟨w, means, short, read⟩ | ⟨plain, long, read⟩ := numberLiteral_eq text
  · rw [read]
    constructor
    · intro same
      cases same
      exact ⟨means, fun overlong => Nat.not_le_of_lt overlong.long (short overlong.plain)⟩
    · intro other
      rw [means.unique other.1]
  · rw [read]
    constructor
    · intro same
      cases same
    · intro other
      exact absurd ⟨kind, plain, long⟩ other.2

theorem Token.numberLiteral_eq_error {t : Token} (kind : t.kind = .number)
    (text : NumberText t.text) {e : ParseFailure} (h : numberLiteral t.text = .error e) :
    e = .fault .tooManyDigits ∧ t.Overlong := by
  obtain ⟨v, -, -, read⟩ | ⟨plain, long, read⟩ := numberLiteral_eq text
  · rw [read] at h
    cases h
  · rw [read] at h
    cases h
    exact ⟨rfl, kind, plain, long⟩

end Storyworld.Condition
