import Storyworld.Proofs.Check.Clean
import Storyworld.Proofs.Condition.Escape
import Storyworld.Proofs.Condition.Quoting
import Storyworld.Proofs.Json.Whole
import Storyworld.Proofs.State.Document
import Storyworld.Proofs.Text.Joined
import Storyworld.Proofs.Turn.Alterations

/-!
What is written to a counter is read back. An effect takes the text of a flag or of a whole number
as its value; a condition that compares the counter with that text finds them the same.
-/

namespace Storyworld

namespace Decimal

/-- Characters that are no capital letters stay among those of the text. -/
theorem mem_lowerAscii {cs : List Char} {c : Char} (mem : c ∈ cs)
    (small : ¬ (65 ≤ c.toNat ∧ c.toNat ≤ 90)) : c ∈ (lowerAscii cs).toList := by
  have same : c.toLower = c := by
    unfold Char.toLower
    split
    · rename_i capital
      exact absurd (by simpa [UInt32.le_iff_toNat_le] using capital) small
    · rfl
  rw [lowerAscii, String.toList_ofList]
  exact List.mem_map.2 ⟨c, mem, same⟩

theorem repr_chars (i : Int) : ∀ c ∈ i.repr.toList, c.isDigit = true ∨ c = '-' := by
  obtain ⟨n, -, ⟨-, text⟩ | ⟨-, text⟩⟩ := Json.repr_cases i
  · rw [text]
    exact fun c mem => .inl (digits_isDigit n c mem)
  · rw [text, List.forall_mem_cons]
    exact ⟨.inr rfl, fun c mem => .inl (digits_isDigit n c mem)⟩

theorem repr_ne_nil (i : Int) : i.repr.toList ≠ [] := by
  obtain ⟨n, -, ⟨-, text⟩ | ⟨-, text⟩⟩ := Json.repr_cases i <;> simp [text, Nat.toDigits_ne_nil]

theorem readWhole_repr {i : Int} (short : Short i) : readWhole i.repr.toList = .ok (some i) := by
  obtain ⟨n, abs, cases⟩ := Json.repr_cases i
  have few : ¬ digitLimit < (Nat.toDigits 10 n).length :=
    Nat.not_lt_of_le (digits_length (by decide) (abs ▸ short))
  have digits : ∀ c ∈ Nat.toDigits 10 n, Text.isDigit c = true :=
    fun c mem => isDigit_of_plain (digits_isDigit n c mem)
  obtain ⟨rfl, text⟩ | ⟨rfl, text⟩ := cases
  · rw [text, Condition.readWhole_digits Nat.toDigits_ne_nil digits, if_neg few, valueOf_digits]
  · have whole : Check.isWholeText ('-' :: Nat.toDigits 10 n) = true := by
      simpa [Check.isWholeText, splitSign, Nat.toDigits_ne_nil] using digits
    rw [text, readWhole, Check.trimNumber_of_isWholeText whole]
    simp [splitSign, Condition.digitsOf?_digits Nat.toDigits_ne_nil digits,
      Condition.digitValues_length digits, few, valueOf_digits]

end Decimal

namespace Counter

def flagText (b : Bool) : String :=
  if b then "true" else "false"

/-- The texts of a flag and of a whole number, in an effect and in a condition. An effect may have
a flag in capital letters. -/
inductive Spelt : Counter → String → String → Prop where
  | flag {b : Bool} {text : String} (spelt : Decimal.lowerAscii text.toList = flagText b) :
      Spelt (.flag b) text (flagText b)
  | whole {i : Int} (short : Decimal.Short i) : Spelt (.number (.int i)) i.repr i.repr

theorem flagText_chars (b : Bool) : (flagText b).toList =
    if b then ['t', 'r', 'u', 'e'] else ['f', 'a', 'l', 's', 'e'] := by
  cases b <;> simp [flagText]

theorem flagText_plain (b : Bool) :
    ∀ c ∈ (flagText b).toList, c.isDigit = false ∧ c ≠ '-' ∧ Text.isBlank c = false := by
  have plain : ((flagText b).toList.all fun c =>
      !c.isDigit && c != '-' && !Text.isBlank c) = true := by
    rw [flagText_chars]
    cases b <;> decide
  intro c mem
  simpa [and_assoc] using List.all_eq_true.1 plain c mem

variable {c : Counter} {text literal : String}

theorem Spelt.plain (h : c.Spelt text literal) : ∀ d ∈ text.toList, Text.isBlank d = false := by
  intro d mem
  cases h with
  | @flag b _ spelt =>
    rw [Bool.eq_false_iff]
    intro blank
    have apart : ∀ s ∈ Text.blankSpans, s.2 < 65 ∨ 90 < s.1 := by decide
    obtain ⟨s, span, first, last⟩ := (Text.inSpans_iff _ _).1 blank
    have := apart s span
    have inside := Decimal.mem_lowerAscii mem (by omega)
    rw [spelt] at inside
    rw [(flagText_plain b d inside).2.2] at blank
    cases blank
  | whole short =>
    obtain digit | rfl := Decimal.repr_chars _ d mem
    · exact Text.isBlank_of_isDigit (Decimal.isDigit_of_plain digit)
    · decide

/-- No whole number is written like a flag. -/
theorem lowerAscii_repr (i : Int) (b : Bool) : Decimal.lowerAscii i.repr.toList ≠ flagText b := by
  intro same
  obtain ⟨d, ds, text⟩ := List.exists_cons_of_ne_nil (Decimal.repr_ne_nil i)
  have mem : d ∈ i.repr.toList := text ▸ List.mem_cons_self
  have sort := Decimal.repr_chars i d mem
  have small : ¬ (65 ≤ d.toNat ∧ d.toNat ≤ 90) := by
    obtain digit | rfl := sort
    · have range := Decimal.toNat_of_isDigit digit
      omega
    · decide
  have inside := Decimal.mem_lowerAscii mem small
  rw [same] at inside
  obtain ⟨noDigit, noMinus, -⟩ := flagText_plain b d inside
  obtain digit | minus := sort
  · rw [noDigit] at digit
    cases digit
  · exact noMinus minus

theorem counterOf?_spelt (h : c.Spelt text literal) : counterOf? text.toList = some c := by
  cases h with
  | @flag b _ spelt =>
    unfold counterOf?
    rw [spelt]
    cases b <;> rfl
  | @whole i short =>
    have yes : Decimal.lowerAscii i.repr.toList ≠ "true" := lowerAscii_repr i true
    have no : Decimal.lowerAscii i.repr.toList ≠ "false" := lowerAscii_repr i false
    simp [counterOf?, yes, no, Decimal.readWhole?, Decimal.readWhole_repr short]

end Counter

section

variable {c : Counter} {k text literal : String}

theorem splitChange?_counter (comma : ',' ∉ k.toList)
    (ends : ∀ d ∈ k.toList.getLast?, Text.isBlank d = false) (spelt : c.Spelt text literal) :
    splitChange? ("counters." ++ k ++ "," ++ text) =
      some ("counters".toList ++ '.' :: k.toList, text.toList) := by
  have chars : ("counters." ++ k ++ "," ++ text).toList =
      ("counters".toList ++ '.' :: k.toList) ++ ',' :: text.toList := by
    simp
  have absent : ',' ∉ "counters".toList ++ '.' :: k.toList := by
    simpa using comma
  have path : Text.trim ("counters".toList ++ '.' :: k.toList) =
      "counters".toList ++ '.' :: k.toList := by
    refine Text.trim_of_ends (by simp; decide) ?_
    rw [List.getLast?_append, List.getLast?_cons]
    intro d last
    cases behind : k.toList.getLast? with
    | none =>
      rw [behind] at last
      cases last
      decide
    | some e =>
      rw [behind] at last
      cases last
      exact ends e behind
  have value : Text.trim text.toList = text.toList := Text.trimBy_of_none spelt.plain
  rw [splitChange?, chars, Text.cutAt_append absent, Option.map_some, path, value]

theorem State.doSet_counter {s : State} (known : k ∈ s.counters.map Prod.fst)
    (comma : ',' ∉ k.toList) (ends : ∀ d ∈ k.toList.getLast?, Text.isBlank d = false)
    (spelt : c.Spelt text literal) :
    s.doSet ("counters." ++ k ++ "," ++ text) none = pure (s.setCounter k c) := by
  have apart (name : String) (noDot : '.' ∉ name.toList) :
      String.ofList ("counters".toList ++ '.' :: k.toList) ≠ name := by
    rintro rfl
    simp at noDot
  have next := apart "next_situation" (by simp)
  have route := apart "route" (by simp)
  have parts : Text.partAt '.' ("counters".toList ++ '.' :: k.toList) =
      ("counters".toList, k.toList) := by
    rw [Text.partAt, Text.cutAt_append (by decide)]
    rfl
  obtain ⟨old, found⟩ := exists_lookupLast known
  simp only [doSet, splitChange?_counter comma ends spelt, if_neg next, if_neg route, parts,
    String.ofList_toList, if_true, setCounterTo, found, Counter.counterOf?_spelt spelt]
  cases c <;> rfl

/-- The effect does nothing but write the counter. -/
theorem State.applyEffect_counter {s : State} (known : k ∈ s.counters.map Prod.fst)
    (comma : ',' ∉ k.toList) (ends : ∀ d ∈ k.toList.getLast?, Text.isBlank d = false)
    (spelt : c.Spelt text literal) (narrative : Bool) :
    s.applyEffect narrative ⟨[.action (.set ("counters." ++ k ++ "," ++ text))]⟩ =
      pure (s.setCounter k c, []) := by
  have done := State.doSet_counter known comma ends spelt
  cases narrative with
  | true => exact congrArg (fun x => x >>= fun t => pure (t, [])) done
  | false => exact congrArg (fun x => x >>= fun t => pure (t, [])) done

end

namespace Condition

theorem lexeme?_digits {d : Char} {ds : List Char} (digits : ∀ c ∈ d :: ds, Text.isDigit c = true) :
    lexeme? (d :: ds) = some (some .number, d :: ds, []) := by
  have first : Text.isDigit d = true := digits d List.mem_cons_self
  have run : takeRun Text.isDigit (d :: ds) = (d :: ds, []) := by
    rw [takeRun, List.takeWhile_eq_self_iff.2 digits, List.dropWhile_eq_nil_iff.2 digits]
  exact lexeme?_eq_some.2 (.number first (by simp [numberFrom, run]))

theorem written_digits {n : Nat} (short : n < Decimal.pow10 Decimal.digitLimit) :
    Symbol.unary.Written (Nat.toDigits 10 n) (.literal (.int n)) [] := by
  have digits : ∀ c ∈ Nat.toDigits 10 n, Text.isDigit c = true :=
    fun c mem => Decimal.isDigit_of_plain (Decimal.digits_isDigit n c mem)
  have few := Decimal.digits_length (by decide) short
  have means : Numeral (Nat.toDigits 10 n) (.int n) := by
    have numeral := Numeral.whole (not_mem_of_digits digits (c := '.') (by decide))
    rwa [Decimal.valueOf_digits] at numeral
  have found : lexeme? (Nat.toDigits 10 n) = some (some .number, Nat.toDigits 10 n, []) := by
    obtain ⟨d, ds, cons⟩ := Decimal.digits_cons n
    rw [cons] at digits ⊢
    exact lexeme?_digits digits
  exact .access (.number (.token found .done) means few) (steps_done [])

/-- A condition reads the text of a flag or of a whole number as that. -/
theorem written_literal {c : Counter} {text literal : String} (spelt : c.Spelt text literal) :
    ∃ d ds x, literal.toList = d :: ds ∧ Text.isBlank d = false ∧
      Symbol.unary.Written (d :: ds) x [] ∧ ∀ scope, x.eval scope = .ok c.toValue := by
  cases spelt with
  | @flag b =>
    have means : Keyword (Counter.flagText b) (.bool b) := by
      cases b
      · exact .false
      · exact .true
    cases b with
    | false =>
      exact ⟨_, _, _, Counter.flagText_chars false, by decide,
        .access (.keyword (.token rfl .done) means) (steps_done []), fun _ => rfl⟩
    | true =>
      exact ⟨_, _, _, Counter.flagText_chars true, by decide,
        .access (.keyword (.token rfl .done) means) (steps_done []), fun _ => rfl⟩
  | @whole i short =>
    obtain ⟨n, abs, ⟨rfl, chars⟩ | ⟨rfl, chars⟩⟩ := Json.repr_cases i
    · obtain ⟨d, ds, cons⟩ := Decimal.digits_cons n
      have digit := Decimal.isDigit_of_plain (Decimal.digits_isDigit n d (by simp [cons]))
      exact ⟨d, ds, _, chars.trans cons, Text.isBlank_of_isDigit digit,
        cons ▸ written_digits (abs ▸ short), fun _ => rfl⟩
    · exact ⟨_, _, _, chars, by decide,
        .signed .negate (.token rfl .done) (written_digits (abs ▸ short)), fun _ => rfl⟩

theorem parse_compared {c : Counter} {text literal : String} (spelt : c.Spelt text literal)
    (k : String) (op : BinaryOp) :
    ∃ x, parse ("counters['" ++ escaped k ++ "'] " ++ op.symbol ++ " " ++ literal) =
        .ok (.binary op (.member (.name "counters") (.literal (.text k))) x) ∧
      ∀ scope, x.eval scope = .ok c.toValue := by
  obtain ⟨d, ds, x, chars, plain, written, means⟩ := written_literal spelt
  have text : ("counters['" ++ escaped k ++ "'] " ++ op.symbol ++ " " ++ literal).toList =
      "counters".toList ++ '[' :: '\'' :: ((escaped k).toList ++ '\'' :: ']' ::
        ' ' :: (op.symbol.toList ++ ' ' :: d :: ds)) := by
    simp [chars]
  refine ⟨x, ?_, means⟩
  rw [parse_iff_written, text]
  exact Symbol.Written.spaced (.binary op) (written_counter k _) plain written

end Condition

namespace State

open Condition

theorem strictEqual_spelt {c : Counter} {text literal : String} (spelt : c.Spelt text literal) :
    c.toValue.strictEqual c.toValue = true := by
  cases spelt with
  | @flag b =>
    cases b <;> rfl
  | @whole i =>
    have same : Number.eq (.int i) (.int i) = true := by
      rw [Number.eq_int]
      exact decide_eq_true rfl
    exact same

theorem holds_compared {c : Counter} {k text literal : String} {s : State} {op : BinaryOp}
    {b : Bool} (spelt : c.Spelt text literal) (found : lookupLast k s.counters = some c)
    (compares : applyBinary op c.toValue c.toValue = .ok (.bool b)) :
    (s.holds ("counters['" ++ escaped k ++ "'] " ++ op.symbol ++ " " ++ literal)).result =
      .ok b := by
  obtain ⟨x, parsed, right⟩ := parse_compared spelt k op
  refine holds_of_ok (truthIn_eq_ok.2 ⟨_, .bool b, parsed, ?_, rfl⟩)
  exact bind_of_ok (eval_counter found) (bind_of_ok (right _) compares)

/-- What a set effect writes is what a condition reads. In a state where every key stands once, the
effect that sets one of the counters to a flag or to a whole number that is not too long changes
that counter and nothing else, and without a word; then the condition that compares the counter with
the same text holds, and the one that tells them apart does not. -/
theorem set_reads_back {s : State} (once : s.KeysOnce) {k text literal : String} {c : Counter}
    (known : k ∈ s.counters.map Prod.fst) (comma : ',' ∉ k.toList)
    (ends : ∀ d ∈ k.toList.getLast?, Text.isBlank d = false) (spelt : c.Spelt text literal)
    (narrative : Bool) :
    ∃ e t, Effect.read (.mapping [("set", .text ("counters." ++ k ++ "," ++ text))]) = .fits e ∧
      s.applyEffect narrative e = pure (t, []) ∧
      t = { s with counters := t.counters } ∧
      t.counters.map Prod.fst = s.counters.map Prod.fst ∧
      lookupLast k t.counters = some c ∧
      (∀ other, other ≠ k → lookupLast other t.counters = lookupLast other s.counters) ∧
      (t.holds ("counters['" ++ escaped k ++ "'] === " ++ literal)).result = .ok true ∧
      (t.holds ("counters['" ++ escaped k ++ "'] !== " ++ literal)).result = .ok false := by
  have read (raw : String) : Effect.read (.mapping [("set", .text raw)]) =
      .fits ⟨[.action (.set raw)]⟩ := by
    cbv
  have after (other : String) := lookupLast_putEntry k other c s.counters once.counters
  have found : lookupLast k (s.setCounter k c).counters = some c := (after k).trans (if_pos rfl)
  have same := strictEqual_spelt spelt
  have equal : applyBinary .same c.toValue c.toValue = .ok (.bool true) := by
    rw [applyBinary, same]
  have apart : applyBinary .notSame c.toValue c.toValue = .ok (.bool false) := by
    rw [applyBinary, same]
    rfl
  have one (a z : String) : a ++ "'] === " ++ z = a ++ "'] " ++ BinaryOp.same.symbol ++ " " ++ z :=
    String.toList_injective (by simp [BinaryOp.symbol])
  have two (a z : String) :
      a ++ "'] !== " ++ z = a ++ "'] " ++ BinaryOp.notSame.symbol ++ " " ++ z :=
    String.toList_injective (by simp [BinaryOp.symbol])
  refine ⟨_, s.setCounter k c, read _, applyEffect_counter known comma ends spelt narrative, rfl,
    putEntry_keys known, found, fun other differs => (after other).trans (if_neg differs), ?_, ?_⟩
  · rw [one]
    exact holds_compared spelt found equal
  · rw [two]
    exact holds_compared spelt found apart

/-- A tower whose clock is a counter with an apostrophe, a dot and a backslash in its name. -/
def tower : State :=
  { boundless with counters := [(" o'clock.\\", .number (.int 7))] }

theorem set_reads_back_tower :
    tower.KeysOnce ∧ " o'clock.\\" ∈ tower.counters.map Prod.fst ∧
      ∃ e t, Effect.read (.mapping [("set", .text "counters. o'clock.\\,-12")]) = .fits e ∧
        tower.applyEffect true e = pure (t, []) ∧
        lookupLast " o'clock.\\" t.counters = some (.number (.int (-12))) ∧
        (t.holds "counters[' o\\'clock.\\\\'] === -12").result = .ok true := by
  have once : tower.KeysOnce := ⟨by simp [tower], by simp [tower, boundless], by
    simp [tower, boundless]⟩
  have known : " o'clock.\\" ∈ tower.counters.map Prod.fst := by simp [tower]
  have digits : (-12 : Int).repr = "-12" := by decide
  have short : Decimal.Short (-12) :=
    Nat.lt_of_lt_of_le (by decide) (Decimal.pow10_le (show 2 ≤ Decimal.digitLimit by decide))
  have spelt : Counter.Spelt (.number (.int (-12))) "-12" "-12" := digits ▸ .whole short
  obtain ⟨e, t, read, done, -, -, found, -, equal, -⟩ :=
    set_reads_back once known (by decide) (by simp; decide) spelt true
  have quoted : "counters['" ++ escaped " o'clock.\\" ++ "'] === " ++ "-12" =
      "counters[' o\\'clock.\\\\'] === -12" := by
    cbv
  rw [quoted] at equal
  exact ⟨once, known, e, t, read, done, found, equal⟩

end State

end Storyworld
