import Storyworld.Json.Writer
import Storyworld.Proofs.Json.Text
import Storyworld.Proofs.Json.Whole
import Storyworld.Proofs.Results

/-!
Values that were written as JSON are read as they were, with every indentation. This holds of all
values whose numbers are whole and not too long, and whatever stands behind the value, as long as it
does not go on with a number.
-/

namespace Storyworld

/-- A value whose numbers are all whole and of some kind. -/
inductive Value.Whole (p : Int → Prop) : Value → Prop where
  | null : Whole p .null
  | bool (b : Bool) : Whole p (.bool b)
  | int {i : Int} (number : p i) : Whole p (.int i)
  | text (s : String) : Whole p (.text s)
  | list {items : List Value} (each : ∀ v ∈ items, Whole p v) : Whole p (.list items)
  | mapping {entries : Entries} (each : ∀ k v, (k, v) ∈ entries → Whole p v) :
      Whole p (.mapping entries)

namespace Value

variable {p : Int → Prop}

@[simp] theorem whole_null : null.Whole p := .null

@[simp] theorem whole_bool (b : Bool) : (bool b).Whole p := .bool b

@[simp] theorem whole_int {i : Int} : (int i).Whole p ↔ p i :=
  ⟨fun | .int number => number, .int⟩

@[simp] theorem whole_text (s : String) : (text s).Whole p := .text s

@[simp] theorem whole_list {items : List Value} :
    (list items).Whole p ↔ ∀ v ∈ items, v.Whole p :=
  ⟨fun | .list each => each, .list⟩

@[simp] theorem whole_mapping {entries : Entries} :
    (mapping entries).Whole p ↔ ∀ e ∈ entries, e.2.Whole p :=
  ⟨fun | .mapping each => fun e => each e.1 e.2, fun each => .mapping fun k v => each (k, v)⟩

/-- A value whose numbers are all whole, with no more digits than are read. -/
abbrev Exact : Value → Prop :=
  Whole Decimal.Short

end Value

namespace Json

open Decimal

variable {f : Format} {o : Options} {p : Int → Prop}

theorem skipSpace_cons {c : Char} {cs : List Char} (h : isSpace c = false) :
    skipSpace (c :: cs) = c :: cs := by
  simp [skipSpace, h]

theorem skipSpace_append {blanks cs : List Char} (h : ∀ c ∈ blanks, isSpace c = true) :
    skipSpace (blanks ++ cs) = skipSpace cs :=
  List.dropWhile_append_of_pos h

theorem lineStart_blank (f : Format) (depth : Nat) : ∀ c ∈ f.lineStart depth, isSpace c = true := by
  unfold Format.lineStart
  split
  · intro c mem
    obtain rfl | mem := List.mem_cons.1 mem
    · rfl
    · rw [List.eq_of_mem_replicate mem]
      rfl
  · exact nofun

theorem skipSpace_lineStart (f : Format) (depth : Nat) (cs : List Char) :
    skipSpace (f.lineStart depth ++ cs) = skipSpace cs :=
  skipSpace_append (lineStart_blank f depth)

/-- Only the start of a line stands between the last item and the bracket behind it. -/
theorem skipSpace_bracket (f : Format) (depth : Nat) {c : Char} (cs : List Char)
    (h : isSpace c = false) : skipSpace (f.lineStart depth ++ c :: cs) = c :: cs := by
  rw [skipSpace_lineStart, skipSpace_cons h]

theorem skipSpace_comma (cs : List Char) : skipSpace (',' :: cs) = ',' :: cs :=
  skipSpace_cons (by decide)

/-- A character that a value can begin with. -/
def Begins (c : Char) : Prop :=
  isSpace c = false ∧ c ≠ ']' ∧ c ≠ '\uFEFF'

instance (c : Char) : Decidable (Begins c) :=
  inferInstanceAs (Decidable (_ ∧ _))

theorem ne_of_isDigit {c x : Char} (digit : c.isDigit = true) (other : x.isDigit = false) :
    c ≠ x := by
  rintro rfl
  cases digit.symm.trans other

theorem begins_of_isDigit {c : Char} (digit : c.isDigit = true) : Begins c := by
  have other {x : Char} (h : x.isDigit = false) : c ≠ x := ne_of_isDigit digit h
  refine ⟨?_, other rfl, other rfl⟩
  simp [isSpace, other (x := ' ') rfl, other (x := '\t') rfl, other (x := '\n') rfl,
    other (x := '\r') rfl]

/-- A whole number begins with a digit, or with a minus and a digit. -/
theorem whole_begins (i : Int) : ∃ c cs, i.repr.toList = c :: cs ∧
    (c.isDigit = true ∨ c = '-' ∧ ∃ d ds, cs = d :: ds ∧ d.isDigit = true) := by
  obtain ⟨n, -, text⟩ := repr_cases i
  obtain ⟨d, ds, digits⟩ := digits_cons n
  have digit : d.isDigit = true := digits_isDigit n d (by simp [digits])
  obtain ⟨-, text⟩ | ⟨-, text⟩ := text
  · exact ⟨d, ds, text.trans digits, .inl digit⟩
  · exact ⟨'-', d :: ds, by rw [text, digits], .inr ⟨rfl, d, ds, rfl, digit⟩⟩

/-- A value that was written begins with its own text and not with a blank. -/
theorem writeValue_begins {v : Value} (whole : v.Whole p) (depth : Nat) :
    ∃ c cs, writeValue f depth v = c :: cs ∧ Begins c := by
  cases whole with
  | null => exact ⟨'n', _, rfl, by decide⟩
  | bool b => cases b <;> exact ⟨_, _, rfl, by decide⟩
  | int =>
    rename_i i _
    obtain ⟨c, cs, text, digit | ⟨rfl, -⟩⟩ := whole_begins i
    · exact ⟨c, cs, by rw [writeValue, text], begins_of_isDigit digit⟩
    · exact ⟨'-', cs, by rw [writeValue, text], by decide⟩
  | text s => exact ⟨'"', _, rfl, by decide⟩
  | @list items each => cases items <;> exact ⟨'[', _, rfl, by decide⟩
  | @mapping entries each => cases entries <;> exact ⟨'\x7b', _, rfl, by decide⟩

theorem readWord?_whole (i : Int) (rest : List Char) :
    readWord? (i.repr.toList ++ rest) = none := by
  obtain ⟨c, cs, text, begins⟩ := whole_begins i
  rw [text]
  obtain digit | ⟨rfl, d, ds, rfl, digit⟩ := begins
  · have other {x : Char} (h : x.isDigit = false) : x ≠ c := (ne_of_isDigit digit h).symm
    simp [readWord?, words, Text.stripLeading, other (x := 'n') rfl, other (x := 't') rfl,
      other (x := 'f') rfl, other (x := 'N') rfl, other (x := 'I') rfl, other (x := '-') rfl]
  · have other : 'I' ≠ d := (ne_of_isDigit digit rfl).symm
    simp [readWord?, words, Text.stripLeading, other]

theorem readValue_whole {i : Int} (takes : o.Takes i) {rest : List Char} (ends : Ends rest)
    (fuel : Nat) :
    readValue o (fuel + 1) (i.repr.toList ++ rest) = .ok (.int i, rest) := by
  have word := readWord?_whole i rest
  have number := readNumber_whole takes ends
  obtain ⟨c, cs, text, begins⟩ := whole_begins i
  rw [text, List.cons_append] at word number ⊢
  have other : c ≠ '"' ∧ c ≠ '[' ∧ c ≠ '\x7b' := by
    obtain digit | ⟨rfl, -⟩ := begins
    · exact ⟨ne_of_isDigit digit rfl, ne_of_isDigit digit rfl, ne_of_isDigit digit rfl⟩
    · decide
  rw [readValue, word]
  · exact number
  · rintro rest' ⟨⟩
    exact other.1 rfl
  · rintro rest' ⟨⟩
    exact other.2.1 rfl
  · rintro rest' ⟨⟩
    exact other.2.2 rfl

theorem readValue_text (s : String) (rest : List Char) (fuel : Nat) :
    readValue o (fuel + 1) (quote s.toList ++ rest) = .ok (.text s, rest) := by
  simp [quote, readValue, readText_written, Except.map]

theorem ends_cons {c : Char} {cs : List Char}
    (h : c.isDigit = false ∧ c ≠ '.' ∧ c ≠ 'e' ∧ c ≠ 'E') : Ends (c :: cs) := by
  intro d mem
  cases mem
  exact h

/-- The closing bracket of a list or a mapping, on the line or on one of its own. -/
theorem ends_lineStart (f : Format) (depth : Nat) {c : Char} {cs : List Char}
    (h : c.isDigit = false ∧ c ≠ '.' ∧ c ≠ 'e' ∧ c ≠ 'E') :
    Ends (f.lineStart depth ++ c :: cs) := by
  unfold Format.lineStart
  split
  · exact ends_cons (by decide)
  · exact ends_cons h

theorem skipSpace_quote (cs rest : List Char) :
    skipSpace (quote cs ++ rest) = quote cs ++ rest := rfl

theorem skipSpace_value {v : Value} (whole : v.Whole p) (depth : Nat) (rest : List Char) :
    skipSpace (writeValue f depth v ++ rest) = writeValue f depth v ++ rest := by
  obtain ⟨c, cs, text, begins⟩ := writeValue_begins (f := f) whole depth
  rw [text]
  exact skipSpace_cons begins.1

theorem writeItems_cons (f : Format) (depth : Nat) (v : Value) (vs : List Value) :
    ∃ more, writeItems f depth (v :: vs) = f.lineStart depth ++ (writeValue f depth v ++ more) := by
  cases vs with
  | nil => exact ⟨[], by simp [writeItems]⟩
  | cons w ws => exact ⟨',' :: writeItems f depth (w :: ws), by simp [writeItems]⟩

theorem writeEntries_cons (f : Format) (depth : Nat) (k : String) (v : Value) (es : Entries) :
    ∃ more, writeEntries f depth ((k, v) :: es) =
      f.lineStart depth ++ ('"' :: k.toList.flatMap escape ++ '"' :: more) := by
  cases es with
  | nil => exact ⟨f.colon ++ writeValue f depth v, by simp [writeEntries, quote]⟩
  | cons e es =>
    exact ⟨f.colon ++ writeValue f depth v ++ ',' :: writeEntries f depth (e :: es),
      by simp [writeEntries, quote]⟩

theorem readValue_items {cs : List Char} {c : Char} {body : List Char} (fuel : Nat)
    (begins : skipSpace cs = c :: body) (other : c ≠ ']') :
    readValue o (fuel + 1) ('[' :: cs) =
      (readItems o fuel (skipSpace cs)).map fun p => (.list p.1, p.2) := by
  rw [readValue, begins]
  split
  · rename_i same
    cases same
    exact absurd rfl other
  · rfl

theorem readValue_entries {cs body : List Char} (fuel : Nat)
    (begins : skipSpace cs = '"' :: body) :
    readValue o (fuel + 1) ('\x7b' :: cs) =
      (readEntries o fuel (skipSpace cs)).map fun p => (.mapping p.1, p.2) := by
  rw [readValue, begins]
  rfl

theorem skipSpace_colon (f : Format) (cs : List Char) :
    ∃ body, skipSpace (f.colon ++ cs) = ':' :: body ∧ skipSpace body = skipSpace cs := by
  unfold Format.colon
  split
  · exact ⟨' ' :: cs, rfl, rfl⟩
  · exact ⟨cs, rfl, rfl⟩

/-- The key of an entry is read, then the colon is passed over and the value comes. -/
theorem readEntries_key (f : Format) (k : String) (cs : List Char) (fuel : Nat) :
    readEntries o (fuel + 1) (quote k.toList ++ (f.colon ++ cs)) =
      readValue o fuel (skipSpace cs) >>= fun p =>
        match skipSpace p.2 with
        | '\x7d' :: rest => .ok ([(k, p.1)], rest)
        | ',' :: rest => readEntries o fuel (skipSpace rest) >>= fun q =>
            .ok ((k, p.1) :: q.1, q.2)
        | rest => .error (.misread .expectedComma rest) := by
  obtain ⟨body, colon, behind⟩ := skipSpace_colon f cs
  have text : quote k.toList ++ (f.colon ++ cs) =
      '"' :: (k.toList.flatMap escape ++ '"' :: (f.colon ++ cs)) := by simp [quote]
  rw [text, readEntries]
  refine bind_of_ok (readText_written o _ k (f.colon ++ cs)) ?_
  dsimp only
  rw [colon, ← behind]
  rfl

mutual

theorem readValue_written (takes : ∀ i, p i → o.Takes i) (f : Format) :
    ∀ (v : Value) (depth fuel : Nat) (rest : List Char), v.Whole p → Ends rest →
      2 * (writeValue f depth v).length ≤ fuel + 1 →
      readValue o fuel (writeValue f depth v ++ rest) = .ok (v, rest)
  | v, depth, 0, rest, whole, ends, enough => by
    obtain ⟨c, cs, text, begins⟩ := writeValue_begins (f := f) whole depth
    simp only [text, List.length_cons] at enough
    omega
  | .null, depth, fuel + 1, rest, _, _, _ => rfl
  | .bool true, depth, fuel + 1, rest, _, _, _ => rfl
  | .bool false, depth, fuel + 1, rest, _, _, _ => rfl
  | .int i, depth, fuel + 1, rest, .int number, ends, _ => by
    rw [writeValue]
    exact readValue_whole (takes i number) ends fuel
  | .text s, depth, fuel + 1, rest, _, _, _ => by
    rw [writeValue]
    exact readValue_text s rest fuel
  | .list [], depth, fuel + 1, rest, _, _, _ => rfl
  | .list (v :: vs), depth, fuel + 1, rest, .list each, _, enough => by
    have text : writeValue f depth (.list (v :: vs)) ++ rest =
        '[' :: (writeItems f (depth + 1) (v :: vs) ++ (f.lineStart depth ++ ']' :: rest)) := by
      simp [writeValue]
    have length : (writeItems f (depth + 1) (v :: vs)).length + 2 ≤
        (writeValue f depth (.list (v :: vs))).length := by
      simp only [writeValue, List.length_append, List.length_cons, List.length_nil]
      omega
    have items := readItems_written takes f (v :: vs) (depth + 1) depth fuel rest nofun each
      (by omega)
    obtain ⟨c, cs, value, begins⟩ :=
      writeValue_begins (f := f) (each v List.mem_cons_self) (depth + 1)
    obtain ⟨more, first⟩ := writeItems_cons f (depth + 1) v vs
    have start : skipSpace (writeItems f (depth + 1) (v :: vs) ++
        (f.lineStart depth ++ ']' :: rest)) =
        c :: (cs ++ more ++ (f.lineStart depth ++ ']' :: rest)) := by
      rw [first, List.append_assoc, skipSpace_lineStart, value]
      exact skipSpace_cons begins.1
    rw [text, readValue_items fuel start begins.2.1, items]
    rfl
  | .mapping [], depth, fuel + 1, rest, _, _, _ => rfl
  | .mapping (e :: es), depth, fuel + 1, rest, .mapping each, _, enough => by
    have text : writeValue f depth (.mapping (e :: es)) ++ rest = '\x7b' ::
        (writeEntries f (depth + 1) (e :: es) ++ (f.lineStart depth ++ '\x7d' :: rest)) := by
      simp [writeValue]
    have length : (writeEntries f (depth + 1) (e :: es)).length + 2 ≤
        (writeValue f depth (.mapping (e :: es))).length := by
      simp only [writeValue, List.length_append, List.length_cons, List.length_nil]
      omega
    have entries := readEntries_written takes f (e :: es) (depth + 1) depth fuel rest nofun each
      (by omega)
    obtain ⟨more, first⟩ := writeEntries_cons f (depth + 1) e.1 e.2 es
    have start : skipSpace (writeEntries f (depth + 1) (e :: es) ++
        (f.lineStart depth ++ '\x7d' :: rest)) = '"' :: (e.1.toList.flatMap escape ++ '"' :: more ++
          (f.lineStart depth ++ '\x7d' :: rest)) := by
      rw [first, List.append_assoc, skipSpace_lineStart]
      rfl
    rw [text, readValue_entries fuel start, entries]
    rfl

theorem readItems_written (takes : ∀ i, p i → o.Takes i) (f : Format) :
    ∀ (vs : List Value) (depth outer fuel : Nat) (rest : List Char), vs ≠ [] →
      (∀ v ∈ vs, v.Whole p) → 2 * (writeItems f depth vs).length ≤ fuel →
      readItems o fuel (skipSpace (writeItems f depth vs ++ (f.lineStart outer ++ ']' :: rest))) =
        .ok (vs, rest)
  | [], _, _, _, _, ne, _, _ => absurd rfl ne
  | v :: vs, depth, _, 0, _, _, each, enough => by
    obtain ⟨c, cs, value, -⟩ := writeValue_begins (f := f) (each v List.mem_cons_self) depth
    obtain ⟨more, first⟩ := writeItems_cons f depth v vs
    simp only [first, value, List.length_append, List.length_cons] at enough
    omega
  | [v], depth, outer, fuel + 1, rest, _, each, enough => by
    have whole := each v List.mem_cons_self
    simp only [writeItems, List.length_append] at enough
    have first := readValue_written takes f v depth fuel (f.lineStart outer ++ ']' :: rest) whole
      (ends_lineStart f outer (by decide)) (by omega)
    rw [writeItems, List.append_assoc, skipSpace_lineStart, skipSpace_value whole, readItems]
    refine bind_of_ok first ?_
    dsimp only
    rw [skipSpace_bracket f outer rest (by decide)]
    rfl
  | v :: w :: vs, depth, outer, fuel + 1, rest, _, each, enough => by
    have whole := each v List.mem_cons_self
    simp only [writeItems, List.length_append, List.length_cons] at enough
    have first := readValue_written takes f v depth fuel (',' :: (writeItems f depth (w :: vs) ++
      (f.lineStart outer ++ ']' :: rest))) whole (ends_cons (by decide)) (by omega)
    have others := readItems_written takes f (w :: vs) depth outer fuel rest nofun
      (fun v mem => each v (List.mem_cons_of_mem _ mem)) (by omega)
    rw [writeItems, List.append_assoc, List.append_assoc, skipSpace_lineStart, List.cons_append,
      skipSpace_value whole, readItems]
    refine bind_of_ok first ?_
    dsimp only
    rw [skipSpace_comma]
    exact bind_of_ok others rfl

theorem readEntries_written (takes : ∀ i, p i → o.Takes i) (f : Format) :
    ∀ (es : Entries) (depth outer fuel : Nat) (rest : List Char), es ≠ [] →
      (∀ k v, (k, v) ∈ es → v.Whole p) → 2 * (writeEntries f depth es).length ≤ fuel →
      readEntries o fuel (skipSpace (writeEntries f depth es ++
        (f.lineStart outer ++ '\x7d' :: rest))) = .ok (es, rest)
  | [], _, _, _, _, ne, _, _ => absurd rfl ne
  | (k, v) :: es, depth, _, 0, _, _, _, enough => by
    obtain ⟨more, first⟩ := writeEntries_cons f depth k v es
    simp only [first, List.length_append, List.length_cons] at enough
    omega
  | [(k, v)], depth, outer, fuel + 1, rest, _, each, enough => by
    have whole := each k v List.mem_cons_self
    simp only [writeEntries, List.length_append] at enough
    have value := readValue_written takes f v depth fuel (f.lineStart outer ++ '\x7d' :: rest)
      whole (ends_lineStart f outer (by decide)) (by omega)
    simp only [writeEntries, List.append_assoc]
    rw [skipSpace_lineStart, skipSpace_quote, readEntries_key, skipSpace_value whole]
    refine bind_of_ok value ?_
    dsimp only
    rw [skipSpace_bracket f outer rest (by decide)]
    rfl
  | (k, v) :: e :: es, depth, outer, fuel + 1, rest, _, each, enough => by
    have whole := each k v List.mem_cons_self
    simp only [writeEntries, List.length_append, List.length_cons] at enough
    have value := readValue_written takes f v depth fuel (',' :: (writeEntries f depth (e :: es) ++
      (f.lineStart outer ++ '\x7d' :: rest))) whole (ends_cons (by decide)) (by omega)
    have others := readEntries_written takes f (e :: es) depth outer fuel rest nofun
      (fun k v mem => each k v (List.mem_cons_of_mem _ mem)) (by omega)
    simp only [writeEntries, List.append_assoc, List.cons_append]
    rw [skipSpace_lineStart, skipSpace_quote, readEntries_key, skipSpace_value whole]
    refine bind_of_ok value ?_
    dsimp only
    rw [skipSpace_comma]
    exact bind_of_ok others rfl

end

/-- A value that was written is read as it was. -/
theorem readAll_written (takes : ∀ i, p i → o.Takes i) (f : Format) {v : Value}
    (whole : v.Whole p) : readAll o (writeValue f 0 v) = .ok v := by
  obtain ⟨c, cs, text, begins⟩ := writeValue_begins (f := f) whole 0
  have mark : (writeValue f 0 v).head? ≠ some '\uFEFF' := by
    rw [text]
    simpa using begins.2.2
  have solid : skipSpace (writeValue f 0 v) = writeValue f 0 v := by
    rw [text]
    exact skipSpace_cons begins.1
  have read := readValue_written takes f v 0 (2 * (writeValue f 0 v).length + 2) [] whole nofun
    (by omega)
  rw [List.append_nil] at read
  rw [readAll, if_neg mark, solid]
  exact bind_of_ok read rfl

/-- A save file that holds exact values gives them back, unless it is too deep. -/
theorem readSave?_written (indent : Option Nat) {v : Value} (exact : v.Exact)
    (shallow : v.depth ≤ depthLimit) : readSave? (write (saveFormat indent) v) = some v := by
  have takes (i : Int) : Decimal.Short i → Options.Takes ⟨some digitLimit, none⟩ i :=
    Options.takes_of_short rfl
  have read := readAll_written takes (saveFormat indent) exact
  simp [readSave?, write, read, shallow]

end Json

end Storyworld
