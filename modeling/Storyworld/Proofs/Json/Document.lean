import Mathlib
import Storyworld.Proofs.Entries
import Storyworld.Proofs.Json.Stored

/-!
Documents that are read, written and read again. Reading limits the digits of whole numbers and
leaves every key once, so what it has found can be written without loss: the text is another one, but
it is read as the same value, and writing that value gives the same text.
-/

namespace Storyworld

namespace Decimal

theorem foldl_digits_lt {ds : List Nat} (digits : ∀ d ∈ ds, d ≤ 9) (start : Nat) :
    ds.foldl (fun n d => 10 * n + d) start < (start + 1) * 10 ^ ds.length := by
  induction ds generalizing start with
  | nil => simp
  | cons d ds ih =>
    have small : d ≤ 9 := digits d List.mem_cons_self
    have later := ih (fun e mem => digits e (List.mem_cons_of_mem d mem)) (10 * start + d)
    calc (d :: ds).foldl (fun n d => 10 * n + d) start
        < (10 * start + d + 1) * 10 ^ ds.length := later
      _ ≤ (start + 1) * 10 * 10 ^ ds.length := Nat.mul_le_mul_right _ (by omega)
      _ = (start + 1) * 10 ^ (d :: ds).length := by
        rw [List.length_cons, Nat.pow_succ', Nat.mul_assoc]

/-- Digits make a number below the power of ten that has one digit more. -/
theorem valueOf_digitValues_lt (cs : List Char) : valueOf (digitValues cs) < pow10 cs.length := by
  have digits : ∀ d ∈ digitValues cs, d ≤ 9 := by
    intro d mem
    obtain ⟨c, -, value⟩ := List.mem_filterMap.1 mem
    exact Text.digitValue?_le_nine value
  calc valueOf (digitValues cs)
      < (0 + 1) * 10 ^ (digitValues cs).length := foldl_digits_lt digits 0
    _ = pow10 (digitValues cs).length := by rw [Nat.zero_add, Nat.one_mul]; rfl
    _ ≤ pow10 cs.length := pow10_le (List.length_filterMap_le ..)

end Decimal

namespace Value

/-- A value whose whole numbers are of some kind. Its other numbers may be any. -/
inductive Counted (p : Int → Prop) : Value → Prop where
  | null : Counted p .null
  | bool (b : Bool) : Counted p (.bool b)
  | int {i : Int} (number : p i) : Counted p (.int i)
  | float (x : Float) : Counted p (.float x)
  | text (s : String) : Counted p (.text s)
  | list {items : List Value} (each : ∀ v ∈ items, Counted p v) : Counted p (.list items)
  | mapping {entries : Entries} (each : ∀ e ∈ entries, Counted p e.2) :
      Counted p (.mapping entries)

/-- Where there are no other numbers, the whole ones are all. -/
theorem Whole.of_counted {p q : Int → Prop} {v : Value} (whole : v.Whole q)
    (counted : v.Counted p) : v.Whole p := by
  induction whole with
  | null => exact .null
  | bool b => exact .bool b
  | int =>
    cases counted with
    | int number => exact .int number
  | text s => exact .text s
  | list _ ih =>
    cases counted with
    | list each => exact .list fun v mem => ih v mem (each v mem)
  | mapping _ ih =>
    cases counted with
    | mapping each => exact .mapping fun k v mem => ih k v mem (each (k, v) mem)

theorem mergedItems_eq (vs : List Value) : mergedItems vs = vs.map merged := by
  induction vs with
  | nil => rfl
  | cons v vs ih => rw [mergedItems, ih, List.map_cons]

theorem mergedEntries_eq (es : Entries) : mergedEntries es = es.map fun e => (e.1, e.2.merged) := by
  induction es with
  | nil => rfl
  | cons e es ih => rw [mergedEntries, ih, List.map_cons]

mutual

theorem counted_merged {p : Int → Prop} : ∀ {v : Value}, v.Counted p → v.merged.Counted p
  | .null, _ => .null
  | .bool b, _ => .bool b
  | .int _, .int number => .int number
  | .float x, _ => .float x
  | .text s, _ => .text s
  | .list _, .list each => .list (counted_mergedItems each)
  | .mapping _, .mapping each =>
    .mapping fun e mem => counted_mergedEntries each e (mem_of_mem_mergeEntries mem)

theorem counted_mergedItems {p : Int → Prop} : ∀ {vs : List Value}, (∀ v ∈ vs, v.Counted p) →
    ∀ v ∈ mergedItems vs, v.Counted p
  | [], _ => nofun
  | v :: vs, each => by
    have first := counted_merged (each v List.mem_cons_self)
    have others := counted_mergedItems fun w mem => each w (List.mem_cons_of_mem v mem)
    simpa [mergedItems] using ⟨first, others⟩

theorem counted_mergedEntries {p : Int → Prop} : ∀ {es : Entries}, (∀ e ∈ es, e.2.Counted p) →
    ∀ e ∈ mergedEntries es, e.2.Counted p
  | [], _ => nofun
  | (k, v) :: es, each => by
    have first := counted_merged (each (k, v) List.mem_cons_self)
    have others := counted_mergedEntries fun e mem => each e (List.mem_cons_of_mem _ mem)
    intro e mem
    obtain rfl | later := List.mem_cons.1 mem
    · exact first
    · exact others e later

end

mutual

/-- A second merge finds nothing to do. -/
theorem merged_merged : ∀ v : Value, v.merged.merged = v.merged
  | .null => rfl
  | .bool _ => rfl
  | .int _ => rfl
  | .float _ => rfl
  | .text _ => rfl
  | .list items => by
    rw [merged, merged, mergedItems_eq (mergedItems items),
      List.map_congr_left (mergedItems_merged items), List.map_id']
  | .mapping entries => by
    have settled : ∀ e ∈ mergeEntries (mergedEntries entries), (e.1, e.2.merged) = e :=
      fun e mem => mergedEntries_merged entries e (mem_of_mem_mergeEntries mem)
    rw [merged, merged, mergedEntries_eq (mergeEntries (mergedEntries entries)),
      List.map_congr_left settled, List.map_id', mergeEntries_of_nodup (mergeEntries_nodup _)]

theorem mergedItems_merged : ∀ vs : List Value, ∀ v ∈ mergedItems vs, v.merged = v
  | [] => nofun
  | v :: vs => by
    have first := merged_merged v
    have others := mergedItems_merged vs
    simpa [mergedItems] using ⟨first, others⟩

theorem mergedEntries_merged : ∀ es : Entries, ∀ e ∈ mergedEntries es, (e.1, e.2.merged) = e
  | [] => nofun
  | (k, v) :: es => by
    intro e mem
    obtain rfl | later := List.mem_cons.1 mem
    · rw [merged_merged v]
    · exact mergedEntries_merged es e later

end

end Value

namespace Json

open Decimal

variable {o : Options}

theorem readWord?_counted {p : Int → Prop} {cs : List Char} {r : Value × List Char}
    (h : readWord? cs = some r) : r.1.Counted p := by
  obtain ⟨w, mem, found⟩ := List.exists_of_findSome?_eq_some h
  obtain ⟨rest, -, rfl⟩ := Option.map_eq_some_iff.1 found
  simp only [words, List.mem_cons, List.not_mem_nil, or_false] at mem
  obtain rfl | rfl | rfl | rfl | rfl | rfl := mem
  · exact .null
  · exact .bool true
  · exact .bool false
  all_goals exact .float _

theorem wholeValue_counted (limit : o.maxDigits = some digitLimit) {negative : Bool}
    {ds : List Char} {v : Value} (h : wholeValue o negative ds = .ok v) : v.Counted Short := by
  simp only [wholeValue, limit] at h
  split at h
  · cases h
  · rename_i few
    cases h
    have bound : valueOf (digitValues ds) < pow10 digitLimit :=
      Nat.lt_of_lt_of_le (valueOf_digitValues_lt ds) (pow10_le (Nat.le_of_not_lt few))
    refine .int ?_
    unfold Short
    split
    · rwa [Int.natAbs_neg, Int.natAbs_natCast]
    · rwa [Int.natAbs_natCast]

theorem readNumber_counted (limit : o.maxDigits = some digitLimit) {cs : List Char}
    {r : Value × List Char} (h : readNumber o cs = .ok r) : r.1.Counted Short := by
  revert h
  unfold readNumber
  dsimp only
  split
  all_goals
    intro h
    split at h
    · cases h
    · split at h
      · obtain ⟨v, value, rfl⟩ := map_eq_ok.1 h
        exact wholeValue_counted limit value
      · cases h
        exact .float _

mutual

/-- Every whole number that is read has no more digits than the limit. -/
theorem readValue_counted (limit : o.maxDigits = some digitLimit) : ∀ (fuel : Nat)
    {cs : List Char} {r : Value × List Char}, readValue o fuel cs = .ok r → r.1.Counted Short
  | 0, cs, r, h => nomatch h
  | fuel + 1, cs, r, h => by
    rw [readValue.eq_def] at h
    dsimp only at h
    split at h
    · obtain ⟨p, -, rfl⟩ := map_eq_ok.1 h
      exact .text _
    · split at h
      · cases h
        exact .list nofun
      · obtain ⟨p, items, rfl⟩ := map_eq_ok.1 h
        exact .list (readItems_counted limit fuel items)
    · split at h
      · cases h
        exact .mapping nofun
      · obtain ⟨p, entries, rfl⟩ := map_eq_ok.1 h
        exact .mapping (readEntries_counted limit fuel entries)
    · split at h
      · rename_i word
        cases h
        exact readWord?_counted word
      · exact readNumber_counted limit h

theorem readItems_counted (limit : o.maxDigits = some digitLimit) : ∀ (fuel : Nat)
    {cs : List Char} {r : List Value × List Char}, readItems o fuel cs = .ok r →
    ∀ v ∈ r.1, v.Counted Short
  | 0, cs, r, h => nomatch h
  | fuel + 1, cs, r, h => by
    rw [readItems.eq_def] at h
    dsimp only at h
    obtain ⟨p, first, later⟩ := bind_eq_ok.1 h
    have counted := readValue_counted limit fuel first
    split at later
    · cases later
      simpa using counted
    · obtain ⟨q, others, same⟩ := bind_eq_ok.1 later
      cases same
      simpa using ⟨counted, readItems_counted limit fuel others⟩
    · cases later

theorem readEntries_counted (limit : o.maxDigits = some digitLimit) : ∀ (fuel : Nat)
    {cs : List Char} {r : Entries × List Char}, readEntries o fuel cs = .ok r →
    ∀ e ∈ r.1, e.2.Counted Short
  | 0, cs, r, h => nomatch h
  | fuel + 1, cs, r, h => by
    rw [readEntries.eq_def] at h
    dsimp only at h
    split at h
    · obtain ⟨k, -, later⟩ := bind_eq_ok.1 h
      split at later
      · obtain ⟨p, value, last⟩ := bind_eq_ok.1 later
        have counted := readValue_counted limit fuel value
        split at last
        · cases last
          simpa using counted
        · obtain ⟨q, others, same⟩ := bind_eq_ok.1 last
          cases same
          have each := readEntries_counted limit fuel others
          intro e mem
          obtain rfl | later := List.mem_cons.1 mem
          · exact counted
          · exact each e later
        · cases last
      · cases later
    · cases h

end

theorem readAll_counted (limit : o.maxDigits = some digitLimit) {cs : List Char} {v : Value}
    (h : readAll o cs = .ok v) : v.Counted Short := by
  by_cases mark : cs.head? = some '\uFEFF'
  · rw [readAll, if_pos mark] at h
    cases h
  · rw [readAll, if_neg mark] at h
    obtain ⟨⟨w, rest⟩, value, last⟩ := bind_eq_ok.1 h
    have counted := readValue_counted limit _ value
    dsimp only at last
    split at last
    · cases last
      exact counted
    · cases last

theorem readDocument_eq_ok {s : String} {v : Value} : readDocument s = .ok v ↔
    ∃ w, readAll ⟨some digitLimit, some '\uFFFD'⟩ s.toList = .ok w ∧ w.merged = v := by
  unfold readDocument
  dsimp only
  split
  · rename_i w read
    simp [read]
  · rename_i e read
    simp [read]

/-- What a document holds has every key once, and its whole numbers can be written. -/
theorem readDocument_settled {s : String} {v : Value} (h : readDocument s = .ok v) :
    v.merged = v ∧ v.Counted Short := by
  obtain ⟨w, read, rfl⟩ := readDocument_eq_ok.1 h
  exact ⟨w.merged_merged, w.counted_merged (readAll_counted rfl read)⟩

/-- Line breaks behind a written value do not matter. -/
theorem readAll_written_break {p : Int → Prop} (takes : ∀ i, p i → o.Takes i) (f : Format)
    {v : Value} (whole : v.Whole p) : readAll o (writeValue f 0 v ++ ['\n']) = .ok v := by
  obtain ⟨c, cs, text, begins⟩ := writeValue_begins (f := f) whole 0
  have mark : (writeValue f 0 v ++ ['\n']).head? ≠ some '\uFEFF' := by
    rw [text]
    simpa using begins.2.2
  have enough : 2 * (writeValue f 0 v).length ≤
      2 * (writeValue f 0 v ++ ['\n']).length + 2 + 1 := by
    rw [List.length_append]
    omega
  have read := readValue_written takes f v 0 _ ['\n'] whole (ends_cons (by decide)) enough
  rw [readAll, if_neg mark, skipSpace_value whole]
  exact bind_of_ok read rfl

/-- A document that was written is read as it was. -/
theorem readDocument_writeDocument {v : Value} (exact : v.Exact) (once : v.merged = v) :
    readDocument (writeDocument v) = .ok v := by
  refine readDocument_eq_ok.2 ⟨v, ?_, once⟩
  have text : (writeDocument v).toList = writeValue documentFormat 0 v ++ ['\n'] := by
    simp [writeDocument, write]
  rw [text]
  exact readAll_written_break (fun _ => Options.takes_of_short rfl) documentFormat exact

/-- There is no carriage return in a written document, so a file gives it back as it is. -/
theorem writeDocument_no_return {p : Int → Prop} {v : Value} (whole : v.Whole p) :
    '\r' ∉ (writeDocument v).toList := by
  simp [writeDocument, write, writeValue_no_return 0 whole]

/-- What was read from a document, written and read again, is what was read at first. -/
theorem readDocument_again {s : String} {v : Value} {p : Int → Prop} (whole : v.Whole p)
    (h : readDocument s = .ok v) : readDocument (writeDocument v) = .ok v := by
  obtain ⟨once, counted⟩ := readDocument_settled h
  exact readDocument_writeDocument (whole.of_counted counted) once

end Json

end Storyworld
