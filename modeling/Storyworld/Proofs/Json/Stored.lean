import Storyworld.Proofs.Json.RoundTrip

/-!
Written values as files hold them. There is no carriage return in the text, so a file gives it back
as it is. A reader that limits the digits of whole numbers refuses the text or finds the very value
that was written, since what it reads it would read without its limit as well.
-/

namespace Storyworld.Json

variable {f : Format} {o : Options} {p : Int → Prop}

theorem escape_no_return (c : Char) : '\r' ∉ escape c := by
  intro mem
  obtain ⟨e, letter, -, value⟩ | ⟨hex, -⟩ | ⟨plain, -, -, visible⟩ := escape_cases c
  · rw [letter] at mem
    have same : e = '\r' := by simpa [eq_comm] using mem
    rw [same] at value
    cases value
  · have digit : ∀ d < 16, Text.hexDigit d ≠ '\r' := by decide
    have each (n : Nat) : '\r' ≠ Text.hexDigit (n % 16) :=
      (digit (n % 16) (Nat.mod_lt n (by decide))).symm
    rw [hex, hexText_four] at mem
    simp [each] at mem
  · rw [plain, List.mem_singleton] at mem
    rw [← mem] at visible
    exact visible (by decide)

theorem quote_no_return (cs : List Char) : '\r' ∉ quote cs := by
  simp [quote, escape_no_return]

theorem lineStart_no_return (f : Format) (depth : Nat) : '\r' ∉ f.lineStart depth := by
  unfold Format.lineStart
  split <;> simp [List.mem_replicate]

theorem colon_no_return (f : Format) : '\r' ∉ f.colon := by
  unfold Format.colon
  split <;> decide

theorem whole_no_return (i : Int) : '\r' ∉ i.repr.toList := by
  obtain ⟨n, -, cases⟩ := repr_cases i
  have digits : '\r' ∉ Nat.toDigits 10 n := fun mem => nomatch Decimal.digits_isDigit n _ mem
  obtain ⟨-, text⟩ | ⟨-, text⟩ := cases <;> simp [text, digits]

mutual

theorem writeValue_no_return : ∀ {v : Value} (depth : Nat), v.Whole p →
    '\r' ∉ writeValue f depth v
  | .null, _, _ => by simp [writeValue]
  | .bool true, _, _ => by simp [writeValue]
  | .bool false, _, _ => by simp [writeValue]
  | .int i, _, _ => whole_no_return i
  | .text s, _, _ => quote_no_return s.toList
  | .list [], _, _ => by simp [writeValue]
  | .list (v :: vs), depth, .list each => by
    have items := writeItems_no_return (depth + 1) each
    simp [writeValue, items, lineStart_no_return]
  | .mapping [], _, _ => by simp [writeValue]
  | .mapping (e :: es), depth, .mapping each => by
    have entries := writeEntries_no_return (depth + 1) each
    simp [writeValue, entries, lineStart_no_return]

theorem writeItems_no_return : ∀ {vs : List Value} (depth : Nat), (∀ v ∈ vs, v.Whole p) →
    '\r' ∉ writeItems f depth vs
  | [], _, _ => by simp [writeItems]
  | [v], depth, each => by
    have only := writeValue_no_return depth (each v List.mem_cons_self)
    simp [writeItems, only, lineStart_no_return]
  | v :: w :: vs, depth, each => by
    have first := writeValue_no_return depth (each v List.mem_cons_self)
    have others := writeItems_no_return depth fun u mem =>
      each u (List.mem_cons_of_mem v mem)
    simp [writeItems, first, others, lineStart_no_return]

theorem writeEntries_no_return : ∀ {es : Entries} (depth : Nat),
    (∀ k v, (k, v) ∈ es → v.Whole p) → '\r' ∉ writeEntries f depth es
  | [], _, _ => by simp [writeEntries]
  | [(k, v)], depth, each => by
    have only := writeValue_no_return depth (each k v List.mem_cons_self)
    simp [writeEntries, only, lineStart_no_return, quote_no_return, colon_no_return]
  | (k, v) :: e :: es, depth, each => by
    have first := writeValue_no_return depth (each k v List.mem_cons_self)
    have others := writeEntries_no_return depth fun k v mem =>
      each k v (List.mem_cons_of_mem _ mem)
    simp [writeEntries, first, others, lineStart_no_return, quote_no_return, colon_no_return]

end

/-- The same options with no limit on digits. -/
def Options.unlimited (o : Options) : Options :=
  { o with maxDigits := none }

theorem wholeValue_unlimited {negative : Bool} {ds : List Char} {v : Value}
    (h : wholeValue o negative ds = .ok v) : wholeValue o.unlimited negative ds = .ok v := by
  unfold wholeValue at h
  dsimp only at h
  split at h
  · split at h
    · cases h
    · exact h
  · exact h

theorem readNumber_unlimited {cs : List Char} {r : Value × List Char}
    (h : readNumber o cs = .ok r) : readNumber o.unlimited cs = .ok r := by
  revert h
  unfold readNumber
  dsimp only
  split
  all_goals
    intro h
    split at h
    · cases h
    · rename_i some
      rw [if_neg some]
      split at h
      · rename_i plain
        rw [if_pos plain]
        obtain ⟨v, value, same⟩ := map_eq_ok.1 h
        exact map_eq_ok.2 ⟨v, wholeValue_unlimited value, same⟩
      · rename_i real
        rwa [if_neg real]

mutual

theorem readValue_unlimited : ∀ (fuel : Nat) {cs : List Char} {r : Value × List Char},
    readValue o fuel cs = .ok r → readValue o.unlimited fuel cs = .ok r
  | 0, cs, r, h => nomatch h
  | fuel + 1, cs, r, h => by
    rw [readValue.eq_def] at h ⊢
    dsimp only at h ⊢
    split at h
    · exact h
    · split at h
      · exact h
      · obtain ⟨p, items, same⟩ := map_eq_ok.1 h
        exact map_eq_ok.2 ⟨p, readItems_unlimited fuel items, same⟩
    · split at h
      · exact h
      · obtain ⟨p, entries, same⟩ := map_eq_ok.1 h
        exact map_eq_ok.2 ⟨p, readEntries_unlimited fuel entries, same⟩
    · split at h
      · exact h
      · exact readNumber_unlimited h

theorem readItems_unlimited : ∀ (fuel : Nat) {cs : List Char} {r : List Value × List Char},
    readItems o fuel cs = .ok r → readItems o.unlimited fuel cs = .ok r
  | 0, cs, r, h => nomatch h
  | fuel + 1, cs, r, h => by
    rw [readItems.eq_def] at h ⊢
    dsimp only at h ⊢
    obtain ⟨p, first, later⟩ := bind_eq_ok.1 h
    refine bind_eq_ok.2 ⟨p, readValue_unlimited fuel first, ?_⟩
    split at later
    · exact later
    · obtain ⟨q, others, same⟩ := bind_eq_ok.1 later
      exact bind_eq_ok.2 ⟨q, readItems_unlimited fuel others, same⟩
    · cases later

theorem readEntries_unlimited : ∀ (fuel : Nat) {cs : List Char} {r : Entries × List Char},
    readEntries o fuel cs = .ok r → readEntries o.unlimited fuel cs = .ok r
  | 0, cs, r, h => nomatch h
  | fuel + 1, cs, r, h => by
    rw [readEntries.eq_def] at h ⊢
    dsimp only at h ⊢
    split at h
    · obtain ⟨k, key, later⟩ := bind_eq_ok.1 h
      refine bind_eq_ok.2 ⟨k, key, ?_⟩
      split at later
      · obtain ⟨p, value, last⟩ := bind_eq_ok.1 later
        refine bind_eq_ok.2 ⟨p, readValue_unlimited fuel value, ?_⟩
        split at last
        · exact last
        · obtain ⟨q, others, same⟩ := bind_eq_ok.1 last
          exact bind_eq_ok.2 ⟨q, readEntries_unlimited fuel others, same⟩
        · cases last
      · cases later
    · cases h

end

theorem readAll_unlimited {cs : List Char} {v : Value} (h : readAll o cs = .ok v) :
    readAll o.unlimited cs = .ok v := by
  by_cases mark : cs.head? = some '\uFEFF'
  · rw [readAll, if_pos mark] at h
    cases h
  · rw [readAll, if_neg mark] at h ⊢
    obtain ⟨r, value, last⟩ := bind_eq_ok.1 h
    exact bind_eq_ok.2 ⟨r, readValue_unlimited _ value, last⟩

/-- Whatever reads a value that was written finds that value. -/
theorem readAll_stored {v w : Value} (whole : v.Whole p)
    (read : readAll o (writeValue f 0 v) = .ok w) : w = v := by
  have takes (i : Int) (_ : p i) : o.unlimited.Takes i := by
    intro limit same
    cases same
  have again := readAll_written takes f whole
  cases again.symm.trans (readAll_unlimited read)
  rfl

end Storyworld.Json
