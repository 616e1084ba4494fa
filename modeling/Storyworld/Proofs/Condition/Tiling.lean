import Mathlib
import Storyworld.Proofs.Condition.Prefixes

/-!
Where tokens stand. Each token has the text that the condition has at its place, the tokens follow
one another without overlap up to the mark of the end, and what they leave out is blank. Where
there are no tokens, the failure stands behind the longest beginning that has some.
-/

namespace Storyworld.Condition

def Token.Covers (t : Token) (i : Nat) : Prop :=
  t.pos ≤ i ∧ i < t.pos + t.text.length

/-- Tokens that make up a text from a place on. -/
structure Tiles (cs : List Char) (start : Nat) (ts : List Token) : Prop where
  slice : ∀ t ∈ ts, cs.extract t.pos (t.pos + t.text.length) = t.text
  full : ∀ t ∈ ts, t.kind ≠ .eof → t.text ≠ []
  ordered : ts.Pairwise fun t u => t.pos < u.pos ∧ t.pos + t.text.length ≤ u.pos
  behind : ∀ t ∈ ts, start ≤ t.pos
  outside : ∀ i c, start ≤ i → cs[i]? = some c → (∀ t ∈ ts, ¬ t.Covers i) → Text.isBlank c = true
  ended : ∃ body, ts = body ++ [⟨.eof, [], cs.length⟩] ∧ ∀ t ∈ body, t.kind ≠ .eof

namespace Tiles

variable {cs : List Char} {start stop : Nat} {ts : List Token}

theorem done (cs : List Char) : Tiles cs cs.length [⟨.eof, [], cs.length⟩] where
  slice := by simp
  full := by simp
  ordered := List.pairwise_singleton _ _
  behind := by simp
  outside := by
    intro i c le here
    rw [List.getElem?_eq_none le] at here
    cases here
  ended := ⟨[], rfl, by simp⟩

theorem skip (h : Tiles cs stop ts) (le : start ≤ stop)
    (blank : ∀ i c, start ≤ i → i < stop → cs[i]? = some c → Text.isBlank c = true) :
    Tiles cs start ts where
  slice := h.slice
  full := h.full
  ordered := h.ordered
  behind t mem := Nat.le_trans le (h.behind t mem)
  outside i c low here bare := by
    by_cases early : i < stop
    · exact blank i c low early here
    · exact h.outside i c (Nat.le_of_not_lt early) here bare
  ended := h.ended

theorem cons {t : Token} (h : Tiles cs (t.pos + t.text.length) ts) (inside : t.kind ≠ .eof)
    (some : t.text ≠ []) (slice : cs.extract t.pos (t.pos + t.text.length) = t.text) :
    Tiles cs t.pos (t :: ts) where
  slice := List.forall_mem_cons.2 ⟨slice, h.slice⟩
  full := List.forall_mem_cons.2 ⟨fun _ => some, h.full⟩
  ordered := by
    refine List.pairwise_cons.2 ⟨fun u mem => ?_, h.ordered⟩
    have long := List.length_pos_iff.2 some
    have later := h.behind u mem
    omega
  behind := List.forall_mem_cons.2 ⟨Nat.le_refl _, fun u mem =>
    Nat.le_trans (Nat.le_add_right _ _) (h.behind u mem)⟩
  outside i c low here bare := by
    obtain ⟨first, later⟩ := List.forall_mem_cons.1 bare
    exact h.outside i c (Nat.le_of_not_lt fun high => first ⟨low, high⟩) here later
  ended := by
    obtain ⟨body, rfl, marks⟩ := h.ended
    exact ⟨t :: body, rfl, List.forall_mem_cons.2 ⟨inside, marks⟩⟩

end Tiles

section

variable (front text rest : List Char)

theorem extract_between :
    (front ++ text ++ rest).extract front.length (front.length + text.length) = text := by
  simp [List.extract_eq_take_drop]

variable {front text rest}

theorem mem_between {i : Nat} {c : Char} (low : front.length ≤ i)
    (high : i < front.length + text.length) (here : (front ++ text ++ rest)[i]? = some c) :
    c ∈ text := by
  rw [List.append_assoc, List.getElem?_append_right low,
    List.getElem?_append_left (by omega)] at here
  exact List.mem_of_getElem? here

end

theorem Lexes.blank_text {cs text rest : List Char} (h : Lexes cs none text rest) :
    ∀ c ∈ text, Text.isBlank c = true := by
  cases h with
  | blank first run => exact (takeRun_eq.1 run).2.1

theorem tokensFrom_tiles {pos : Nat} {front cs : List Char} {ts : List Token}
    (place : front.length = pos) (h : tokensFrom pos cs = .ok ts) : Tiles (front ++ cs) pos ts := by
  fun_induction tokensFrom pos cs generalizing front ts with
  | case1 => cases h
  | case2 pos cs text rest ts' later kind found _ ih =>
    cases h
    subst place
    have lexes := lexeme?_eq_some.1 found
    have place : (front ++ text).length = front.length + text.length := List.length_append
    have tiles := ih place later
    rw [← lexes.append, ← List.append_assoc]
    exact tiles.cons (lexes.lexed _).inside lexes.ne_nil (extract_between front text rest)
  | case3 pos cs text rest ts' later found _ ih =>
    cases h
    subst place
    have lexes := lexeme?_eq_some.1 found
    have place : (front ++ text).length = front.length + text.length := List.length_append
    have tiles := ih place later
    rw [← lexes.append, ← List.append_assoc]
    exact tiles.skip (Nat.le_add_right _ _) fun i c low high here =>
      lexes.blank_text c (mem_between low high here)
  | case4 pos =>
    cases h
    subst place
    have whole := Tiles.done front
    rwa [List.append_nil]
  | case5 => cases h

theorem tokenize_tiles {cs : List Char} {ts : List Token} (cut : tokenize cs = .ok ts) :
    Tiles cs 0 ts := by
  have tiles := tokensFrom_tiles List.length_nil cut
  rwa [List.nil_append] at tiles

/-- The tokens of a condition tile it, and where it has none, the failure is at the end of the
longest beginning that has tokens. -/
theorem tokens_tile_or_stop_at_stray (cs : List Char) :
    (∀ ts, tokenize cs = .ok ts → Tiles cs 0 ts) ∧
      ∀ e, tokenize cs = .error e →
        cs[e.pos]? = some e.char ∧
          IsGreatest {n | ∃ front, front <+: cs ∧ front.length = n ∧ ∃ ts, tokenize front = .ok ts}
            e.pos := by
  refine ⟨fun ts cut => tokenize_tiles cut, fun e failed => ?_⟩
  obtain ⟨front, behind, ts, rfl, place, cuts, stray⟩ := tokensFrom_eq_error failed
  rw [Nat.zero_add] at place
  rw [place]
  have reached := tokenize_before_stray cuts
  refine ⟨by simp, ⟨front, List.prefix_append _ _, rfl, reached⟩, ?_⟩
  rintro n ⟨longer, starts, rfl, us, cut⟩
  exact length_le_of_tokenize cuts stray starts cut

/-- A number that begins with its point, a text with a blank and an escape in it, and a name and a
number that nothing parts; a lone equals sign begins nothing. -/
theorem tokens_tile_or_stop_at_stray_ledger :
    (∃ ts, tokenize "a.5 >= 'b \\' c'".toList = .ok ts ∧ Tiles "a.5 >= 'b \\' c'".toList 0 ts) ∧
      tokenize "a == b = 'c".toList = .error ⟨'=', 7⟩ ∧
        IsGreatest {n | ∃ front, front <+: "a == b = 'c".toList ∧ front.length = n ∧
          ∃ ts, tokenize front = .ok ts} 7 := by
  have cut : tokenize "a.5 >= 'b \\' c'".toList = .ok [⟨.ident, ['a'], 0⟩,
      ⟨.number, ".5".toList, 1⟩, ⟨.op, ">=".toList, 4⟩, ⟨.string, "'b \\' c'".toList, 7⟩,
      ⟨.eof, [], 15⟩] := by
    cbv
  have stray : tokenize "a == b = 'c".toList = .error ⟨'=', 7⟩ := by cbv
  exact ⟨⟨_, cut, (tokens_tile_or_stop_at_stray _).1 _ cut⟩, stray,
    ((tokens_tile_or_stop_at_stray _).2 _ stray).2⟩

end Storyworld.Condition
