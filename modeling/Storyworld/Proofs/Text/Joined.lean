import Storyworld.Text.Blank
import Storyworld.Text.Cut

/-!
Cutting and trimming of joined texts. A cut goes through what has not got the character, and nothing
is trimmed off a text that neither begins nor ends with a blank, nor off what is in front of it.
-/

namespace Storyworld.Text

theorem cutAt_append_left {x : Char} {a : List Char} (absent : x ∉ a) (b : List Char) :
    cutAt x (a ++ b) = (cutAt x b).map fun p => (a ++ p.1, p.2) := by
  induction a with
  | nil => simp
  | cons c a ih =>
    rw [List.mem_cons, not_or] at absent
    obtain ⟨other, later⟩ := absent
    simp [cutAt, Ne.symm other, ih later, Function.comp_def]

theorem cutAt_append {x : Char} {a : List Char} (absent : x ∉ a) (b : List Char) :
    cutAt x (a ++ x :: b) = some (a, b) := by
  simp [cutAt_append_left absent, cutAt]

theorem partAt_append {x : Char} {a : List Char} (absent : x ∉ a) (b : List Char) :
    partAt x (a ++ x :: b) = (a, b) := by
  rw [partAt, cutAt_append absent, Option.getD_some]

theorem partAt_of_notMem {x : Char} {a : List Char} (absent : x ∉ a) : partAt x a = (a, []) := by
  rw [partAt, cutAt_eq_none.2 absent, Option.getD_none]

theorem dropWhile_of_head {p : Char → Bool} {cs : List Char} (front : ∀ c ∈ cs.head?, p c = false) :
    cs.dropWhile p = cs := by
  cases cs with
  | nil => rfl
  | cons c cs => simp [front c rfl]

theorem trimEnd_append {p : Char → Bool} {a : List Char} (back : ∀ c ∈ a.getLast?, p c = false)
    (b : List Char) : trimEnd p (a ++ b) = a ++ trimEnd p b := by
  have kept : a.reverse.dropWhile p = a.reverse :=
    dropWhile_of_head (by rwa [List.head?_reverse])
  rw [trimEnd, trimEnd, List.reverse_append, List.dropWhile_append, kept]
  split
  · rename_i empty
    simp [List.isEmpty_iff.1 empty]
  · simp

/-- Nothing is trimmed off a text with no blank at its ends. -/
theorem trim_of_ends {cs : List Char} (front : ∀ c ∈ cs.head?, isBlank c = false)
    (back : ∀ c ∈ cs.getLast?, isBlank c = false) : trim cs = cs := by
  have whole := trimEnd_append back []
  rw [List.append_nil] at whole
  rw [trim, trimBy, dropWhile_of_head front, whole]
  simp [trimEnd]

/-- A text without blanks at its ends stays in front of one that does not begin with a blank. -/
theorem trim_append {a b : List Char} (full : a ≠ []) (front : ∀ c ∈ a.head?, isBlank c = false)
    (back : ∀ c ∈ a.getLast?, isBlank c = false) (start : ∀ c ∈ b.head?, isBlank c = false) :
    trim (a ++ b) = a ++ trim b := by
  have head : (a ++ b).head? = a.head? := by
    obtain ⟨c, a, rfl⟩ := List.exists_cons_of_ne_nil full
    rfl
  rw [trim, trimBy, dropWhile_of_head (head ▸ front), trimEnd_append back, trim, trimBy,
    dropWhile_of_head start]

end Storyworld.Text
