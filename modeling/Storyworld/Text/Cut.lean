/-!
Cutting text: at a character, and behind a known beginning.
-/

namespace Storyworld.Text

/-- The text before the first occurrence of a character and the text after it, if it occurs. -/
def cutAt (x : Char) : List Char → Option (List Char × List Char)
  | [] => none
  | c :: cs => if c == x then some ([], cs) else (cutAt x cs).map fun p => (c :: p.1, p.2)

theorem cutAt_eq_some {x : Char} {cs a b : List Char} (h : cutAt x cs = some (a, b)) :
    cs = a ++ x :: b ∧ x ∉ a := by
  induction cs generalizing a with
  | nil => simp [cutAt] at h
  | cons c r ih =>
    by_cases hc : c = x
    · simp_all [cutAt]
    · simp only [cutAt, beq_iff_eq, hc, if_false, Option.map_eq_some_iff, Prod.mk.injEq] at h
      obtain ⟨⟨p, q⟩, hp, rfl, rfl⟩ := h
      have := ih hp
      simp_all [Ne.symm hc]

theorem cutAt_eq_none {x : Char} {cs : List Char} : cutAt x cs = none ↔ x ∉ cs := by
  induction cs with
  | nil => simp [cutAt]
  | cons c r ih =>
    by_cases hc : c = x
    · simp [cutAt, hc]
    · simp [cutAt, hc, ih, Ne.symm hc]

/-- The two sides of the first occurrence; the second is empty if there is none. -/
def partAt (x : Char) (cs : List Char) : List Char × List Char :=
  (cutAt x cs).getD (cs, [])

/-- The rest of a text that begins in a given way. -/
def stripLeading : List Char → List Char → Option (List Char)
  | [], cs => some cs
  | _ :: _, [] => none
  | x :: xs, c :: cs => if x == c then stripLeading xs cs else none

theorem stripLeading_eq_some {o cs rest : List Char} (h : stripLeading o cs = some rest) :
    cs = o ++ rest := by
  induction o generalizing cs with
  | nil => simpa [stripLeading] using h
  | cons x xs ih =>
    cases cs with
    | nil => simp [stripLeading] at h
    | cons c cs =>
      simp only [stripLeading, beq_iff_eq] at h
      split at h
      · rename_i hx
        simp [hx, ih h]
      · simp at h

end Storyworld.Text
