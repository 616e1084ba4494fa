/-!
Sets of characters given by spans of code points.
-/

namespace Storyworld.Text

/-- A span holds both of its ends. -/
def inSpans (spans : List (Nat × Nat)) (c : Char) : Bool :=
  spans.any fun s => s.1 ≤ c.toNat && c.toNat ≤ s.2

theorem inSpans_iff (spans : List (Nat × Nat)) (c : Char) :
    inSpans spans c = true ↔ ∃ s ∈ spans, s.1 ≤ c.toNat ∧ c.toNat ≤ s.2 := by
  simp [inSpans, List.any_eq_true]

end Storyworld.Text
