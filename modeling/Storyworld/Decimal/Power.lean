/-!
Powers of the bases of binary and of decimal numbers.
-/

namespace Storyworld.Decimal

/-- A power of two. -/
def pow2 (n : Nat) : Nat := Nat.pow 2 n

/-- A power of ten. -/
def pow10 (n : Nat) : Nat := Nat.pow 10 n

end Storyworld.Decimal
