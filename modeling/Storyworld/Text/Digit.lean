/-!
Decimal digits of all scripts of Unicode 14. Each script has its ten digits in a row.
-/

namespace Storyworld.Text

/-- The code points of the digits zero. -/
def zeros : List Nat := [
    48, 1632, 1776, 1984, 2406, 2534, 2662, 2790, 2918, 3046, 3174, 3302, 3430, 3558, 3664, 3792,
    3872, 4160, 4240, 6112, 6160, 6470, 6608, 6784, 6800, 6992, 7088, 7232, 7248, 42528, 43216,
    43264, 43472, 43504, 43600, 44016, 65296, 66720, 68912, 69734, 69872, 69942, 70096, 70384,
    70736, 70864, 71248, 71360, 71472, 71904, 72016, 72784, 73040, 73120, 92768, 92864, 93008,
    120782, 120792, 120802, 120812, 120822, 123200, 123632, 125264, 130032]

def digitOf? (n first : Nat) : Option Nat :=
  if first ≤ n && n ≤ first + 9 then some (n - first) else none

/-- The value of a decimal digit of any script. -/
def digitValue? (c : Char) : Option Nat :=
  if c.toNat < 128 then digitOf? c.toNat 48 else zeros.findSome? (digitOf? c.toNat)

def isDigit (c : Char) : Bool :=
  (digitValue? c).isSome

theorem digitOf?_le_nine {n first d : Nat} (h : digitOf? n first = some d) : d ≤ 9 := by
  unfold digitOf? at h
  split at h
  case isTrue hz =>
    simp only [Bool.and_eq_true, decide_eq_true_eq] at hz
    simp only [Option.some.injEq] at h
    omega
  case isFalse => simp at h

theorem digitValue?_le_nine {c : Char} {d : Nat} (h : digitValue? c = some d) : d ≤ 9 := by
  unfold digitValue? at h
  split at h
  · exact digitOf?_le_nine h
  · obtain ⟨z, _, hz⟩ := List.exists_of_findSome?_eq_some h
    exact digitOf?_le_nine hz

end Storyworld.Text
