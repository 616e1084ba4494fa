/-!
Failures of arithmetic, of text limits and of look-ups that no rule handles. They leave every
computation that meets them.
-/

namespace Storyworld

inductive Fault where
  /-- A whole number has more decimal digits than may be written or read. -/
  | tooManyDigits
  /-- A remainder has no value: the dividend is infinite. -/
  | remainderUndefined
  /-- A whole number lies beyond the largest floating-point number. -/
  | wholeTooLarge
  /-- A quotient of whole numbers lies beyond the largest floating-point number. -/
  | quotientTooLarge
  /-- A repetition count in a pattern is too large. -/
  | repetitionTooLarge
  /-- A pattern asks for the letters of ASCII and of Unicode at once. -/
  | lettersContradict
  /-- A list or a mapping was used as a key. -/
  | unusableKey (kind : String)
  deriving Repr, DecidableEq, Inhabited

namespace Fault

def message : Fault → Option String
  | tooManyDigits => none
  | remainderUndefined => some "math domain error"
  | wholeTooLarge => some "int too large to convert to float"
  | quotientTooLarge => some "integer division result too large for a float"
  | repetitionTooLarge => some "the repetition number is too large"
  | lettersContradict => some "ASCII and UNICODE flags are incompatible"
  | unusableKey kind => some ("unhashable type: '" ++ kind ++ "'")

/-- Faults of overflow and of look-ups; the others are faults of form and of domain. -/
def isComputational : Fault → Bool
  | wholeTooLarge | quotientTooLarge | repetitionTooLarge | unusableKey _ => true
  | _ => false

end Fault

end Storyworld
