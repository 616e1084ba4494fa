import Storyworld.Schema.Scalar

/-!
Counters hold a number or a flag.
-/

namespace Storyworld

inductive Counter where
  | flag (b : Bool)
  | number (n : Number)
  deriving Inhabited

namespace Counter

def toValue : Counter → Value
  | flag b => .bool b
  | number n => n.toValue

/-- A text is taken as a flag if it can be, else as a whole number, else as a floating-point one. -/
def read : Schema.Reader Counter
  | .bool b => .fits (.flag b)
  | .int i => .fits (.number (.int i))
  | .float x => .fits (.number (.float x))
  | v =>
    Schema.orElse "bool" ((Schema.truth v).map .flag)
      (Schema.orElse "int" ((Schema.whole v).map fun i => .number (.int i))
        (Schema.lastChoice "float" ((Schema.floatOf v).map fun x => .number (.float x))))

end Counter

abbrev Counters := List (String × Counter)

def countersValue (cs : Counters) : Value :=
  .mapping (cs.map fun c => (c.1, c.2.toValue))

end Storyworld
