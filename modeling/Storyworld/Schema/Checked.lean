import Storyworld.Value

/-!
Results of reading typed data out of plain values. Reading goes on after a misfit, so that all
misfits of a document are found; each is reported with the way to its place.
-/

namespace Storyworld.Schema

inductive Kind where
  | missing
  | text
  | model
  | whole
  | wholeFormat
  | wholeFromFloat
  | wholeSize
  | finite
  | float
  | floatFormat
  | truth
  | truthFormat
  | list
  | mapping
  | choice
  | document
  deriving Repr, DecidableEq

def Kind.name : Kind → String
  | missing => "missing"
  | text => "string_type"
  | model => "model_type"
  | whole => "int_type"
  | wholeFormat => "int_parsing"
  | wholeFromFloat => "int_from_float"
  | wholeSize => "int_parsing_size"
  | finite => "finite_number"
  | float => "float_type"
  | floatFormat => "float_parsing"
  | truth => "bool_type"
  | truthFormat => "bool_parsing"
  | list => "list_type"
  | mapping => "dict_type"
  | choice => "literal_error"
  | document => "json_invalid"

inductive Step where
  | key (s : String)
  | index (i : Nat)
  deriving Repr, DecidableEq

structure Misfit where
  kind : Kind
  path : List Step
  deriving Repr, DecidableEq

def Misfit.under (s : Step) (m : Misfit) : Misfit :=
  ⟨m.kind, s :: m.path⟩

inductive Checked (α : Type) where
  | fits (a : α)
  | misfits (ms : List Misfit)

namespace Checked

variable {α β : Type}

def misfit (k : Kind) : Checked α :=
  .misfits [⟨k, []⟩]

def map (f : α → β) : Checked α → Checked β
  | .fits a => .fits (f a)
  | .misfits ms => .misfits ms

/-- Both results are needed, and the misfits of both are kept. -/
def ap : Checked (α → β) → Checked α → Checked β
  | .fits f, .fits a => .fits (f a)
  | .fits _, .misfits ms => .misfits ms
  | .misfits ms, .fits _ => .misfits ms
  | .misfits ms, .misfits ns => .misfits (ms ++ ns)

instance : Applicative Checked where
  pure := .fits
  seq f x := ap f (x ())
  map := map

def under (s : Step) : Checked α → Checked α
  | .fits a => .fits a
  | .misfits ms => .misfits (ms.map (Misfit.under s))

def toExcept : Checked α → Except (List Misfit) α
  | .fits a => .ok a
  | .misfits ms => .error ms

theorem ap_eq_fits {f : Checked (α → β)} {x : Checked α} {b : β} (h : ap f x = .fits b) :
    ∃ g a, f = .fits g ∧ x = .fits a ∧ b = g a := by
  cases f <;> cases x <;> simp_all [ap]

end Checked

abbrev Reader (α : Type) := Value → Checked α

variable {α : Type}

/-- The first of the names that has an entry, with its value. -/
def fieldUnder (entries : Entries) (names : List String) : Option (String × Value) :=
  names.findSome? fun n => (lookupLast n entries).map fun v => (n, v)

/-- A field that has to be there. It is reported missing under its first name. -/
def required (entries : Entries) (names : List String) (read : Reader α) : Checked α :=
  match fieldUnder entries names with
  | some (n, v) => (read v).under (.key n)
  | none => .misfits [⟨.missing, [.key (names.headD "")]⟩]

def optional (entries : Entries) (names : List String) (absent : α) (read : Reader α) :
    Checked α :=
  match fieldUnder entries names with
  | some (n, v) => (read v).under (.key n)
  | none => .fits absent

def nullable (read : Reader α) : Reader (Option α)
  | .null => .fits none
  | v => (read v).map some

def model (read : Entries → Checked α) : Reader α
  | .mapping entries => read entries
  | _ => .misfit .model

def readItems (read : Reader α) : Nat → List Value → Checked (List α)
  | _, [] => .fits []
  | i, v :: rest => List.cons <$> (read v).under (.index i) <*> readItems read (i + 1) rest

def list (read : Reader α) : Reader (List α)
  | .list items => readItems read 0 items
  | _ => .misfit .list

def readEntries (read : Reader α) : Entries → Checked (List (String × α))
  | [] => .fits []
  | (k, v) :: rest =>
    (fun a as => (k, a) :: as) <$> (read v).under (.key k) <*> readEntries read rest

/-- A mapping with values of one type. Every entry is read, also one whose key occurs again. -/
def mapping (read : Reader α) : Reader (List (String × α))
  | .mapping entries => (readEntries read entries).map mergeEntries
  | _ => .misfit .mapping

end Storyworld.Schema
