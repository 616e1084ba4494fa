import Storyworld.Decimal.Layout
import Storyworld.Decimal.Whole
import Storyworld.Text.Quoted

/-!
Values of documents and of condition expressions. A mapping keeps its entries in the order of
their first writing; where a key occurs twice the later entry counts.
-/

namespace Storyworld

inductive Value where
  | null
  | bool (b : Bool)
  | int (i : Int)
  | float (x : Float)
  | text (s : String)
  | list (items : List Value)
  | mapping (entries : List (String × Value))
  deriving Inhabited

abbrev Entries := List (String × Value)

/-- The value under a key, from the last entry that has it. -/
def lookupLast {α : Type} (key : String) : List (String × α) → Option α
  | [] => none
  | (k, v) :: rest =>
    match lookupLast key rest with
    | some w => some w
    | none => if k = key then some v else none

/-- Replaces the value under a key that is present, and adds a new key at the end. -/
def putEntry {α : Type} (key : String) (v : α) : List (String × α) → List (String × α)
  | [] => [(key, v)]
  | (k, w) :: rest => if k = key then (k, v) :: rest else (k, w) :: putEntry key v rest

/-- Every key once, at its first place and with its last value. -/
def mergeEntries {α : Type} (entries : List (String × α)) : List (String × α) :=
  entries.foldl (fun m e => putEntry e.1 e.2 m) []

theorem lookupLast_putEntry {α : Type} (key k : String) (v : α) (m : List (String × α))
    (h : (m.map Prod.fst).Nodup) :
    lookupLast k (putEntry key v m) = if k = key then some v else lookupLast k m := by
  induction m with
  | nil => simp [putEntry, lookupLast, eq_comm]
  | cons e rest ih =>
    obtain ⟨k', w⟩ := e
    have hn := List.nodup_cons.1 h
    by_cases hk : k' = key
    · subst hk
      have hrest : lookupLast k' rest = none := by
        have hmem : k' ∉ rest.map Prod.fst := hn.1
        clear ih h hn
        induction rest with
        | nil => rfl
        | cons f r ih =>
          obtain ⟨a, b⟩ := f
          simp only [List.map_cons, List.mem_cons, not_or] at hmem
          simp [lookupLast, ih hmem.2, Ne.symm hmem.1]
      by_cases hkk : k = k'
      · subst hkk
        simp [putEntry, lookupLast, hrest]
      · simp [putEntry, lookupLast, hkk, Ne.symm hkk]
    · have := ih hn.2
      by_cases hkk : k = key
      · subst hkk
        simp_all [putEntry, lookupLast]
      · simp_all [putEntry, lookupLast]

namespace Value

def get? (v : Value) (key : String) : Option Value :=
  match v with
  | mapping entries => lookupLast key entries
  | _ => none

/-- The value under a key, where a missing key and an absent value are the same. -/
def field (entries : Entries) (key : String) : Option Value :=
  match lookupLast key entries with
  | some null => none
  | r => r

/-- The name of a value's kind, as messages give it. -/
def kindName : Value → String
  | null => "NoneType"
  | bool _ => "bool"
  | int _ => "int"
  | float _ => "float"
  | text _ => "str"
  | list _ => "list"
  | mapping _ => "dict"

mutual

/-- Every mapping with each key once, at all depths. -/
def merged : Value → Value
  | list items => list (mergedItems items)
  | mapping entries => mapping (mergeEntries (mergedEntries entries))
  | v => v

def mergedItems : List Value → List Value
  | [] => []
  | v :: rest => merged v :: mergedItems rest

def mergedEntries : List (String × Value) → List (String × Value)
  | [] => []
  | (k, v) :: rest => (k, merged v) :: mergedEntries rest

end

mutual

/-- How deep lists and mappings stand in each other. -/
def depth : Value → Nat
  | list items => depthOfItems items + 1
  | mapping entries => depthOfEntries entries + 1
  | _ => 0

def depthOfItems : List Value → Nat
  | [] => 0
  | v :: rest => max (depth v) (depthOfItems rest)

def depthOfEntries : List (String × Value) → Nat
  | [] => 0
  | (_, v) :: rest => max (depth v) (depthOfEntries rest)

end

mutual

/-- A value as messages show it. -/
def shown : Value → Except Fault String
  | null => .ok "None"
  | bool b => .ok (if b then "True" else "False")
  | int i => Decimal.writeWhole i
  | float x => .ok (Decimal.plainLayout.text x)
  | text s => .ok (Text.quoted s)
  | list items => do return "[" ++ (← shownItems items) ++ "]"
  | mapping entries => do return "\x7b" ++ (← shownEntries entries) ++ "\x7d"

def shownItems : List Value → Except Fault String
  | [] => .ok ""
  | [v] => shown v
  | v :: w :: rest => do return (← shown v) ++ ", " ++ (← shownItems (w :: rest))

def shownEntries : List (String × Value) → Except Fault String
  | [] => .ok ""
  | [(k, v)] => do return Text.quoted k ++ ": " ++ (← shown v)
  | (k, v) :: e :: rest => do
    return Text.quoted k ++ ": " ++ (← shown v) ++ ", " ++ (← shownEntries (e :: rest))

end

/-- A value as plain text: like the shown form, but a text stands for itself. -/
def plain : Value → Except Fault String
  | text s => .ok s
  | v => v.shown

end Value

/-- Names in brackets, as messages list them. -/
def shownNames (names : List String) : String :=
  "[" ++ String.intercalate ", " (names.map Text.quoted) ++ "]"

end Storyworld
