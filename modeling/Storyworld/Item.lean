import Storyworld.Schema.Scalar

/-!
Items of an inventory.
-/

namespace Storyworld

inductive Slot where
  | top
  | bottom
  | underwear
  | panties
  | shoes
  | socks
  | accessory
  deriving Repr, DecidableEq

def Slot.names : List (String × Slot) := [
    ("top", top), ("bottom", bottom), ("underwear", underwear), ("panties", panties),
    ("shoes", shoes), ("socks", socks), ("accessory", accessory)]

def Slot.name : Slot → String
  | top => "top"
  | bottom => "bottom"
  | underwear => "underwear"
  | panties => "panties"
  | shoes => "shoes"
  | socks => "socks"
  | accessory => "accessory"

structure Item where
  id : String
  name : String
  description : String
  icon : String
  slot : Option Slot
  deriving Repr, DecidableEq

/-- A value or none, as an optional entry of a document. -/
def Value.ofOption {α : Type} (f : α → Value) : Option α → Value
  | some a => f a
  | none => .null

def Value.ofTextOption : Option String → Value := Value.ofOption .text

/-- The entries that have a value. -/
def Value.presentEntries (entries : Entries) : Entries :=
  entries.filter fun e => match e.2 with
    | .null => false
    | _ => true

namespace Item

def read : Schema.Reader Item :=
  Schema.model fun es => Item.mk
    <$> Schema.required es ["id"] Schema.text
    <*> Schema.required es ["name"] Schema.text
    <*> Schema.optional es ["description"] "" Schema.text
    <*> Schema.optional es ["icon"] "Package" Schema.text
    <*> Schema.optional es ["slot"] none (Schema.nullable (Schema.choice Slot.names))

def fields (item : Item) : Entries := [
    ("id", .text item.id),
    ("name", .text item.name),
    ("description", .text item.description),
    ("icon", .text item.icon),
    ("slot", .ofTextOption (item.slot.map Slot.name))]

def toValue (item : Item) : Value :=
  .mapping item.fields

end Item

end Storyworld
