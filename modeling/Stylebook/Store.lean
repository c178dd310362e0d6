import Stylebook.Assoc
import Stylebook.Item.Basic

/-!
# Stores

The items of all sources in the order in which they came, with an index of their names. Of items
with one name the index gives the last.
-/

namespace Stylebook

/-- Items with an index: each name with the place of its item. -/
structure Store where
  items : List Item := []
  index : Assoc Nat := []
  /-- Whether the items have been linked. -/
  resolved : Bool := false

namespace Store

/-- Add an item at the end; it takes over its name in the index. -/
def push (s : Store) (item : Item) : Store :=
  { s with items := s.items ++ [item], index := Assoc.put s.index item.name s.items.length }

/-- The store of some items. -/
def ofItems (items : List Item) : Store :=
  items.foldl push {}

/-- The place of the item that the index gives for a name. -/
def place? (s : Store) (name : String) : Option Nat :=
  Assoc.get? s.index name

/-- The item that the index gives for a name. -/
def get? (s : Store) (name : String) : Option Item :=
  (s.place? name).bind (s.items[·]?)

/-- The names of the index, in order. -/
def names (s : Store) : List String :=
  Assoc.keys s.index

/-- Change the item that the index gives for a name. -/
def modify (s : Store) (name : String) (f : Item → Item) : Store :=
  match s.place? name with
  | none => s
  | some i => { s with items := s.items.modify i f }

end Store

end Stylebook
