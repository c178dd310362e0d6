import Stylebook.Item.Basic
import Stylebook.Value

/-!
# Records

An item as a map for output. Name and kind are always there; what is absent or empty is left out.
-/

namespace Stylebook

/-- The name of a kind, or null. -/
def Kind.value (kind : Option Kind) : Value :=
  .ofOption (fun k => .text k.name) kind

/-- A parameter as a map. -/
def Parameter.record (p : Parameter) : Value :=
  .map [("type", .ofTexts p.types), ("name", .text p.name),
    ("defaultValue", .text p.defaultValue), ("description", .text p.description)]

/-- What a function returns as a map. -/
def Returned.record (r : Returned) : Value :=
  .map [("type", .ofTexts r.types), ("description", .text r.description)]

/-- A requirement as a map. -/
def Requirement.record (r : Requirement) : Value :=
  .map [("item", .text r.target), ("type", Kind.value r.kind)]

/-- A link as a map. -/
def Link.record (l : Link) : Value :=
  .map [("url", .text l.url), ("label", .text l.label)]

/-- A usage as a map. -/
def Usage.record (u : Usage) : Value :=
  .map [("item", .text u.name), ("type", Kind.value u.kind)]

namespace Item

/-- The entry of a value that may be absent. -/
def optionalEntry {α : Type} (key : String) (f : α → Value) (a : Option α) : Assoc Value :=
  a.toList.map fun x => (key, f x)

/-- The entry of a list, unless it is empty. -/
def listEntry {α : Type} (key : String) (f : α → Value) : List α → Assoc Value
  | [] => []
  | xs => [(key, .list (xs.map f))]

/-- The entries of an item. -/
def entries (item : Item) : Assoc Value :=
  [("name", .text item.name), ("type", Kind.value item.kind)]
  ++ optionalEntry "description" .text item.description
  ++ listEntry "parameters" Parameter.record item.parameters
  ++ optionalEntry "returns" Returned.record item.returns
  ++ listEntry "requires" Requirement.record item.requires
  ++ listEntry "links" Link.record item.links
  ++ listEntry "aliased" .text item.aliased
  ++ listEntry "usedBy" Usage.record item.usedBy
  ++ listEntry "datatype" .text item.datatype
  ++ optionalEntry "alias" .text item.aliasOf
  ++ optionalEntry "access" .text item.access
  ++ optionalEntry "value" .text item.value
  ++ optionalEntry "deprecated" .text item.deprecated
  ++ optionalEntry "since" .text item.since
  ++ optionalEntry "author" .text item.author
  ++ listEntry "throws" .text item.throws
  ++ listEntry "todo" .text item.todo

/-- An item as a map. -/
def record (item : Item) : Value :=
  .map item.entries

end Item

end Stylebook
