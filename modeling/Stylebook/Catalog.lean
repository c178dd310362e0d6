import Stylebook.Item.Record
import Stylebook.Text.Order

/-!
# Catalogs

The items of a corpus by kind, each section in order of names. Items of one name keep their order,
and items without a kind are left out.
-/

namespace Stylebook

/-- Items by kind. -/
structure Catalog where
  functions : List Item
  mixins : List Item
  vars : List Item
  deriving DecidableEq, Repr

namespace Catalog

/-- The items of a kind, in order of names. -/
def ofKind (kind : Kind) (items : List Item) : List Item :=
  (Text.sortedBy Item.name items).filter (·.kind == some kind)

/-- The catalog of some items. -/
def ofItems (items : List Item) : Catalog :=
  { functions := ofKind .function items
    mixins := ofKind .mixin items
    vars := ofKind .var items }

/-- The sections with their headings. -/
def sections (c : Catalog) : Assoc (List Item) :=
  [("functions", c.functions), ("mixins", c.mixins), ("variables", c.vars)]

/-- Whether no section has an item. -/
def isEmpty (c : Catalog) : Bool :=
  c.sections.all (·.2.isEmpty)

/-- The number of items of each section. -/
def counts (c : Catalog) : Assoc Nat :=
  c.sections.map fun (heading, items) => (heading, items.length)

/-- The sections as lists of records. -/
def entries (c : Catalog) : List (String × Value) :=
  c.sections.map fun (heading, items) => (heading, .list (items.map Item.record))

/-- A catalog as a map. -/
def record (c : Catalog) : Value :=
  .map c.entries

end Catalog

end Stylebook
