/-!
# Documented items

A stylesheet documents functions, mixins and variables. An item holds what its documentation says,
and, once the items of all sources are linked, which other items name it.
-/

namespace Stylebook

/-- What an item is. -/
inductive Kind where
  | function
  | mixin
  | var
  deriving DecidableEq, Repr

/-- The name of a kind in output. -/
def Kind.name : Kind → String
  | .function => "function"
  | .mixin => "mixin"
  | .var => "variable"

/-- All kinds. -/
def Kind.all : List Kind :=
  [.function, .mixin, .var]

/-- The kind of a given name. -/
def Kind.ofName? (name : String) : Option Kind :=
  Kind.all.find? (·.name == name)

/-- A parameter of a function or mixin. -/
structure Parameter where
  types : List String
  name : String
  defaultValue : String := ""
  description : String := ""
  deriving DecidableEq, Repr

/-- What a function returns. -/
structure Returned where
  types : List String
  description : String := ""
  deriving DecidableEq, Repr

/-- Another item that an item needs. Its kind is unknown until the items are linked, unless the
documentation gives it. -/
structure Requirement where
  target : String
  kind : Option Kind := none
  deriving DecidableEq, Repr

/-- A link to further reading. -/
structure Link where
  url : String
  label : String
  deriving DecidableEq, Repr

/-- The link of an address and a label; an address without a label is its own label. -/
def Link.of (url label : String) : Link :=
  ⟨url, if label.isEmpty then url else label⟩

/-- An item that needs this one. -/
structure Usage where
  name : String
  kind : Option Kind
  deriving DecidableEq, Repr

/-- A documented function, mixin or variable. -/
structure Item where
  name : String := ""
  kind : Option Kind := none
  description : Option String := none
  parameters : List Parameter := []
  returns : Option Returned := none
  requires : List Requirement := []
  links : List Link := []
  /-- The item that this one is another name of. -/
  aliasOf : Option String := none
  /-- The items that are another name of this one. -/
  aliased : List String := []
  /-- The items that need this one. -/
  usedBy : List Usage := []
  access : Option String := none
  datatype : List String := []
  value : Option String := none
  deprecated : Option String := none
  since : Option String := none
  author : Option String := none
  throws : List String := []
  todo : List String := []
  deriving DecidableEq, Repr

end Stylebook
