import Stylebook.Value

/-!
# Diagnostics

Warnings about single items that linking and validation give. They never change an item.
-/

namespace Stylebook

/-- The sorts of diagnostics. -/
inductive Diagnostic.Kind where
  | unresolvedAlias
  | unresolvedRequirement
  | invalidType
  | invalidLink
  deriving DecidableEq, Repr

/-- The name of a sort of diagnostics. -/
def Diagnostic.Kind.name : Diagnostic.Kind → String
  | .unresolvedAlias => "UnresolvedAlias"
  | .unresolvedRequirement => "UnresolvedRequirement"
  | .invalidType => "InvalidTypeTag"
  | .invalidLink => "InvalidLinkUrl"

/-- All sorts of diagnostics. -/
def Diagnostic.Kind.all : List Diagnostic.Kind :=
  [.unresolvedAlias, .unresolvedRequirement, .invalidType, .invalidLink]

/-- The sort of diagnostics of a given name. -/
def Diagnostic.Kind.ofName? (name : String) : Option Diagnostic.Kind :=
  Diagnostic.Kind.all.find? (·.name == name)

/-- A warning about an item. -/
structure Diagnostic where
  kind : Diagnostic.Kind
  item : String
  message : String
  deriving DecidableEq, Repr

namespace Diagnostic

/-- An alias of an item that does not exist. -/
def unresolvedAlias (item target : String) : Diagnostic :=
  ⟨.unresolvedAlias, item,
    "Item `" ++ item ++ "` is an alias of `" ++ target ++ "` but this item doesn't exist."⟩

/-- A requirement of an item that does not exist. -/
def unresolvedRequirement (item target : String) : Diagnostic :=
  ⟨.unresolvedRequirement, item,
    "Item `" ++ item ++ "` requires `" ++ target ++ "` but this item doesn't exist."⟩

/-- A parameter of an unknown type, of an item that is found under `name`. -/
def invalidParameterType (item name parameter tag : String) : Diagnostic :=
  ⟨.invalidType, item,
    "Parameter `" ++ parameter ++ "` from item `" ++ name ++ "` is from type `" ++ tag
      ++ "` which is not a valid Sass type."⟩

/-- A result of an unknown type, of an item that is found under `name`. -/
def invalidReturnType (item name tag : String) : Diagnostic :=
  ⟨.invalidType, item,
    "Item `" ++ name ++ "` can return a `" ++ tag ++ "` which is not a valid Sass type."⟩

/-- A variable of an unknown type that is found under `name`. -/
def invalidDatatype (item name tag : String) : Diagnostic :=
  ⟨.invalidType, item,
    "Variable `" ++ name ++ "` is from type `" ++ tag ++ "` which is not a valid Sass type."⟩

/-- A link whose address is not one. -/
def invalidLink (item url : String) : Diagnostic :=
  ⟨.invalidLink, item,
    "Item `" ++ item ++ "` has a link leading to an invalid URL (`" ++ url ++ "`)."⟩

/-- A diagnostic as a map. -/
def record (d : Diagnostic) : Value :=
  .map [("kind", .text d.kind.name), ("item", .text d.item), ("message", .text d.message)]

/-- The diagnostic in one line. -/
def summary (d : Diagnostic) : String :=
  d.kind.name ++ ": " ++ d.message

end Diagnostic

end Stylebook
