import Stylebook.Text.Blank
import Stylebook.Text.LowerCase

/-!
# Names of types

The types that values of a stylesheet have.
-/

namespace Stylebook.TypeName

/-- The known types; the star stands for any of them. -/
def known : List String :=
  ["*", "arglist", "bool", "color", "list", "map", "null", "number", "string"]

/-- Whether a tag names a known type, in any case and with blanks around it. -/
def isValid (tag : String) : Bool :=
  known.contains (String.ofList (Text.lowerCase (Text.trim tag.toList)))

end Stylebook.TypeName
