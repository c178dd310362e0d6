import Stylebook.Assoc
import Stylebook.Number.Binary64

/-!
# Values

The values that records and reports are made of: scalars, lists, and maps whose keys are texts and
keep the order in which they came.
-/

namespace Stylebook

/-- A value of an output file. -/
inductive Value where
  | null
  | bool (b : Bool)
  | int (i : Int)
  | float (x : Binary64)
  | text (s : String)
  | list (items : List Value)
  | map (entries : List (String × Value))
  deriving Repr, Inhabited

namespace Value

/-- A list of strings as a value. -/
def ofTexts (ss : List String) : Value :=
  .list (ss.map .text)

/-- A natural number as a value. -/
def ofNat (n : Nat) : Value :=
  .int n

/-- Null or what the option holds. -/
def ofOption {α : Type} (f : α → Value) : Option α → Value
  | none => .null
  | some a => f a

end Value

end Stylebook
