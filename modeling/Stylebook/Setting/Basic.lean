import Stylebook.Moment
import Stylebook.Number.Binary64
import Stylebook.Value

/-!
# Settings as they are written

What a settings file may hold: values without parts, lists, sets, and maps whose keys are any values
without parts. A list or map may even be a part of itself; where it would start over, only that is
kept.
-/

namespace Stylebook

/-- A value without parts. -/
inductive Atom where
  | null
  | bool (b : Bool)
  | int (i : Int)
  | float (x : Binary64)
  | text (s : String)
  | bytes (bs : List UInt8)
  | date (d : Date)
  | moment (m : Moment)
  deriving DecidableEq, Repr

/-- A value of a settings file. -/
inductive Setting where
  | atom (a : Atom)
  | list (items : List Setting)
  /-- A key with its value, as an entry of a list. -/
  | pair (key value : Setting)
  | set (items : List Atom)
  | map (entries : List (Atom × Setting))
  /-- A list or a map that this value is itself a part of. -/
  | cycle (isMap : Bool)
  deriving Repr, Inhabited

/-- Keys with a setting each, in the order in which the keys were first put in. -/
abbrev Settings := List (Atom × Setting)

/-- The values that switch something on: all but null, false, zero and what is empty. -/
def Atom.isTruthy : Atom → Bool
  | .null => false
  | .bool b => b
  | .int i => i != 0
  | .float x => !x.isZero
  | .text s => !s.isEmpty
  | .bytes bs => !bs.isEmpty
  | .date _ => true
  | .moment _ => true

namespace Setting

/-- Null. -/
@[match_pattern] abbrev null : Setting :=
  .atom .null

/-- A truth value. -/
@[match_pattern] abbrev bool (b : Bool) : Setting :=
  .atom (.bool b)

/-- A whole number. -/
@[match_pattern] abbrev int (i : Int) : Setting :=
  .atom (.int i)

/-- A text. -/
@[match_pattern] abbrev text (s : String) : Setting :=
  .atom (.text s)

/-- The values that switch something on. -/
def isTruthy : Setting → Bool
  | .atom a => a.isTruthy
  | .list items => !items.isEmpty
  | .pair _ _ => true
  | .set items => !items.isEmpty
  | .map entries => !entries.isEmpty
  | .cycle _ => true

end Setting

end Stylebook
