import Stylebook.Base64
import Stylebook.Failure
import Stylebook.Number.Shortest
import Stylebook.Setting.Basic

/-!
# Settings in messages

How a message shows a setting. A whole number of too many digits cannot be shown.
-/

namespace Stylebook

/-- A floating-point number in a message. -/
def Atom.shownFloat (x : Binary64) : String :=
  if x.isNaN then "nan"
  else if x.isInfinite then (if x.isNegative then "-inf" else "inf")
  else x.text

/-- A value as a part of another. -/
def Atom.shownPart : Atom → Except Failure String
  | .null => .ok "None"
  | .bool true => .ok "True"
  | .bool false => .ok "False"
  | .int i => (Integer.text i).mapError .integer
  | .float x => .ok (shownFloat x)
  | .text s => .ok (Text.quoted s)
  | .bytes bs => .ok (Base64.shown bs)
  | .date d => .ok d.shown
  | .moment m => .ok m.shown

/-- The values of a set. -/
def Atom.shownParts : List Atom → Except Failure (List String)
  | [] => .ok []
  | a :: as => do return (← a.shownPart) :: (← shownParts as)

namespace Setting

mutual

/-- A setting as a part of another. -/
def shownPart : Setting → Except Failure String
  | .atom a => a.shownPart
  | .list vs => do return "[" ++ String.intercalate ", " (← shownParts vs) ++ "]"
  | .pair k v => do return "(" ++ (← shownPart k) ++ ", " ++ (← shownPart v) ++ ")"
  | .set [] => .ok "set()"
  | .set (a :: as) => do
    return "\x7b" ++ String.intercalate ", " (← Atom.shownParts (a :: as)) ++ "\x7d"
  | .map es => do return "\x7b" ++ String.intercalate ", " (← shownEntries es) ++ "\x7d"
  | .cycle isMap => .ok (if isMap then "\x7b...\x7d" else "[...]")

/-- The elements of a list. -/
def shownParts : List Setting → Except Failure (List String)
  | [] => .ok []
  | v :: vs => do return (← shownPart v) :: (← shownParts vs)

/-- The entries of a map. -/
def shownEntries : List (Atom × Setting) → Except Failure (List String)
  | [] => .ok []
  | (k, v) :: es => do
    return ((← k.shownPart) ++ ": " ++ (← shownPart v)) :: (← shownEntries es)

end

/-- A setting in a message; a text stands without quotes, and a moment as it is written. -/
def shown : Setting → Except Failure String
  | .atom (.text s) => .ok s
  | .atom (.date d) => .ok d.text
  | .atom (.moment m) => .ok m.text
  | v => v.shownPart

end Setting

end Stylebook
