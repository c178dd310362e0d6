import Stylebook.Number.Shortest
import Stylebook.Text.Hex
import Stylebook.Value

/-!
# JSON text

Values as JSON text, on one line or with an indented line for each element, and with all characters
or only those of ASCII.
-/

namespace Stylebook.Json

/-- How values are laid out. -/
structure Layout where
  /-- What each level is indented by; without it the text is one line. -/
  unit : Option (List Char) := none
  /-- Whether characters beyond ASCII, and the delete control, are escaped. -/
  ascii : Bool := false

/-- The escape of a number below 2 ^ 16. -/
def unitEscape (n : Nat) : List Char :=
  '\\' :: 'u' :: Text.hexDigits 4 n

/-- The escape of a character: one unit, or a pair of surrogates beyond the basic plane. -/
def charEscape (n : Nat) : List Char :=
  if n < 0x10000 then unitEscape n
  else unitEscape (0xD800 + (n - 0x10000) / 0x400) ++ unitEscape (0xDC00 + (n - 0x10000) % 0x400)

/-- A character of a string. -/
def charText (ascii : Bool) (c : Char) : List Char :=
  if c == '"' then ['\\', '"']
  else if c == '\\' then ['\\', '\\']
  else if c == '\n' then ['\\', 'n']
  else if c == '\r' then ['\\', 'r']
  else if c == '\t' then ['\\', 't']
  else if c.toNat == 8 then ['\\', 'b']
  else if c.toNat == 12 then ['\\', 'f']
  else if c.toNat < 0x20 || (ascii && c.toNat ≥ 0x7F) then charEscape c.toNat
  else [c]

/-- A string in double quotes. -/
def stringText (ascii : Bool) (s : String) : List Char :=
  '"' :: s.toList.flatMap (charText ascii) ++ ['"']

/-- A floating-point number. -/
def floatText (x : Binary64) : String :=
  if x.isNaN then "NaN"
  else if x.isInfinite then (if x.isNegative then "-Infinity" else "Infinity")
  else x.text

/-- The start of a line at a depth, if the layout has lines. -/
def Layout.lineStart (layout : Layout) (depth : Nat) : List Char :=
  match layout.unit with
  | none => []
  | some unit => '\n' :: (List.replicate depth unit).flatten

/-- What stands between two elements at a depth. -/
def Layout.separator (layout : Layout) (depth : Nat) : List Char :=
  match layout.unit with
  | none => [',', ' ']
  | some _ => ',' :: layout.lineStart depth

mutual

/-- A value at a depth. -/
def chars (layout : Layout) (depth : Nat) : Value → List Char
  | .null => "null".toList
  | .bool true => "true".toList
  | .bool false => "false".toList
  | .int i => (Text.intText i).toList
  | .float x => (floatText x).toList
  | .text s => stringText layout.ascii s
  | .list [] => "[]".toList
  | .list (v :: vs) =>
    '[' :: layout.lineStart (depth + 1) ++ chars layout (depth + 1) v
      ++ itemChars layout (depth + 1) vs ++ layout.lineStart depth ++ [']']
  | .map [] => ['{', '}']
  | .map ((k, v) :: es) =>
    '{' :: layout.lineStart (depth + 1) ++ stringText layout.ascii k ++ ':' :: ' ' ::
      chars layout (depth + 1) v ++ entryChars layout (depth + 1) es ++ layout.lineStart depth
      ++ ['}']

/-- The elements of a list after the first, each behind a separator. -/
def itemChars (layout : Layout) (depth : Nat) : List Value → List Char
  | [] => []
  | v :: vs => layout.separator depth ++ chars layout depth v ++ itemChars layout depth vs

/-- The entries of a map after the first, each behind a separator. -/
def entryChars (layout : Layout) (depth : Nat) : List (String × Value) → List Char
  | [] => []
  | (k, v) :: es =>
    layout.separator depth ++ stringText layout.ascii k ++ ':' :: ' ' :: chars layout depth v
      ++ entryChars layout depth es

end

/-- The text of a value. -/
def text (layout : Layout) (v : Value) : String :=
  String.ofList (chars layout 0 v)

end Stylebook.Json
