import Mathlib
import Stylebook.Number.Binary64
import Stylebook.Text.Digits
import Stylebook.Value

/-!
# The grammar of JSON

What it means that a text is JSON and writes a value, said without a reader or a printer: rules for
strings with their escapes, for numbers, and for lists and maps with blanks around each part. The
keys of a map are different, so that there is no question which of two values counts. There is no
rule for half a pair of surrogates, as it writes no character.
-/

namespace Stylebook.Json

/-! ### Strings -/

/-- The hexadecimal digits with their values. -/
def hexTable : List (Char × Nat) :=
  [('0', 0), ('1', 1), ('2', 2), ('3', 3), ('4', 4),
   ('5', 5), ('6', 6), ('7', 7), ('8', 8), ('9', 9),
   ('a', 10), ('b', 11), ('c', 12), ('d', 13), ('e', 14), ('f', 15),
   ('A', 10), ('B', 11), ('C', 12), ('D', 13), ('E', 14), ('F', 15)]

/-- The letters of the short escapes with their characters. -/
def shortTable : List (Char × Char) :=
  [('"', '"'), ('\\', '\\'), ('/', '/'), ('b', '\x08'), ('f', '\x0c'), ('n', '\n'), ('r', '\r'),
   ('t', '\t')]

/-- An escape by four hexadecimal digits. -/
inductive UnitWritten : List Char → Nat → Prop
  | digits {a b c d : Char} {w x y z : Nat} (ha : (a, w) ∈ hexTable) (hb : (b, x) ∈ hexTable)
      (hc : (c, y) ∈ hexTable) (hd : (d, z) ∈ hexTable) :
      UnitWritten ['\\', 'u', a, b, c, d] (((w * 16 + x) * 16 + y) * 16 + z)

/-- The ways to write a character within a string. -/
inductive CharWritten : List Char → Char → Prop
  | plain {c : Char} (hc : 0x20 ≤ c.toNat) (hquote : c ≠ '"') (hescape : c ≠ '\\') :
      CharWritten [c] c
  | short {letter c : Char} (h : (letter, c) ∈ shortTable) : CharWritten ['\\', letter] c
  | unit {s : List Char} {c : Char} (h : UnitWritten s c.toNat) : CharWritten s c
  | pair {s t : List Char} {c : Char} (hc : 0x10000 ≤ c.toNat)
      (hs : UnitWritten s (0xD800 + (c.toNat - 0x10000) / 0x400))
      (ht : UnitWritten t (0xDC00 + (c.toNat - 0x10000) % 0x400)) : CharWritten (s ++ t) c

/-- A string between its quotes. -/
inductive CharsWritten : List Char → List Char → Prop
  | nil : CharsWritten [] []
  | cons {s t : List Char} {c : Char} {cs : List Char} (hc : CharWritten s c)
      (hcs : CharsWritten t cs) : CharsWritten (s ++ t) (c :: cs)

/-- A string in its quotes. -/
inductive StringWritten : List Char → String → Prop
  | quoted {s : List Char} {text : String} (h : CharsWritten s text.toList) :
      StringWritten ('"' :: s ++ ['"']) text

/-! ### Numbers -/

/-- Some digits, at least one. -/
def AreDigits (ds : List Char) : Prop :=
  ds ≠ [] ∧ ∀ c ∈ ds, Text.isAsciiDigit c = true

/-- The digits of a whole number: no zero stands in front. -/
def IsWhole (ds : List Char) : Prop :=
  AreDigits ds ∧ (ds.head? = some '0' → ds = ['0'])

/-- The sign in front of a number. -/
def minus (negative : Bool) : List Char :=
  if negative then ['-'] else []

/-- The digits after a point, if there is one. -/
inductive FractionWritten : List Char → List Char → Prop
  | absent : FractionWritten [] []
  | digits {ds : List Char} (h : AreDigits ds) : FractionWritten ('.' :: ds) ds

/-- An exponent, if there is one. -/
inductive ExponentWritten : List Char → Int → Prop
  | absent : ExponentWritten [] 0
  | plain {e : Char} {ds : List Char} (he : e = 'e' ∨ e = 'E') (h : AreDigits ds) :
      ExponentWritten (e :: ds) (Text.asciiNumber ds)
  | plus {e : Char} {ds : List Char} (he : e = 'e' ∨ e = 'E') (h : AreDigits ds) :
      ExponentWritten (e :: '+' :: ds) (Text.asciiNumber ds)
  | minus {e : Char} {ds : List Char} (he : e = 'e' ∨ e = 'E') (h : AreDigits ds) :
      ExponentWritten (e :: '-' :: ds) (-Text.asciiNumber ds)

/-- A number: whole if it has neither a point nor an exponent. -/
inductive NumberWritten : List Char → Value → Prop
  | whole (negative : Bool) {ds : List Char} (h : IsWhole ds) :
      NumberWritten (minus negative ++ ds)
        (.int (if negative then -Text.asciiNumber ds else Text.asciiNumber ds))
  | float (negative : Bool) {ds f x places : List Char} {n : Int} (h : IsWhole ds)
      (hf : FractionWritten f places) (hx : ExponentWritten x n) (hsome : f ++ x ≠ []) :
      NumberWritten (minus negative ++ ds ++ f ++ x)
        (.float (.ofDecimal negative (Text.asciiNumber (ds ++ places)) (n - places.length)))

/-! ### Values -/

/-- Blanks, which may stand around each part of a text. -/
def AreBlanks (s : List Char) : Prop :=
  ∀ c ∈ s, c ∈ [' ', '\t', '\n', '\r']

/-- What a piece of text can write: a value, the elements of a list or the entries of a map. -/
inductive Part where
  | value (v : Value)
  | items (vs : List Value)
  | entries (es : List (String × Value))

/-- A piece of text writes a part of a value, by the rules of JSON. -/
inductive Written : Part → List Char → Prop
  | null : Written (.value .null) ['n', 'u', 'l', 'l']
  | yes : Written (.value (.bool true)) ['t', 'r', 'u', 'e']
  | no : Written (.value (.bool false)) ['f', 'a', 'l', 's', 'e']
  | number {s : List Char} {v : Value} (h : NumberWritten s v) : Written (.value v) s
  | text {s : List Char} {text : String} (h : StringWritten s text) :
      Written (.value (.text text)) s
  | noItems {blanks : List Char} (h : AreBlanks blanks) :
      Written (.value (.list [])) ('[' :: blanks ++ [']'])
  | list {vs : List Value} {s : List Char} (h : Written (.items vs) s) :
      Written (.value (.list vs)) ('[' :: s ++ [']'])
  | noEntries {blanks : List Char} (h : AreBlanks blanks) :
      Written (.value (.map [])) ('\x7b' :: blanks ++ ['\x7d'])
  | map {es : List (String × Value)} {s : List Char} (hkeys : (Assoc.keys es).Nodup)
      (h : Written (.entries es) s) : Written (.value (.map es)) ('\x7b' :: s ++ ['\x7d'])
  | lastItem {v : Value} {a s b : List Char} (ha : AreBlanks a) (h : Written (.value v) s)
      (hb : AreBlanks b) : Written (.items [v]) (a ++ s ++ b)
  | item {v : Value} {vs : List Value} {a s b t : List Char} (ha : AreBlanks a)
      (h : Written (.value v) s) (hb : AreBlanks b) (hvs : Written (.items vs) t) :
      Written (.items (v :: vs)) (a ++ s ++ b ++ ',' :: t)
  | lastEntry {key : String} {v : Value} {a k b c s d : List Char} (ha : AreBlanks a)
      (hkey : StringWritten k key) (hb : AreBlanks b) (hc : AreBlanks c) (h : Written (.value v) s)
      (hd : AreBlanks d) : Written (.entries [(key, v)]) (a ++ k ++ b ++ ':' :: (c ++ s ++ d))
  | entry {key : String} {v : Value} {es : List (String × Value)} {a k b c s d t : List Char}
      (ha : AreBlanks a) (hkey : StringWritten k key) (hb : AreBlanks b) (hc : AreBlanks c)
      (h : Written (.value v) s) (hd : AreBlanks d) (hes : Written (.entries es) t) :
      Written (.entries ((key, v) :: es)) (a ++ k ++ b ++ ':' :: (c ++ s ++ d ++ ',' :: t))

/-- A text is JSON and writes a value. -/
def Writes (text : List Char) (v : Value) : Prop :=
  ∃ a s b, AreBlanks a ∧ Written (.value v) s ∧ AreBlanks b ∧ text = a ++ s ++ b

end Stylebook.Json
