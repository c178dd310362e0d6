import Stylebook.Text.Digits
import Stylebook.Text.Hex
import Stylebook.Value

/-!
# Reading JSON

JSON text as values. Numbers with a point or an exponent are floating-point, all others whole; there
are words for the infinite numbers and for what is not a number. A key that occurs again keeps its
first place and takes the last value.
-/

namespace Stylebook.Json

/-- The blanks between the parts of a text. -/
def isSpace (c : Char) : Bool :=
  c == ' ' || c == '\t' || c == '\n' || c == '\r'

/-- The text after its blanks. -/
def skip (s : List Char) : List Char :=
  s.dropWhile isSpace

/-- The character of an escape with one letter. -/
def shortEscape? (c : Char) : Option Char :=
  if c == '"' || c == '\\' || c == '/' then some c
  else if c == 'n' then some '\n'
  else if c == 'r' then some '\r'
  else if c == 't' then some '\t'
  else if c == 'b' then some (Char.ofNat 8)
  else if c == 'f' then some (Char.ofNat 12)
  else none

/-- The character of a pair of surrogates. -/
def surrogatePair? (high low : Nat) : Option Char :=
  if 0xDC00 ≤ low && low < 0xE000 then
    some (Char.ofNat (0x10000 + (high - 0xD800) * 0x400 + (low - 0xDC00)))
  else none

/-- Reads a string after its opening quote. -/
def readString : List Char → Option (List Char × List Char)
  | [] => none
  | '"' :: s => some ([], s)
  | '\\' :: 'u' :: a :: b :: c :: d :: s =>
    match Text.hexNumber? [a, b, c, d] with
    | none => none
    | some n =>
      if 0xD800 ≤ n && n < 0xDC00 then
        match s with
        | '\\' :: 'u' :: e :: f :: g :: h :: t => do
          let low ← Text.hexNumber? [e, f, g, h]
          let ch ← surrogatePair? n low
          let (more, rest) ← readString t
          return (ch :: more, rest)
        | _ => none
      else if 0xDC00 ≤ n && n < 0xE000 then none
      else (readString s).map fun (more, rest) => (Char.ofNat n :: more, rest)
  | '\\' :: c :: s => do
    let ch ← shortEscape? c
    let (more, rest) ← readString s
    return (ch :: more, rest)
  | c :: s =>
    if c.toNat < 0x20 || c == '\\' then none
    else (readString s).map fun (more, rest) => (c :: more, rest)

/-- Reads an exponent, if there is one: its value, and whether it was there. -/
def readExponent : List Char → Option (Option Int × List Char)
  | c :: s =>
    if c == 'e' || c == 'E' then
      let (negative, r) := match s with
        | '-' :: r => (true, r)
        | '+' :: r => (false, r)
        | r => (false, r)
      let digits := r.takeWhile Text.isAsciiDigit
      if digits.isEmpty then none
      else
        let n : Int := Text.asciiNumber digits
        some (some (if negative then -n else n), r.dropWhile Text.isAsciiDigit)
    else some (none, c :: s)
  | [] => some (none, [])

/-- Reads the digits after a point, if there is one. -/
def readFraction : List Char → Option (Option (List Char) × List Char)
  | '.' :: s =>
    let digits := s.takeWhile Text.isAsciiDigit
    if digits.isEmpty then none else some (some digits, s.dropWhile Text.isAsciiDigit)
  | s => some (none, s)

/-- Reads a number. -/
def readNumber (s : List Char) : Option (Value × List Char) :=
  let (negative, s) := match s with
    | '-' :: r => (true, r)
    | r => (false, r)
  let whole := s.takeWhile Text.isAsciiDigit
  if whole.isEmpty || (whole.head? == some '0' && whole.length > 1) then none
  else do
    let (fraction, s) ← readFraction (s.dropWhile Text.isAsciiDigit)
    let (exponent, s) ← readExponent s
    match fraction, exponent with
    | none, none =>
      let n : Int := Text.asciiNumber whole
      return (.int (if negative then -n else n), s)
    | _, _ =>
      let places := fraction.getD []
      let digits := Text.asciiNumber (whole ++ places)
      return (.float (.ofDecimal negative digits (exponent.getD 0 - places.length)), s)

/-- Reads the text of a word that stands for a value. -/
def readWord (word : List Char) (v : Value) (s : List Char) : Option (Value × List Char) :=
  if word.isPrefixOf s then some (v, s.drop word.length) else none

/-- The word for infinity after its first letter. -/
def infinityTail : List Char :=
  ['n', 'f', 'i', 'n', 'i', 't', 'y']

mutual

/-- Reads a value. Each level of a value uses some of the fuel; the length of the text suffices. -/
def readValue (fuel : Nat) (s : List Char) : Option (Value × List Char) :=
  match fuel with
  | 0 => none
  | fuel + 1 =>
    match skip s with
    | '"' :: r => (readString r).map fun (cs, rest) => (.text (String.ofList cs), rest)
    | '[' :: r =>
      match skip r with
      | ']' :: rest => some (.list [], rest)
      | _ => do
        let (v, rest) ← readValue fuel r
        let (vs, rest) ← readItems fuel rest
        return (.list (v :: vs), rest)
    | '{' :: r =>
      match skip r with
      | '}' :: rest => some (.map [], rest)
      | _ => do
        let (e, rest) ← readEntry fuel r
        let (es, rest) ← readEntries fuel rest
        return (.map (Assoc.ofPairs (e :: es)), rest)
    | 'n' :: r => readWord ['u', 'l', 'l'] .null r
    | 't' :: r => readWord ['r', 'u', 'e'] (.bool true) r
    | 'f' :: r => readWord ['a', 'l', 's', 'e'] (.bool false) r
    | 'N' :: r => readWord ['a', 'N'] (.float .nan) r
    | 'I' :: r => readWord infinityTail (.float (.infinity false)) r
    | '-' :: 'I' :: r => readWord infinityTail (.float (.infinity true)) r
    | r => readNumber r

/-- Reads the elements of a list after the first, and the closing bracket. -/
def readItems (fuel : Nat) (s : List Char) : Option (List Value × List Char) :=
  match fuel with
  | 0 => none
  | fuel + 1 =>
    match skip s with
    | ']' :: rest => some ([], rest)
    | ',' :: r => do
      let (v, rest) ← readValue fuel r
      let (vs, rest) ← readItems fuel rest
      return (v :: vs, rest)
    | _ => none

/-- Reads an entry of a map. -/
def readEntry (fuel : Nat) (s : List Char) : Option ((String × Value) × List Char) :=
  match fuel with
  | 0 => none
  | fuel + 1 =>
    match skip s with
    | '"' :: r => do
      let (key, rest) ← readString r
      match skip rest with
      | ':' :: rest => do
        let (v, rest) ← readValue fuel rest
        return ((String.ofList key, v), rest)
      | _ => none
    | _ => none

/-- Reads the entries of a map after the first, and the closing brace. -/
def readEntries (fuel : Nat) (s : List Char) : Option (List (String × Value) × List Char) :=
  match fuel with
  | 0 => none
  | fuel + 1 =>
    match skip s with
    | '}' :: rest => some ([], rest)
    | ',' :: r => do
      let (e, rest) ← readEntry fuel r
      let (es, rest) ← readEntries fuel rest
      return (e :: es, rest)
    | _ => none

end

/-! Without fuel nothing is read. -/

theorem readValue_zero (s : List Char) : readValue 0 s = none := by
  rw [readValue]

theorem readEntry_zero (s : List Char) : readEntry 0 s = none := by
  rw [readEntry]

/-- The value that a text writes, if it is JSON and nothing follows it. -/
def read? (s : List Char) : Option Value :=
  match readValue (s.length + 2) s with
  | some (v, rest) => if (skip rest).isEmpty then some v else none
  | none => none

end Stylebook.Json
