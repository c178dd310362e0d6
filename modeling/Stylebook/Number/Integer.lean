import Stylebook.Text.Digits
import Stylebook.Text.Quoted

/-!
# Whole numbers as text

Whole numbers are read with the digits of every script, with a sign, with blanks around them, and
with single underscores between digits. In a base other than ten they may start with the mark of
the base. Decimal numbers of too many digits are neither read nor written.
-/

namespace Stylebook.Integer

open Text

/-- The greatest number of digits of a decimal number. -/
def maxDigits : Nat :=
  4300

/-- Why a whole number cannot be read or written. -/
inductive Fault where
  /-- A text that writes no number of a base, as messages show it. -/
  | malformed (base : Nat) (shown : String)
  /-- A text of too many digits. -/
  | tooLong (digits : Nat)
  /-- A number of too many digits. -/
  | unwritable
  deriving DecidableEq, Repr

/-- The wording of a fault. Of a text no more than 200 characters are shown. -/
def Fault.message : Fault → String
  | .malformed base shown =>
    "invalid literal for int() with base " ++ natText base ++ ": "
      ++ String.ofList (shown.toList.take 200)
  | .tooLong digits => limit ++ ": value has " ++ natText digits ++ " digits" ++ advice
  | .unwritable => limit ++ advice
where
  /-- What has been exceeded. -/
  limit : String :=
    "Exceeds the limit (" ++ natText maxDigits ++ " digits) for integer string conversion"
  /-- What can be done about it. -/
  advice : String := "; use sys.set_int_max_str_digits() to increase the limit"

/-- The value of a digit of a base up to sixteen. -/
def digit? (base : Nat) (c : Char) : Option Nat :=
  ((digitValue? c).orElse fun _ => hexValue? c).filter (· < base)

/-- Reads digits, of which `count` came before and write `acc`. An underscore must have a digit on
either side. The result is the number, the count of its digits and the rest of the text. -/
def readDigits (base acc count : Nat) : List Char → Nat × Nat × List Char
  | [] => (acc, count, [])
  | '_' :: c :: s =>
    match digit? base c with
    | some d => readDigits base (acc * base + d) (count + 1) s
    | none => (acc, count, '_' :: c :: s)
  | c :: s =>
    match digit? base c with
    | some d => readDigits base (acc * base + d) (count + 1) s
    | none => (acc, count, c :: s)

/-- The letters that mark a base after a zero. -/
def marks : List (Nat × List Char) :=
  [(2, ['b', 'B']), (8, ['o', 'O']), (16, ['x', 'X'])]

/-- Cuts off the mark of a base, with one underscore after it. -/
def cutMark (base : Nat) (s : List Char) : List Char :=
  match s with
  | '0' :: c :: r =>
    if ((marks.lookup base).getD []).contains c then
      match r with
      | '_' :: t => t
      | t => t
    else s
  | _ => s

/-- Cuts off a sign: whether it is a minus, and the rest. -/
def cutSign : List Char → Bool × List Char
  | '-' :: s => (true, s)
  | '+' :: s => (false, s)
  | s => (false, s)

/-- The whole number that a text writes in a base. -/
def read (base : Nat) (s : List Char) : Except Fault Int :=
  let malformed : Fault := .malformed base (String.ofList (quotedChars s))
  let (negative, r) := cutSign (s.dropWhile isNumberBlank)
  let r := cutMark base r
  let (n, count, rest) := readDigits base 0 0 r
  if r.head? == some '_' || rest.head? == some '_' || count == 0 then .error malformed
  else if base == 10 && count > maxDigits then .error (.tooLong count)
  else if rest.all isNumberBlank then .ok (if negative then -(n : Int) else n)
  else .error malformed

/-- The decimal text of a number. -/
def text (i : Int) : Except Fault String :=
  if i.natAbs < Nat.pow 10 maxDigits then .ok (intText i) else .error .unwritable

end Stylebook.Integer
