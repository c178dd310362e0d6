import Stylebook.Number.Binary64
import Stylebook.Text.Digits

/-!
# Reading floating-point numbers

Floating-point numbers as text: digits with a point among them, perhaps an exponent, or one of the
words for infinity and for what is not a number, with a sign and with blanks around them.
-/

namespace Stylebook.Binary64

open Text

/-- A digit of any script. -/
def isDigit (c : Char) : Bool :=
  (digitValue? c).isSome

/-- The number that digits of any script write, the highest digit first. -/
def digitsNumber (s : List Char) : Nat :=
  s.foldl (fun acc c => acc * 10 + (digitValue? c).getD 0) 0

/-- Reads an exponent up to the end of the text, or nothing. -/
def readExponent? : List Char → Option Int
  | [] => some 0
  | e :: s =>
    if e == 'e' || e == 'E' then
      let (negative, digits) := match s with
        | '-' :: r => (true, r)
        | '+' :: r => (false, r)
        | r => (false, r)
      if digits.isEmpty || !digits.all isDigit then none
      else
        let n : Int := digitsNumber digits
        some (if negative then -n else n)
    else none

/-- Reads a number without a sign, which the result is given. -/
def readMagnitude? (negative : Bool) (s : List Char) : Option Binary64 :=
  let word := String.ofList (s.map Char.toLower)
  if word == "inf" || word == "infinity" then some (infinity negative)
  else if word == "nan" then some nan
  else
    let whole := s.takeWhile isDigit
    let (fraction, tail) := match s.dropWhile isDigit with
      | '.' :: r => (r.takeWhile isDigit, r.dropWhile isDigit)
      | r => ([], r)
    if whole.isEmpty && fraction.isEmpty then none
    else (readExponent? tail).map fun exponent =>
      ofDecimal negative (digitsNumber (whole ++ fraction)) (exponent - fraction.length)

/-- The floating-point number that a text writes. -/
def read? (s : List Char) : Option Binary64 :=
  match dropEndWhile isNumberBlank (s.dropWhile isNumberBlank) with
  | '-' :: r => readMagnitude? true r
  | '+' :: r => readMagnitude? false r
  | r => readMagnitude? false r

end Stylebook.Binary64
