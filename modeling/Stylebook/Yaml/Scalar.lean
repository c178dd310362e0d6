import Stylebook.Base64
import Stylebook.Failure
import Stylebook.Number.Decimal
import Stylebook.Setting.Basic
import Stylebook.Text.LowerCase

/-!
# Scalars

What a scalar without quotes stands for is told by its form: a truth value, null, a whole number in
one of five notations, a floating-point number, a date, or text. Some more forms are reserved: a
pair of angle brackets merges maps, and an equals sign stands for the value of a map. The value of a
scalar is then read by the rules of its type, whether the form or a tag gives the type; what has the
form of a number or of a date may still be none.
-/

namespace Stylebook.Yaml

open Text

/-- The types that a scalar may have. -/
inductive ScalarType where
  | null
  | bool
  | int
  | float
  | binary
  | timestamp
  | merge
  | default
  | text
  deriving DecidableEq, Repr

namespace Scalar

/-! ### Forms -/

/-- The words for true. -/
def trueWords : List String :=
  ["yes", "Yes", "YES", "true", "True", "TRUE", "on", "On", "ON"]

/-- The words for false. -/
def falseWords : List String :=
  ["no", "No", "NO", "false", "False", "FALSE", "off", "Off", "OFF"]

/-- The words for null, of which one is empty. -/
def nullWords : List String :=
  ["", "~", "null", "Null", "NULL"]

/-- A digit, or an underscore between digits. -/
def isDigitOrMark (c : Char) : Bool :=
  isAsciiDigit c || c == '_'

/-- Whether a text is a digit followed by digits and underscores. -/
def isMarkedNumber : List Char → Bool
  | [] => false
  | c :: s => isAsciiDigit c && s.all isDigitOrMark

/-- Whether a text is a number below sixty of one or two digits. -/
def isSixtieth : List Char → Bool
  | [a] => isAsciiDigit a
  | [a, b] => 48 ≤ a.toNat && a.toNat ≤ 53 && isAsciiDigit b
  | _ => false

/-- Whether a text without a sign has the form of a whole number: binary, hexadecimal, octal,
decimal or to the base of sixty. -/
def isIntForm (s : List Char) : Bool :=
  match s with
  | '0' :: 'b' :: r => !r.isEmpty && r.all fun c => c == '0' || c == '1' || c == '_'
  | '0' :: 'x' :: r => !r.isEmpty && r.all fun c => (hexValue? c).isSome || c == '_'
  | '0' :: r => r.all fun c => (48 ≤ c.toNat && c.toNat ≤ 55) || c == '_'
  | _ =>
    match splitOn ':' s with
    | [] => false
    | d :: parts => isMarkedNumber d && parts.all isSixtieth

/-- Whether a text is an exponent, which needs a sign, or nothing. -/
def isExponent : List Char → Bool
  | [] => true
  | e :: sign :: digits =>
    (e == 'e' || e == 'E') && (sign == '+' || sign == '-') && !digits.isEmpty
      && digits.all isAsciiDigit
  | _ => false

/-- Whether a text without its sign has the form of a floating-point number. A point is needed;
digits before it are needed where a sign stands. -/
def isFloatForm (signed : Bool) (s : List Char) : Bool :=
  [".inf", ".Inf", ".INF"].contains (String.ofList s)
    || (!signed && [".nan", ".NaN", ".NAN"].contains (String.ofList s))
    || match fromStop (· == '.') s with
      | [] => false
      | _ :: r =>
        let fraction := r.takeWhile isDigitOrMark
        let tail := r.dropWhile isDigitOrMark
        match splitOn ':' (before (· == '.') s) with
        | [] => false
        | [d] =>
          (isMarkedNumber d || (d.isEmpty && !signed && isMarkedNumber fraction))
            && isExponent tail
        | d :: parts => isMarkedNumber d && parts.all isSixtieth && tail.isEmpty

/-- Whether a text has the form of a date, perhaps with a time of day. Without one, month and day
need two digits. -/
def isTimestamp (s : List Char) : Bool :=
  match Moment.Written.read? s with
  | none => false
  | some w => w.time.isSome || (w.date.2.1.length == 2 && w.date.2.2.length == 2)

/-- The type of a text by its form. -/
def typeOfForm (s : List Char) : ScalarType :=
  let word := String.ofList s
  let (_, unsigned) := Integer.cutSign s
  if nullWords.contains word then .null
  else if trueWords.contains word || falseWords.contains word then .bool
  else if isFloatForm (unsigned.length != s.length) unsigned then .float
  else if isIntForm unsigned then .int
  else if word == "<<" then .merge
  else if isTimestamp s then .timestamp
  else if word == "=" then .default
  else .text

/-- The type of a plain scalar. A line break at its end does not count, unless it is all. -/
def typeOf (s : List Char) : ScalarType :=
  if s == ['\n'] then .text else typeOfForm (dropFinalBreak s)

/-! ### Values -/

/-- The whole number of a text in a base. -/
def readInteger (base : Nat) (s : List Char) : Except Failure Int :=
  (Integer.read base s).mapError .integer

/-- The number of some digits to the base of sixty, the highest first. -/
def sixties : List Int → Int :=
  List.foldl (fun acc d => acc * 60 + d) 0

/-- The whole number of a text. Underscores are passed over, and the start tells the base. -/
def int (s : List Char) : Except Failure Int :=
  let s := s.filter (· != '_')
  let (negative, r) := Integer.cutSign s
  let signed (i : Int) : Int := if negative then -i else i
  if r.isEmpty then .error .emptyNumber
  else if r == ['0'] then .ok 0
  else if ['0', 'b'].isPrefixOf r then (readInteger 2 (r.drop 2)).map signed
  else if ['0', 'x'].isPrefixOf r then (readInteger 16 (r.drop 2)).map signed
  else if r.head? == some '0' then (readInteger 8 r).map signed
  else if r.contains ':' then
    ((splitOn ':' r).mapM (readInteger 10)).map fun parts => signed (sixties parts)
  else (readInteger 10 r).map signed

/-- The floating-point number of a text without anything special about it. -/
def readFloat (s : List Char) : Except Failure Binary64 :=
  match Binary64.read? s with
  | some x => .ok x
  | none => .error (.badFloat (String.ofList s))

/-- The sum of some digits to the base of sixty, the lowest first, of which the first counts `base`
each. All steps are rounded. -/
def sixtiesFloat (sum : Binary64) (base : Nat) : List Binary64 → Except Failure Binary64
  | [] => .ok sum
  | d :: ds =>
    let unit := Binary64.ofQuotient false base 1
    if unit.isInfinite then .error .hugeNumber
    else sixtiesFloat (sum.plus (d.multiply unit)) (base * 60) ds

/-- The floating-point number of a text. Underscores are passed over. -/
def float (s : List Char) : Except Failure Binary64 :=
  let s := lowerCase (s.filter (· != '_'))
  let (negative, r) := Integer.cutSign s
  let signed (x : Binary64) : Binary64 := if negative && !x.isNaN then x.negate else x
  if s.isEmpty then .error .emptyNumber
  else if r == ".inf".toList then .ok (.infinity negative)
  else if r == ".nan".toList then .ok .nan
  else if r.contains ':' then
    match (splitOn ':' r).mapM readFloat with
    | .error e => .error e
    | .ok parts => (sixtiesFloat (.ofQuotient false 0 1) 1 parts.reverse).map signed
  else (readFloat r).map signed

/-- The truth value of a word in any case. -/
def bool (s : List Char) : Except Failure Bool :=
  let word := String.ofList (lowerCase s)
  if trueWords.contains word then .ok true
  else if falseWords.contains word then .ok false
  else .error .badTruth

/-- The date or moment of a text. -/
def timestamp (s : List Char) : Except Failure Atom :=
  match Moment.Written.read? (dropFinalBreak s) with
  | none => .error .badMoment
  | some w =>
    match w.moment? with
    | none => (w.day.check.mapError .moment).map .date
    | some m => (m.check.mapError .moment).map .moment

/-- The bytes that a text writes. -/
def binary (s : List Char) : Except Failure (List UInt8) :=
  if s.all (·.toNat < 128) then
    match Base64.decode? s with
    | some bytes => .ok bytes
    | none => .error .badYaml
  else .error .badYaml

/-- The value of a text as one of a type. The reserved types have no values. -/
def value (type : ScalarType) (s : List Char) : Except Failure Atom :=
  match type with
  | .null => .ok .null
  | .bool => (bool s).map .bool
  | .int => (int s).map .int
  | .float => (float s).map .float
  | .binary => (binary s).map .bytes
  | .timestamp => timestamp s
  | .merge => .error .badYaml
  | .default => .error .badYaml
  | .text => .ok (.text (String.ofList s))

end Scalar

end Stylebook.Yaml
