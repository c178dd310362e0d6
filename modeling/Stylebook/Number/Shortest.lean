import Stylebook.Number.Binary64
import Stylebook.Text.Digits

/-!
# Shortest decimals

The decimal with the fewest digits that reads back as a given floating-point number, and of those
the nearest one.
-/

namespace Stylebook.Binary64

/-- A decimal: `digits * 10 ^ exponent`. -/
structure Decimal where
  digits : Nat
  exponent : Int
  deriving DecidableEq, Repr

/-- The reals between the neighbours of a positive number that round to it, over one denominator:
the lower end, the number itself and the upper end. -/
structure Interval where
  low : Nat
  mid : Nat
  high : Nat
  den : Nat
  closed : Bool

/-- The interval of a positive finite number. Below a power of two the spacing is half as wide. -/
def interval (x : Binary64) : Interval :=
  let m := x.significand
  let narrow := m == Nat.pow 2 52 && x.storedExponent > 1
  let e := x.exponent - 2
  let unit := if 0 ≤ e then Nat.pow 2 e.toNat else 1
  { low := (if narrow then 4 * m - 1 else 4 * m - 2) * unit
    mid := 4 * m * unit
    high := (4 * m + 2) * unit
    den := if 0 ≤ e then 1 else Nat.pow 2 (-e).toNat
    closed := m % 2 == 0 }

/-- Whether a decimal lies in the interval. -/
def Interval.has (i : Interval) (d : Decimal) : Bool :=
  let (n, den) := if 0 ≤ d.exponent then (d.digits * Nat.pow 10 d.exponent.toNat, 1)
    else (d.digits, Nat.pow 10 (-d.exponent).toNat)
  let n := n * i.den
  if i.closed then i.low * den ≤ n && n ≤ i.high * den else i.low * den < n && n < i.high * den

/-- The number of decimal digits of a positive number before its point, less one; negative if it
starts after the point. -/
def Interval.magnitude (i : Interval) : Int :=
  if i.mid ≥ i.den then ((Nat.toDigits 10 (i.mid / i.den)).length : Int) - 1
  else
    -- The first power of ten that lifts the number to one or above.
    let k := (List.range 330).find? fun k => i.mid * Nat.pow 10 (k + 1) ≥ i.den
    Int.negSucc (k.getD 330)

/-- The decimals of the grid `10 ^ exponent` on either side of the number, the nearer one first and
the even one first when both are equally near. -/
def Interval.neighbours (i : Interval) (exponent : Int) : List Decimal :=
  let (n, d) := if 0 ≤ exponent then (i.mid, i.den * Nat.pow 10 exponent.toNat)
    else (i.mid * Nat.pow 10 (-exponent).toNat, i.den)
  let q := n / d
  let r := n % d
  if 2 * r < d || (2 * r == d && q % 2 == 0) then [⟨q, exponent⟩, ⟨q + 1, exponent⟩]
  else [⟨q + 1, exponent⟩, ⟨q, exponent⟩]

/-- The decimal of `n` digits or more that reads back, trying `fuel` lengths. -/
def Interval.search (i : Interval) (top : Int) : (n fuel : Nat) → Decimal
  | n, 0 => (i.neighbours (top - n)).headD ⟨0, 0⟩
  | n, fuel + 1 =>
    match (i.neighbours (top - n)).find? i.has with
    | some d => d
    | none => i.search top (n + 1) fuel

/-- The shortest decimal of the size of a finite number that is not zero. Seventeen digits always
suffice. -/
def shortest (x : Binary64) : Decimal :=
  let i := x.interval
  i.search i.magnitude 0 17

/-- Digits without the zeros at their end, which go into the exponent. -/
def Decimal.trimZeros (digits : List Char) (exponent : Int) : List Char × Int :=
  let kept := (digits.reverse.dropWhile (· == '0')).reverse
  (kept, exponent + (digits.length - kept.length : Nat))

/-- How a number is written: positional for exponents from `10 ^ -4` to below `10 ^ 16`, with `.0`
after a whole number, and otherwise with an exponent of a sign and at least two digits. -/
def text (x : Binary64) : String :=
  let sign := if x.isNegative then "-" else ""
  if x.isZero then sign ++ "0.0"
  else
    let d := x.shortest
    let (digits, exponent) := Decimal.trimZeros (Nat.toDigits 10 d.digits) d.exponent
    -- The exponent of the first digit.
    let top := exponent + digits.length - 1
    let body :=
      if -4 ≤ top && top < 16 then
        if 0 ≤ exponent then digits ++ List.replicate exponent.toNat '0' ++ ['.', '0']
        else if 0 ≤ top then digits.take (top + 1).toNat ++ '.' :: digits.drop (top + 1).toNat
        else '0' :: '.' :: List.replicate (-top - 1).toNat '0' ++ digits
      else
        let mantissa := match digits with
          | [c] => [c]
          | c :: cs => c :: '.' :: cs
          | [] => []
        let e := Nat.toDigits 10 top.natAbs
        mantissa ++ 'e' :: (if top < 0 then '-' else '+') ::
          (if e.length < 2 then '0' :: e else e)
    sign ++ String.ofList body

end Stylebook.Binary64
