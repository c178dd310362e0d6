/-!
# Binary floating-point numbers

Floating-point numbers of 64 bits: a sign, eleven bits of exponent and a fraction of 52 bits. All
arithmetic is exact on natural numbers and rounds once, to the nearest number, and to the one with
the even last bit when two are equally near.
-/

namespace Stylebook

/-- A floating-point number of 64 bits. -/
structure Binary64 where
  bits : UInt64
  deriving DecidableEq, Repr

namespace Binary64

/-- Whether the sign bit is set. -/
def isNegative (x : Binary64) : Bool :=
  x.bits.toNat / Nat.pow 2 63 == 1

/-- The stored exponent. -/
def storedExponent (x : Binary64) : Nat :=
  x.bits.toNat / Nat.pow 2 52 % Nat.pow 2 11

/-- The stored fraction. -/
def storedFraction (x : Binary64) : Nat :=
  x.bits.toNat % Nat.pow 2 52

/-- Whether the number is not a number at all. -/
def isNaN (x : Binary64) : Bool :=
  x.storedExponent == 2047 && x.storedFraction != 0

/-- Whether the number is infinite. -/
def isInfinite (x : Binary64) : Bool :=
  x.storedExponent == 2047 && x.storedFraction == 0

/-- The significand of a finite number, which is the significand times two to its `exponent`. -/
def significand (x : Binary64) : Nat :=
  if x.storedExponent == 0 then x.storedFraction else x.storedFraction + Nat.pow 2 52

/-- The exponent that goes with the significand. -/
def exponent (x : Binary64) : Int :=
  if x.storedExponent == 0 then -1074 else x.storedExponent - 1075

/-- Whether the number is zero, of either sign. -/
def isZero (x : Binary64) : Bool :=
  x.storedExponent == 0 && x.storedFraction == 0

/-- The number of a sign and the bits below it. -/
def ofParts (negative : Bool) (magnitude : Nat) : Binary64 :=
  ⟨UInt64.ofNat ((if negative then Nat.pow 2 63 else 0) + magnitude)⟩

/-- Infinity of a sign. -/
def infinity (negative : Bool) : Binary64 :=
  ofParts negative (2047 * Nat.pow 2 52)

/-- The value that is not a number. -/
def nan : Binary64 :=
  ofParts false (2047 * Nat.pow 2 52 + Nat.pow 2 51)

/-- A quotient rounded to the nearest whole number, a half to the even one. -/
def roundedQuotient (num den : Nat) : Nat :=
  let q := num / den
  let r := num % den
  if 2 * r > den || (2 * r == den && q % 2 == 1) then q + 1 else q

/-- The quotient of `num` and `den * 2 ^ q`, as two natural numbers. -/
def scaled (num den : Nat) (q : Int) : Nat × Nat :=
  if 0 ≤ q then (num, den * Nat.pow 2 q.toNat) else (num * Nat.pow 2 (-q).toNat, den)

/-- The number nearest to a quotient of natural numbers, with a sign. -/
def ofQuotient (negative : Bool) (num den : Nat) : Binary64 :=
  if num == 0 then ofParts negative 0
  else
    let guess : Int := (num.log2 : Int) - den.log2 - 52
    let (n, d) := scaled num den guess
    let q := max (if n / d < Nat.pow 2 52 then guess - 1 else guess) (-1074)
    let (n, d) := scaled num den q
    let m := roundedQuotient n d
    -- A subnormal significand that reaches the smallest normal one carries into the exponent.
    if m < Nat.pow 2 52 then ofParts negative m
    else
      let stored := q + 1075 + (if m == Nat.pow 2 53 then 1 else 0)
      if stored ≥ 2047 then infinity negative
      else
        let fraction := if m == Nat.pow 2 53 then 0 else m - Nat.pow 2 52
        ofParts negative (stored.toNat * Nat.pow 2 52 + fraction)

/-- The number nearest to `digits * 10 ^ exponent`, with a sign. Beyond the range of exponents the
result is infinite or zero, and the power is not computed. -/
def ofDecimal (negative : Bool) (digits : Nat) (exponent : Int) : Binary64 :=
  if digits == 0 then ofParts negative 0
  else if exponent > 400 then infinity negative
  else if exponent + (digits.log2 : Int) < -1200 then ofParts negative 0
  else if 0 ≤ exponent then ofQuotient negative (digits * Nat.pow 10 exponent.toNat) 1
  else ofQuotient negative digits (Nat.pow 10 (-exponent).toNat)

/-- A finite number as a quotient, the sign on the numerator. -/
def toQuotient (x : Binary64) : Int × Nat :=
  let m : Int := if x.isNegative then -x.significand else x.significand
  if 0 ≤ x.exponent then (m * Nat.pow 2 x.exponent.toNat, 1)
  else (m, Nat.pow 2 (-x.exponent).toNat)

/-- The same number with the other sign. -/
def negate (x : Binary64) : Binary64 :=
  ofParts (!x.isNegative) (x.bits.toNat % Nat.pow 2 63)

/-- The rounded product of two numbers. -/
def multiply (x y : Binary64) : Binary64 :=
  let negative := x.isNegative != y.isNegative
  if x.isNaN || y.isNaN then nan
  else if x.isInfinite || y.isInfinite then
    if x.isZero || y.isZero then nan else infinity negative
  else
    let (a, b) := x.toQuotient
    let (c, d) := y.toQuotient
    ofQuotient negative (a.natAbs * c.natAbs) (b * d)

/-- The rounded sum of two numbers. A sum of zero is negative only if both numbers are. -/
def plus (x y : Binary64) : Binary64 :=
  if x.isNaN || y.isNaN then nan
  else if x.isInfinite then
    if y.isInfinite && x.isNegative != y.isNegative then nan else x
  else if y.isInfinite then y
  else
    let (a, b) := x.toQuotient
    let (c, d) := y.toQuotient
    let n := a * d + c * b
    if n == 0 then ofParts (x.isNegative && y.isNegative) 0
    else ofQuotient (n < 0) n.natAbs (b * d)

/-- A finite number without what stands after its point. -/
def truncate (x : Binary64) : Int :=
  let (n, d) := x.toQuotient
  n.tdiv d

end Binary64

end Stylebook
