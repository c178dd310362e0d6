import Stylebook.Text.Hex

/-!
# Bytes as text

Bytes in base 64: four characters for three bytes, each character six bits, and equals signs that
fill up the last four. Other characters are passed over. Messages show bytes between quotes.
-/

namespace Stylebook.Base64

/-- The six bits of a character. -/
def value? (c : Char) : Option Nat :=
  let n := c.toNat
  if 65 ≤ n && n ≤ 90 then some (n - 65)
  else if 97 ≤ n && n ≤ 122 then some (n - 71)
  else if 48 ≤ n && n ≤ 57 then some (n + 4)
  else if c == '+' then some 62
  else if c == '/' then some 63
  else none

/-- Reads characters after `held` bits, which write `acc`, and after some equals signs. Equals signs
count when twelve or more bits of the present four characters have been read; the reading ends when
they fill up the four. -/
def readBits (acc held fills : Nat) : List Char → Option (List UInt8)
  | [] => if held == 0 then some [] else none
  | '=' :: s =>
    -- Two characters leave four bits, and three leave two.
    if held == 4 && fills + 1 ≥ 2 || held == 2 then some []
    else readBits acc held (if held == 4 then fills + 1 else fills) s
  | c :: s =>
    match value? c with
    | none => readBits acc held fills s
    | some v =>
      if held == 0 then readBits v 6 0 s
      else
        let bits := acc * 64 + v
        let left := held - 2
        (readBits (bits % Nat.pow 2 left) left 0 s).map
          fun bytes => (bits / Nat.pow 2 left).toUInt8 :: bytes

/-- The bytes that a text writes, if its last four characters are complete. -/
def decode? (s : List Char) : Option (List UInt8) :=
  readBits 0 0 0 s

/-- A byte as it stands between the quotes `mark`. -/
def shownByte (mark : Char) (b : UInt8) : List Char :=
  let c := Char.ofNat b.toNat
  if c == mark || c == '\\' then ['\\', c]
  else if c == '\n' then ['\\', 'n']
  else if c == '\r' then ['\\', 'r']
  else if c == '\t' then ['\\', 't']
  else if 0x20 ≤ b.toNat && b.toNat < 0x7F then [c]
  else '\\' :: 'x' :: Text.hexDigits 2 b.toNat

/-- Bytes in a message. Single quotes are used unless there is a single quote and no double one. -/
def shown (bytes : List UInt8) : String :=
  let mark := if bytes.contains 39 && !bytes.contains 34 then '"' else '\''
  String.ofList ('b' :: mark :: bytes.flatMap (shownByte mark) ++ [mark])

end Stylebook.Base64
