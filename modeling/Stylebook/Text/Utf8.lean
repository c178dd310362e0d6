import Stylebook.Text.Digits
import Stylebook.Text.Hex

/-!
# UTF-8

Bytes as text. The first sequence of bytes that is not a character is reported with its place and
with what is wrong about it.
-/

namespace Stylebook.Utf8

/-- What is wrong with a sequence of bytes. -/
inductive Reason where
  /-- No character starts with this byte. -/
  | start
  /-- The next byte does not go on with the character. -/
  | continuation
  /-- The bytes end inside a character. -/
  | ending
  deriving DecidableEq, Repr

/-- The wording of a reason. -/
def Reason.text : Reason → String
  | .start => "invalid start byte"
  | .continuation => "invalid continuation byte"
  | .ending => "unexpected end of data"

/-- A broken sequence: where it starts, its bytes as far as they were valid, and the reason. -/
structure Fault where
  position : Nat
  bytes : List UInt8
  reason : Reason
  deriving DecidableEq, Repr

/-- The fault in one line. -/
def Fault.message (f : Fault) : String :=
  let place := match f.bytes with
    | [b] => "byte 0x" ++ String.ofList (Text.hexDigits 2 b.toNat) ++ " in position "
        ++ Text.natText f.position
    | bs => "bytes in position " ++ Text.natText f.position ++ "-"
        ++ Text.natText (f.position + bs.length - 1)
  "'utf-8' codec can't decode " ++ place ++ ": " ++ f.reason.text

/-- Whether a byte goes on with a character. -/
def isTail (b : UInt8) : Bool :=
  0x80 ≤ b && b ≤ 0xBF

/-- Whether `b` may follow `a`, the first byte of a character of three or four bytes. Overlong
forms, surrogates and numbers beyond the last plane have no character. -/
def mayFollow (a b : UInt8) : Bool :=
  isTail b && (a != 0xE0 || 0xA0 ≤ b) && (a != 0xED || b ≤ 0x9F) && (a != 0xF0 || 0x90 ≤ b)
    && (a != 0xF4 || b ≤ 0x8F)

/-- The payload of a byte that goes on with a character. -/
def tailBits (b : UInt8) : Nat :=
  b.toNat % 64

/-- The text of some bytes that start at a position. -/
def decodeFrom (position : Nat) : List UInt8 → Except Fault (List Char)
  | [] => .ok []
  | a :: s =>
    if a < 0x80 then (decodeFrom (position + 1) s).map (Char.ofNat a.toNat :: ·)
    else if a < 0xC2 || 0xF5 ≤ a then .error ⟨position, [a], .start⟩
    else if a < 0xE0 then
      match s with
      | [] => .error ⟨position, [a], .ending⟩
      | b :: s =>
        if isTail b then
          (decodeFrom (position + 2) s).map
            (Char.ofNat (a.toNat % 32 * 64 + tailBits b) :: ·)
        else .error ⟨position, [a], .continuation⟩
    else if a < 0xF0 then
      match s with
      | [] => .error ⟨position, [a], .ending⟩
      | b :: s =>
        if !mayFollow a b then .error ⟨position, [a], .continuation⟩
        else
          match s with
          | [] => .error ⟨position, [a, b], .ending⟩
          | c :: s =>
            if isTail c then
              (decodeFrom (position + 3) s).map
                (Char.ofNat ((a.toNat % 16 * 64 + tailBits b) * 64 + tailBits c) :: ·)
            else .error ⟨position, [a, b], .continuation⟩
    else
      match s with
      | [] => .error ⟨position, [a], .ending⟩
      | b :: s =>
        if !mayFollow a b then .error ⟨position, [a], .continuation⟩
        else
          match s with
          | [] => .error ⟨position, [a, b], .ending⟩
          | c :: s =>
            if !isTail c then .error ⟨position, [a, b], .continuation⟩
            else
              match s with
              | [] => .error ⟨position, [a, b, c], .ending⟩
              | d :: s =>
                if isTail d then
                  (decodeFrom (position + 4) s).map
                    (Char.ofNat (((a.toNat % 8 * 64 + tailBits b) * 64 + tailBits c) * 64
                      + tailBits d) :: ·)
                else .error ⟨position, [a, b, c], .continuation⟩

/-- The text of some bytes. -/
def decode (bytes : List UInt8) : Except Fault (List Char) :=
  decodeFrom 0 bytes

/-- The bytes of a text. -/
def encode (s : String) : List UInt8 :=
  s.toUTF8.toList

end Stylebook.Utf8
