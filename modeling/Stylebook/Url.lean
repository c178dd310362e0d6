import Stylebook.Text.Digits

/-!
# Addresses of links

The addresses that a link may have: `http` or `https`, then perhaps `www.`, a host of 2 to 256
characters, a point, a top level of two to six small letters, and a tail that does not go on with a
letter, digit or underscore.
-/

namespace Stylebook.Url

/-- Letters of ASCII. -/
def isLetter (c : Char) : Bool :=
  (97 ≤ c.toNat && c.toNat ≤ 122) || (65 ≤ c.toNat && c.toNat ≤ 90)

/-- Small letters of ASCII. -/
def isSmall (c : Char) : Bool :=
  97 ≤ c.toNat && c.toNat ≤ 122

/-- Letters, digits and the underscore. -/
def isWord (c : Char) : Bool :=
  isLetter c || Text.isAsciiDigit c || c == '_'

/-- The characters of a host. -/
def isHost (c : Char) : Bool :=
  isLetter c || Text.isAsciiDigit c || "-@:%._+~#=".toList.contains c

/-- The characters of a tail. -/
def isTail (c : Char) : Bool :=
  isLetter c || Text.isAsciiDigit c || "-@:%_+.~#?&/=".toList.contains c

/-- Whether a text is a top level and a tail. The top level takes all small letters, since the tail
must not go on with one. -/
def endsWell (s : List Char) : Bool :=
  let top := (s.takeWhile isSmall).length
  let rest := s.dropWhile isSmall
  2 ≤ top && top ≤ 6 && !(rest.head?.any isWord) && rest.all isTail

/-- Whether a text is the rest of a host, of which `count` characters have been read, then a point
and a good end. A point may also belong to the host. -/
def hostFits : (count : Nat) → List Char → Bool
  | _, [] => false
  | count, c :: s =>
    (c == '.' && 2 ≤ count && endsWell s) || (count < 256 && isHost c && hostFits (count + 1) s)

/-- Whether a text is an address after its scheme. -/
def hasHost (s : List Char) : Bool :=
  hostFits 0 s || ("www.".toList.isPrefixOf s && hostFits 0 (s.drop 4))

/-- Whether a text is an address that a link may have. -/
def isValid (s : List Char) : Bool :=
  ("http://".toList.isPrefixOf s && hasHost (s.drop 7))
    || ("https://".toList.isPrefixOf s && hasHost (s.drop 8))

end Stylebook.Url
