/-!
# Blank characters

Which characters count as blank, the words of a text (its maximal runs of characters that are not
blank), and the collapsed form of a text, in which the words stand one space apart.
-/

namespace Stylebook.Text

/-- Blank characters: the tab, line and separator controls, the plain and the no-break space, and
the other spaces and separators of Unicode. Zero-width characters are not blank. -/
def isBlank (c : Char) : Bool :=
  let n := c.toNat
  (0x9 ≤ n && n ≤ 0xD) || (0x1C ≤ n && n ≤ 0x20) || n == 0x85 || n == 0xA0 || n == 0x1680
    || (0x2000 ≤ n && n ≤ 0x200A) || n == 0x2028 || n == 0x2029 || n == 0x202F || n == 0x205F
    || n == 0x3000

/-- The blanks that stay within a line of source: space and tab. -/
def isSpaceOrTab (c : Char) : Bool :=
  c == ' ' || c == '\t'

/-- The characters that end a word of a documentation comment. -/
def isWordEnd (c : Char) : Bool :=
  c == ' ' || c == '\t' || c == '\r' || c == '\n'

/-- Put a character in front of the first word, or start the only one. -/
def extendFirst (c : Char) : List (List Char) → List (List Char)
  | [] => [[c]]
  | w :: ws => (c :: w) :: ws

/-- The words of a text, in order. A word ends where a blank or the end of the text follows. -/
def words : List Char → List (List Char)
  | [] => []
  | c :: s =>
    if isBlank c then words s
    else if isBlank (s.headD ' ') then [c] :: words s
    else extendFirst c (words s)

/-- The words of a text with one space between each two. -/
def collapse (s : List Char) : List Char :=
  List.intercalate [' '] (words s)

/-- A text without the characters at its end that satisfy `p`. -/
def dropEndWhile (p : Char → Bool) (s : List Char) : List Char :=
  (s.reverse.dropWhile p).reverse

/-- A text without its blanks at either end. -/
def trim (s : List Char) : List Char :=
  dropEndWhile isBlank (s.dropWhile isBlank)

/-- The collapsed form of a string. -/
def normalize (s : String) : String :=
  String.ofList (collapse s.toList)

end Stylebook.Text
