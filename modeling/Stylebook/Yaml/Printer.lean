import Stylebook.Number.Shortest
import Stylebook.Text.Hex
import Stylebook.Yaml.Scalar
import Stylebook.Yaml.Token

/-!
# YAML text

Values as YAML text in block style. A text stands without quotes if it cannot be taken for anything
else, in single quotes if that suffices, and otherwise in double quotes with escapes. Long lines are
folded behind their eightieth column.
-/

namespace Stylebook.Yaml

/-! ### Which quotes a text needs -/

/-- The quotes around a text. -/
inductive Quotes where
  | none
  | single
  | double
  deriving DecidableEq, Repr

/-- The line breaks that a text may keep. -/
def isTextBreak (c : Char) : Bool :=
  c == '\n' || c.toNat == 0x85 || c.toNat == 0x2028 || c.toNat == 0x2029

/-- Characters that can only be written as escapes: controls other than line breaks, the byte order
mark, and those that are no characters. -/
def isSpecial (c : Char) : Bool :=
  let n := c.toNat
  !(c == '\n' || (0x20 ≤ n && n ≤ 0x7E)
    || ((n == 0x85 || (0xA0 ≤ n && n ≤ 0xFFFD) || (0x10000 ≤ n && n < 0x10FFFF)) && n != 0xFEFF))

/-- Whether two characters follow each other somewhere in a text. -/
def hasPair (p q : Char → Bool) : List Char → Bool
  | a :: b :: s => (p a && q b) || hasPair p q (b :: s)
  | _ => false

/-- Characters that a text without quotes cannot start with. -/
def isIndicator (c : Char) : Bool :=
  "#,[]\x7b\x7d&*!|>'\"%@`".toList.contains c

/-- Whether a colon ends a word, or a number sign starts one. -/
def hasInnerMark : List Char → Bool
  | [] => false
  | a :: s =>
    (a == ':' && atBlank s) || (atBlank [a] && s.head? == some '#') || hasInnerMark s

/-- Whether a text looks like the start of something else than a plain scalar. -/
def looksMarked (s : List Char) : Bool :=
  ['-', '-', '-'].isPrefixOf s || ['.', '.', '.'].isPrefixOf s
    || match s with
      | [] => false
      | c :: r => isIndicator c || ((c == '?' || c == '-') && atBlank r) || hasInnerMark s

/-- Whether a text can be written without quotes. -/
def canBePlain (s : List Char) : Bool :=
  Scalar.typeOf s == .text && !looksMarked s && !s.any (fun c => isTextBreak c || isSpecial c)
    && s.head? != some ' ' && s.getLast? != some ' '

/-- Whether a text can be written in single quotes. -/
def canBeSingle (s : List Char) : Bool :=
  !s.any isSpecial && !hasPair isTextBreak (· == ' ') s && !hasPair (· == ' ') isTextBreak s

/-- The quotes that a text needs. -/
def quotesFor (s : List Char) : Quotes :=
  if canBePlain s then .none else if canBeSingle s then .single else .double

/-! ### Writing a text -/

/-- The column behind which lines are folded. -/
def foldColumn : Nat :=
  80

/-- A new line that starts at a column. -/
def newLine (indent : Nat) : List Char :=
  '\n' :: List.replicate indent ' '

/-- The rest of a text without quotes, from a column on. A single space behind the fold column
becomes a new line; `after` is whether the character before was a space. -/
def plainChars (indent : Nat) (column : Nat) (after : Bool) : List Char → List Char
  | [] => []
  | c :: s =>
    if c == ' ' && !after && s.head? != some ' ' && column > foldColumn then
      newLine indent ++ plainChars indent indent true s
    else c :: plainChars indent (column + 1) (c == ' ') s

/-- The rest of a text in single quotes, from a column on. A quote is written twice. A line break
becomes an empty line, and a new line starts after the last of several. A single space behind the
fold column becomes a new line, unless it is the first or the last character; `before` is the
character before. -/
def singleChars (indent : Nat) (column : Nat) (before : Option Char) : List Char → List Char
  | [] => []
  | c :: s =>
    if c == '\'' then '\'' :: '\'' :: singleChars indent (column + 2) (some c) s
    else if isTextBreak c then
      -- The first of several breaks is written twice if it is a line feed.
      let first := c == '\n' && !(before.any isTextBreak)
      let last := !(s.head?.any isTextBreak)
      (if first then ['\n'] else []) ++ c :: (if last then List.replicate indent ' ' else [])
        ++ singleChars indent (if last then indent else 0) (some c) s
    else if c == ' ' && before.isSome && before != some ' ' && !s.isEmpty && s.head? != some ' '
        && column > foldColumn then
      newLine indent ++ singleChars indent indent (some c) s
    else c :: singleChars indent (column + 1) (some c) s

/-- The letters of the escapes with one letter. -/
def escapeLetters : List (Nat × Char) :=
  [(0, '0'), (7, 'a'), (8, 'b'), (9, 't'), (10, 'n'), (11, 'v'), (12, 'f'), (13, 'r'), (27, 'e'),
   (34, '"'), (92, '\\'), (0x85, 'N'), (0xA0, '_'), (0x2028, 'L'), (0x2029, 'P')]

/-- Whether a character is escaped in double quotes. -/
def isEscaped (c : Char) : Bool :=
  let n := c.toNat
  c == '"' || c == '\\' || n == 0x85 || n == 0x2028 || n == 0x2029 || n == 0xFEFF
    || !((0x20 ≤ n && n ≤ 0x7E) || (0xA0 ≤ n && n ≤ 0xFFFD))

/-- The last digits of a number in upper-case hexadecimal. -/
def upperHex (width n : Nat) : List Char :=
  (Text.hexDigits width n).map Char.toUpper

/-- The escape of a character. -/
def escapeOf (c : Char) : List Char :=
  let n := c.toNat
  match escapeLetters.lookup n with
  | some letter => ['\\', letter]
  | none =>
    if n ≤ 0xFF then '\\' :: 'x' :: upperHex 2 n
    else if n ≤ 0xFFFF then '\\' :: 'u' :: upperHex 4 n
    else '\\' :: 'U' :: upperHex 8 n

/-- The rest of a text in double quotes, from a column on. Behind the fold column a backslash and a
new line stand before a space and on either side of an escape, but not after the first or before the
last character; a space at the start of a line is escaped. `first` is whether no character precedes,
`opened` whether none precedes since the last escape or fold. -/
def doubleChars (indent : Nat) (column : Nat) (first opened : Bool) : List Char → List Char
  | [] => []
  | c :: s =>
    let inside := !first && !s.isEmpty
    if isEscaped c then
      let escape := escapeOf c
      let column := column + escape.length
      if inside && column - 1 > foldColumn then
        let spaced := s.head? == some ' '
        escape ++ '\\' :: newLine indent ++ (if spaced then ['\\'] else [])
          ++ doubleChars indent (if spaced then indent + 1 else indent) false true s
      else escape ++ doubleChars indent column false true s
    else if inside && (c == ' ' || opened) && column > foldColumn then
      let lead := if c == ' ' then ['\\', c] else [c]
      '\\' :: newLine indent ++ lead ++ doubleChars indent (indent + lead.length) false false s
    else c :: doubleChars indent (column + 1) false false s

/-- A text behind a mark that ends before a column, with the space between them. -/
def textChars (indent column : Nat) (s : List Char) : List Char :=
  match quotesFor s with
  | .none => ' ' :: plainChars indent (column + 1) false s
  | .single => ' ' :: '\'' :: singleChars indent (column + 2) none s ++ ['\'']
  | .double => ' ' :: '"' :: doubleChars indent (column + 2) true true s ++ ['"']

/-- A key; keys are never folded. -/
def keyChars (s : List Char) : List Char :=
  match quotesFor s with
  | .none => s
  | .single => '\'' :: s.flatMap (fun c => if c == '\'' then ['\'', '\''] else [c]) ++ ['\'']
  | .double => '"' :: s.flatMap (fun c => if isEscaped c then escapeOf c else [c]) ++ ['"']

/-- A floating-point number. -/
def floatText (x : Binary64) : String :=
  if x.isNaN then ".nan"
  else if x.isInfinite then (if x.isNegative then "-.inf" else ".inf")
  else x.text

/-! ### Writing a value -/

mutual

/-- The value of an entry whose key ends before a column, in a map at `indent`. A list stands at the
indent of the map itself. -/
def entryValue (unit indent column : Nat) : Value → List Char
  | .null => " null".toList
  | .bool b => (if b then " true" else " false").toList
  | .int i => ' ' :: (Text.intText i).toList
  | .float x => ' ' :: (floatText x).toList
  | .text s => textChars (indent + unit) column s.toList
  | .list [] => " []".toList
  | .list vs => newLine indent ++ listChars unit indent vs
  | .map [] => [' ', '{', '}']
  | .map es => newLine (indent + unit) ++ mapChars unit (indent + unit) es

/-- An element of a list at `indent`, after its hyphen. Maps and lists start further right by the
unit of indentation. -/
def itemValue (unit indent : Nat) : Value → List Char
  | .null => " null".toList
  | .bool b => (if b then " true" else " false").toList
  | .int i => ' ' :: (Text.intText i).toList
  | .float x => ' ' :: (floatText x).toList
  | .text s => textChars (indent + unit) (indent + 1) s.toList
  | .list [] => " []".toList
  | .list vs => List.replicate (unit - 1) ' ' ++ listChars unit (indent + unit) vs
  | .map [] => [' ', '{', '}']
  | .map es => List.replicate (unit - 1) ' ' ++ mapChars unit (indent + unit) es

/-- The elements of a list, each but the first on a new line. -/
def listChars (unit indent : Nat) : List Value → List Char
  | [] => []
  | [v] => '-' :: itemValue unit indent v
  | v :: vs => '-' :: itemValue unit indent v ++ newLine indent ++ listChars unit indent vs

/-- The entries of a map, each but the first on a new line. -/
def mapChars (unit indent : Nat) : List (String × Value) → List Char
  | [] => []
  | [(k, v)] =>
    let key := keyChars k.toList
    key ++ ':' :: entryValue unit indent (indent + key.length + 1) v
  | (k, v) :: es =>
    let key := keyChars k.toList
    key ++ ':' :: entryValue unit indent (indent + key.length + 1) v ++ newLine indent
      ++ mapChars unit indent es

end

/-- The unit of indentation; widths below two or above nine are not used. -/
def unitOf (width : Int) : Nat :=
  if 1 < width && width < 10 then width.toNat else 2

/-- The text of a map. -/
def text (unit : Nat) (es : List (String × Value)) : String :=
  String.ofList ((if es.isEmpty then ['{', '}'] else mapChars unit 0 es) ++ ['\n'])

end Stylebook.Yaml
