import Stylebook.Failure
import Stylebook.Text.Lines

/-!
# YAML tokens

The tokens of a YAML stream. Indentation shows in tokens of its own: a block opens where an entry
stands further right than those around it and ends where the text goes back. A scalar is a key only
if a colon follows it on its line, so the token that marks a key is put in when the colon is met.
Where the text cannot be cut into tokens, a last token tells why.
-/

namespace Stylebook.Yaml

/-- The tokens of a stream. -/
inductive Token where
  | streamEnd
  | yamlDirective (major : Nat)
  | tagDirective (handle start : String)
  | otherDirective
  | documentStart
  | documentEnd
  | blockSequenceStart
  | blockMappingStart
  | blockEnd
  | flowSequenceStart
  | flowSequenceEnd
  | flowMappingStart
  | flowMappingEnd
  | blockEntry
  | flowEntry
  | key
  | value
  | anchor (name : String)
  | reference (name : String)
  | tag (handle : Option String) (rest : String)
  | scalar (text : List Char) (plain : Bool)
  /-- What cannot be read. -/
  | fault (failure : Failure)
  deriving DecidableEq, Repr

/-! ### Characters -/

/-- Characters that break a line. -/
def isBreak (c : Char) : Bool :=
  c == '\n' || c == '\r' || c.toNat == 0x85 || c.toNat == 0x2028 || c.toNat == 0x2029

/-- Whether the text ends here or a line does. -/
def atBreak : List Char → Bool
  | [] => true
  | c :: _ => isBreak c

/-- Whether the text ends here, a line does, or a space or tab stands here. -/
def atBlank : List Char → Bool
  | [] => true
  | c :: _ => isBreak c || c == ' ' || c == '\t'

/-- Whether the text ends here, a line does, or a space stands here. -/
def atSpace : List Char → Bool
  | [] => true
  | c :: _ => isBreak c || c == ' '

/-- Characters of a settings file: the printable ones and those that break lines. -/
def isAllowed (c : Char) : Bool :=
  let n := c.toNat
  n == 9 || n == 10 || n == 13 || (0x20 ≤ n && n ≤ 0x7E) || n == 0x85
    || (0xA0 ≤ n && n ≤ 0xFFFD) || 0x10000 ≤ n

/-- The letters, digits and marks of names. -/
def isNameChar (c : Char) : Bool :=
  let n := c.toNat
  (48 ≤ n && n ≤ 57) || (65 ≤ n && n ≤ 90) || (97 ≤ n && n ≤ 122) || c == '-' || c == '_'

/-- A line break at the start of a text, as it is kept, and the rest. -/
def cutBreak : List Char → List Char × List Char
  | '\r' :: '\n' :: s => (['\n'], s)
  | c :: s =>
    if c.toNat == 0x2028 || c.toNat == 0x2029 then ([c], s)
    else if isBreak c then (['\n'], s)
    else ([], c :: s)
  | [] => ([], [])

/-- Whether a mark that separates documents stands here. -/
def atSeparator : List Char → Bool
  | '-' :: '-' :: '-' :: s => atBlank s
  | '.' :: '.' :: '.' :: s => atBlank s
  | _ => false

/-! ### Places -/

/-- What is left of a text, with the place where it starts. -/
structure Place where
  rest : List Char
  index : Nat := 0
  line : Nat := 0
  column : Nat := 0

/-- Pass one character. A byte order mark takes no column. -/
def Place.next (p : Place) : Place :=
  match p.rest with
  | [] => p
  | c :: s =>
    if isBreak c && !(c == '\r' && s.head? == some '\n') then
      ⟨s, p.index + 1, p.line + 1, 0⟩
    else ⟨s, p.index + 1, p.line, if c.toNat == 0xFEFF then p.column else p.column + 1⟩

/-- Pass some characters. -/
def Place.skip (p : Place) : Nat → Place
  | 0 => p
  | n + 1 => p.next.skip n

/-- Pass all characters before `rest`, which is an end of the text. -/
def Place.upTo (p : Place) (rest : List Char) : Place :=
  p.skip (p.rest.length - rest.length)

/-! ### Quoted scalars -/

/-- The line breaks and blanks after a line break inside quotes: the breaks, and the rest. A mark
that separates documents must not stand there. -/
def quotedBreaks (fuel : Nat) (s : List Char) : Option (List Char × List Char) :=
  match fuel with
  | 0 => none
  | fuel + 1 =>
    if atSeparator s then none
    else
      match s.dropWhile Text.isSpaceOrTab with
      | [] => some ([], [])
      | c :: r =>
        if isBreak c then
          let (b, r) := cutBreak (c :: r)
          (quotedBreaks fuel r).map fun (more, rest) => (b ++ more, rest)
        else some ([], c :: r)

/-- A line break with the breaks after it: one break alone becomes a space. -/
def foldBreak (first more : List Char) : List Char :=
  if first != ['\n'] then first ++ more else if more.isEmpty then [' '] else more

/-- The blanks inside quotes, folded if a line breaks among them, and the rest. -/
def quotedBlanks (s : List Char) : Option (List Char × List Char) :=
  let blanks := s.takeWhile Text.isSpaceOrTab
  match s.dropWhile Text.isSpaceOrTab with
  | [] => none
  | c :: r =>
    if isBreak c then
      let (b, r) := cutBreak (c :: r)
      (quotedBreaks (r.length + 1) r).map fun (more, rest) => (foldBreak b more, rest)
    else some (blanks, c :: r)

/-- Reads the rest of a text in single quotes, in which a quote is written twice. -/
def readSingle (fuel : Nat) (s : List Char) : Option (List Char × List Char) :=
  match fuel with
  | 0 => none
  | fuel + 1 =>
    match s with
    | [] => none
    | '\'' :: '\'' :: r => (readSingle fuel r).map fun (more, rest) => ('\'' :: more, rest)
    | '\'' :: r => some ([], r)
    | c :: r =>
      if Text.isSpaceOrTab c || isBreak c then do
        let (blanks, r) ← quotedBlanks (c :: r)
        let (more, rest) ← readSingle fuel r
        return (blanks ++ more, rest)
      else (readSingle fuel r).map fun (more, rest) => (c :: more, rest)

/-- The characters of the escapes with one letter. -/
def shortEscapes : List (Char × Nat) :=
  [('0', 0), ('a', 7), ('b', 8), ('t', 9), ('\t', 9), ('n', 10), ('v', 11), ('f', 12), ('r', 13),
   ('e', 27), (' ', 32), ('"', 34), ('\\', 92), ('/', 47), ('N', 0x85), ('_', 0xA0), ('L', 0x2028),
   ('P', 0x2029)]

/-- The number of digits of the escapes by code point. -/
def codeEscapes : List (Char × Nat) :=
  [('x', 2), ('u', 4), ('U', 8)]

/-- What is refused as not being YAML. -/
def orBad {α : Type} (r : Option α) : Except Failure α :=
  match r with
  | some a => .ok a
  | none => .error .badYaml

/-- Reads the code point of an escape after its letter. -/
def readCode (width : Nat) (s : List Char) : Option (Nat × List Char) :=
  if s.length < width then none else (Text.hexNumber? (s.take width)).map (·, s.drop width)

/-- Reads the code point of an escape of a low surrogate. -/
def readLow : List Char → Option (Nat × List Char)
  | '\\' :: c :: s => do
    let (low, rest) ← readCode (← codeEscapes.lookup c) s
    if 0xDC00 ≤ low && low < 0xE000 then return (low, rest) else none
  | _ => none

/-- The character of a code point, before `rest`. A high surrogate needs a low one after it; a
surrogate on its own becomes the replacement character. -/
def codeChar (n : Nat) (rest : List Char) : Except Failure (List Char × List Char) :=
  if n ≥ Nat.pow 2 31 then .error .hugeCharacter
  else if n > 0x10FFFF then .error .badCharacter
  else if 0xD800 ≤ n && n < 0xDC00 then
    match readLow rest with
    | some (low, rest) =>
      .ok ([Char.ofNat (0x10000 + (n - 0xD800) * 0x400 + (low - 0xDC00))], rest)
    | none => .ok ([Char.ofNat 0xFFFD], rest)
  else if 0xDC00 ≤ n && n < 0xE000 then .ok ([Char.ofNat 0xFFFD], rest)
  else .ok ([Char.ofNat n], rest)

/-- Reads an escape after its backslash, which may also hide a line break. -/
def readEscape (s : List Char) : Except Failure (List Char × List Char) :=
  match s with
  | [] => .error .badYaml
  | c :: r =>
    match shortEscapes.lookup c with
    | some n => .ok ([Char.ofNat n], r)
    | none =>
      match codeEscapes.lookup c with
      | some width =>
        match readCode width r with
        | none => .error .badYaml
        | some (n, rest) => codeChar n rest
      | none =>
        if isBreak c then
          let rest := (cutBreak (c :: r)).2
          orBad (quotedBreaks (rest.length + 1) rest)
        else .error .badYaml

/-- Reads the rest of a text in double quotes. -/
def readDouble (fuel : Nat) (s : List Char) : Except Failure (List Char × List Char) :=
  match fuel with
  | 0 => .error .badYaml
  | fuel + 1 =>
    match s with
    | [] => .error .badYaml
    | '"' :: r => .ok ([], r)
    | '\\' :: r => do
      let (cs, r) ← readEscape r
      let (more, rest) ← readDouble fuel r
      return (cs ++ more, rest)
    | c :: r =>
      if Text.isSpaceOrTab c || isBreak c then do
        let (blanks, r) ← orBad (quotedBlanks (c :: r))
        let (more, rest) ← readDouble fuel r
        return (blanks ++ more, rest)
      else (readDouble fuel r).map fun (more, rest) => (c :: more, rest)

/-! ### Plain scalars -/

/-- The marks that end a plain scalar inside brackets. -/
def isFlowMark (c : Char) : Bool :=
  c == ',' || c == '?' || c == '[' || c == ']' || c == '{' || c == '}'

/-- The marks that, after a colon, end a plain scalar inside brackets. -/
def isFlowBracket (c : Char) : Bool :=
  c == ',' || c == '[' || c == ']' || c == '{' || c == '}'

/-- The number of characters of a plain scalar up to a blank or a mark that ends it. -/
def plainRun (flow : Bool) : List Char → Nat
  | [] => 0
  | c :: s =>
    if atBlank (c :: s) || (c == ':' && (atBlank s || (flow && s.head?.any isFlowBracket)))
        || (flow && isFlowMark c) then 0
    else plainRun flow s + 1

/-- The blanks and breaks at the start of a text: the breaks, unless a mark that separates documents
follows one of them, and the place after them. -/
def plainBreaks (fuel : Nat) (p : Place) : Option (List Char) × Place :=
  match fuel with
  | 0 => (none, p)
  | fuel + 1 =>
    match p.rest with
    | [] => (some [], p)
    | c :: s =>
      if c == ' ' then plainBreaks fuel p.next
      else if isBreak c then
        let (b, r) := cutBreak (c :: s)
        let q := p.upTo r
        if atSeparator r then (none, q)
        else
          let (more, q) := plainBreaks fuel q
          (more.map (b ++ ·), q)
      else (some [], p)

/-- What follows a part of a plain scalar. -/
structure PlainGap where
  /-- What stands for the blanks if the scalar goes on; without it the scalar has ended. -/
  text : Option (List Char)
  /-- The place after the blanks. -/
  place : Place
  /-- Whether a line broke. -/
  broke : Bool

/-- Passes the blanks after a part of a plain scalar. -/
def plainGap (p : Place) : PlainGap :=
  let blanks := p.rest.takeWhile (· == ' ')
  let q := p.skip blanks.length
  let kept := if blanks.isEmpty then none else some blanks
  match q.rest with
  | [] => ⟨kept, q, false⟩
  | c :: s =>
    if isBreak c then
      let (b, r) := cutBreak (c :: s)
      let q := q.upTo r
      if atSeparator r then ⟨none, q, true⟩
      else
        let (more, q) := plainBreaks (r.length + 1) q
        ⟨more.map (foldBreak b), q, true⟩
    else ⟨kept, q, false⟩

/-- Reads a plain scalar after `gap`, which stands before its next part. Outside brackets its lines
must not go back before `indent`. The result also says whether a line broke behind the scalar. -/
def readPlain (flow : Bool) (indent : Int) (fuel : Nat) (gap : List Char) (broke : Bool)
    (p : Place) : List Char × Place × Bool :=
  match fuel with
  | 0 => ([], p, broke)
  | fuel + 1 =>
    let n := plainRun flow p.rest
    if p.rest.head? == some '#' || n == 0 then ([], p, broke)
    else
      let part := gap ++ p.rest.take n
      let g := plainGap (p.skip n)
      match g.text with
      | none => (part, g.place, g.broke)
      | some text =>
        if g.place.rest.head? == some '#' || (!flow && (g.place.column : Int) < indent) then
          (part, g.place, g.broke)
        else
          let (more, q, broke) := readPlain flow indent fuel text g.broke g.place
          (part ++ more, q, broke)

/-! ### Block scalars -/

/-- What happens to the line breaks at the end of a block scalar. -/
inductive Chomping where
  | clip
  | keep
  | strip
  deriving DecidableEq

/-- Reads the signs behind the mark of a block scalar: chomping and indentation in either order. -/
def blockSigns (s : List Char) : Option (Chomping × Option Nat × List Char) :=
  let chomp (c : Char) : Option Chomping :=
    if c == '+' then some .keep else if c == '-' then some .strip else none
  let digit (c : Char) : Option Nat :=
    if Text.isAsciiDigit c then some (c.toNat - 48) else none
  let result := match s with
    | [] => (Chomping.clip, none, [])
    | a :: r =>
      match chomp a, digit a with
      | some ch, _ =>
        match r.head?.bind digit with
        | some n => (ch, some n, r.drop 1)
        | none => (ch, none, r)
      | none, some n =>
        match r.head?.bind chomp with
        | some ch => (ch, some n, r.drop 1)
        | none => (.clip, some n, r)
      | none, none => (.clip, none, s)
  if result.2.1 == some 0 || !atSpace result.2.2 then none else some result

/-- The rest of a line on which only a comment may stand, up to and with its break. -/
def ignoredLine (s : List Char) : Option (List Char) :=
  let r := s.dropWhile (· == ' ')
  let r := if r.head? == some '#' then r.dropWhile (!isBreak ·) else r
  if atBreak r then some (cutBreak r).2 else none

/-- The empty lines before a block scalar: the breaks, and the deepest column of their blanks. -/
def blockLead (fuel : Nat) (deepest : Nat) (p : Place) : List Char × Nat × Place :=
  match fuel with
  | 0 => ([], deepest, p)
  | fuel + 1 =>
    match p.rest with
    | [] => ([], deepest, p)
    | c :: s =>
      if c == ' ' then
        let q := p.next
        blockLead fuel (max deepest q.column) q
      else if isBreak c then
        let (b, r) := cutBreak (c :: s)
        let (more, deepest, q) := blockLead fuel deepest (p.upTo r)
        (b ++ more, deepest, q)
      else ([], deepest, p)

/-- Passes spaces up to a column. -/
def skipIndent (indent : Nat) (p : Place) : Place :=
  p.skip (min (p.rest.takeWhile (· == ' ')).length (indent - p.column))

/-- The empty lines inside a block scalar: the breaks, and the place of the next line. -/
def blockBreaks (indent : Nat) (fuel : Nat) (p : Place) : List Char × Place :=
  match fuel with
  | 0 => ([], p)
  | fuel + 1 =>
    let q := skipIndent indent p
    match q.rest with
    | [] => ([], q)
    | c :: s =>
      if isBreak c then
        let (b, r) := cutBreak (c :: s)
        let (more, q) := blockBreaks indent fuel (q.upTo r)
        (b ++ more, q)
      else ([], q)

/-- Whether a space or tab stands here. -/
def startsIndented : List Char → Bool
  | [] => false
  | c :: _ => Text.isSpaceOrTab c

/-- The lines of a block scalar. `breaks` are the empty lines before the next line. The result holds
the text, the break of the last line, the empty lines after it and the place behind them. -/
def blockLines (folded : Bool) (indent : Nat) (fuel : Nat) (breaks : List Char) (p : Place) :
    List Char × List Char × List Char × Place :=
  match fuel with
  | 0 => ([], [], breaks, p)
  | fuel + 1 =>
    if p.column != indent || p.rest.isEmpty then ([], [], breaks, p)
    else
      let content := p.rest.takeWhile (!isBreak ·)
      let q := p.skip content.length
      let (b, r) := cutBreak q.rest
      let q := q.upTo r
      let (more, q) := blockBreaks indent (r.length + 1) q
      if q.column == indent && !q.rest.isEmpty then
        let join :=
          if folded && b == ['\n'] && !startsIndented p.rest && !startsIndented q.rest then
            if more.isEmpty then [' '] else []
          else b
        let (text, last, tail, place) := blockLines folded indent fuel more q
        (breaks ++ content ++ join ++ text, last, tail, place)
      else (breaks ++ content, b, more, q)

/-- Reads a block scalar after its mark, in a block at `indent`. -/
def readBlockScalar (folded : Bool) (indent : Int) (p : Place) : Option (List Char × Place) := do
  let (chomping, increment, r) ← blockSigns p.rest
  let r ← ignoredLine r
  let p := p.upTo r
  let least := (max (indent + 1) 1).toNat
  let fuel := r.length + 1
  let (column, breaks, p) := match increment with
    | none =>
      let (breaks, deepest, p) := blockLead fuel 0 p
      (max least deepest, breaks, p)
    | some n =>
      let column := least + n - 1
      let (breaks, p) := blockBreaks column fuel p
      (column, breaks, p)
  let (text, last, tail, p) := blockLines folded column fuel breaks p
  let text := if chomping == .strip then text else text ++ last
  return (if chomping == .keep then text ++ tail else text, p)

/-! ### Directives, names and tags -/

/-- Reads a decimal number. -/
def readNumber (s : List Char) : Option (Nat × List Char) :=
  let digits := s.takeWhile Text.isAsciiDigit
  if digits.isEmpty then none
  else some (Text.asciiNumber digits, s.dropWhile Text.isAsciiDigit)

/-- Characters of the address of a tag, other than escapes. -/
def isTagChar (c : Char) : Bool :=
  isNameChar c || ";/?:@&=+$,.!~*'()[]".toList.contains c

/-- Reads the bytes of escapes, each a percent sign and two digits. -/
def readTagBytes : List Char → Option (List UInt8 × List Char)
  | '%' :: a :: b :: s => do
    let n ← Text.hexNumber? [a, b]
    let (more, rest) ← readTagBytes s
    return (n.toUInt8 :: more, rest)
  | '%' :: _ => none
  | s => some ([], s)

/-- Reads the characters of the address of a tag. Escapes in a row are the bytes of some text. -/
def readTagChars (fuel : Nat) (s : List Char) : Option (List Char × List Char) :=
  match fuel with
  | 0 => none
  | fuel + 1 =>
    match s with
    | [] => some ([], [])
    | c :: r =>
      if c == '%' then do
        let (bytes, rest) ← readTagBytes s
        let text ← (Utf8.decode bytes).toOption
        let (more, rest) ← readTagChars fuel rest
        return (text ++ more, rest)
      else if isTagChar c then (readTagChars fuel r).map fun (more, rest) => (c :: more, rest)
      else some ([], s)

/-- Reads the address of a tag. -/
def readTagAddress (s : List Char) : Option (String × List Char) :=
  match readTagChars (s.length + 1) s with
  | none => none
  | some (part, rest) =>
    if rest.length == s.length then none else some (String.ofList part, rest)

/-- Reads the handle of a tag: an exclamation mark, or a name between two of them. -/
def readTagHandle (s : List Char) : Option (String × List Char) :=
  match s with
  | '!' :: r =>
    let name := r.takeWhile isNameChar
    match r.dropWhile isNameChar with
    | '!' :: rest => some ("!" ++ String.ofList name ++ "!", rest)
    | rest => if name.isEmpty then some ("!", rest) else none
  | _ => none

/-- Reads a directive after its mark; the rest is that of its line. -/
def readDirective (s : List Char) : Option (Token × List Char) := do
  let name := s.takeWhile isNameChar
  let r := s.dropWhile isNameChar
  if name.isEmpty || !atSpace r then none
  else if name == "YAML".toList then
    let (major, r) ← readNumber (r.dropWhile (· == ' '))
    match r with
    | '.' :: r =>
      let (_, r) ← readNumber r
      if atSpace r then return (.yamlDirective major, ← ignoredLine r) else none
    | _ => none
  else if name == "TAG".toList then
    let (handle, r) ← readTagHandle (r.dropWhile (· == ' '))
    if r.head? == some ' ' then
      let (start, r) ← readTagAddress (r.dropWhile (· == ' '))
      if atSpace r then return (.tagDirective handle start, ← ignoredLine r) else none
    else none
  else return (.otherDirective, ← ignoredLine (r.dropWhile (!isBreak ·)))

/-- Reads the name of an anchor or of a reference to one. -/
def readAnchor (s : List Char) : Option (String × List Char) :=
  let name := s.takeWhile isNameChar
  let rest := s.dropWhile isNameChar
  if name.isEmpty then none
  else if atBlank rest || rest.head?.any (fun c => "?:,]\x7d%@`".toList.contains c) then
    some (String.ofList name, rest)
  else none

/-- Reads a tag with a handle from its first exclamation mark on. -/
def readHandledTag (s : List Char) : Option (Token × List Char) := do
  let (handle, rest) ← readTagHandle s
  let (address, rest) ← readTagAddress rest
  return (.tag (some handle) address, rest)

/-- Reads a tag from its exclamation mark on, whatever follows it. -/
def readTagAlone (s : List Char) : Option (Token × List Char) :=
  match s with
  | '!' :: '<' :: r =>
    match readTagAddress r with
    | some (address, '>' :: rest) => some (.tag none address, rest)
    | _ => none
  | '!' :: r =>
    if atBlank r then some (.tag none "!", r)
    else if (r.takeWhile fun c => !(c == ' ' || isBreak c)).contains '!' then
      readHandledTag ('!' :: r)
    else (readTagAddress r).map fun (address, rest) => (.tag (some "!") address, rest)
  | _ => none

/-- Reads a tag from its exclamation mark on. A space or the end of the line follows it. -/
def readTag (s : List Char) : Option (Token × List Char) :=
  (readTagAlone s).filter fun (_, rest) => atSpace rest

/-! ### The whole stream -/

/-- A token that may turn out to start a key. -/
structure KeySlot where
  /-- The number of tokens before it. -/
  number : Nat
  /-- Whether nothing else can stand there. -/
  required : Bool
  index : Nat
  line : Nat
  column : Nat

/-- The state between two tokens. -/
structure Scanner where
  place : Place
  tokens : Array Token := #[]
  /-- Whether a key may start here. -/
  allowKey : Bool := true
  /-- The possible keys, the innermost bracket first and the block around all of them last. -/
  slots : List (Option KeySlot) := [none]
  /-- The column of the innermost block. -/
  indent : Int := -1
  /-- The columns of the blocks around it. -/
  indents : List Int := []

namespace Scanner

/-- Whether the place is inside brackets. -/
def inFlow (s : Scanner) : Bool :=
  s.slots.length > 1

/-- Add a token. -/
def push (s : Scanner) (t : Token) : Scanner :=
  { s with tokens := s.tokens.push t }

/-- Add a token that takes up some characters. -/
def take (s : Scanner) (t : Token) (count : Nat) : Scanner :=
  { s with tokens := s.tokens.push t, place := s.place.skip count }

/-- Allow keys, or not. -/
def allow (s : Scanner) (allowed : Bool) : Scanner :=
  { s with allowKey := allowed }

/-- End the blocks that stand further right than a column. -/
def unwind (column : Int) (s : Scanner) : Scanner :=
  if s.inFlow then s
  else
    let ended := (s.indent :: s.indents).takeWhile (· > column)
    match (s.indent :: s.indents).dropWhile (· > column) with
    | [] => s
    | i :: is =>
      { s with
        indent := i
        indents := is
        tokens := s.tokens ++ Array.replicate ended.length Token.blockEnd }

/-- Open a block at a column, if it stands further right than the one around it. -/
def openBlock (column : Int) (t : Token) (s : Scanner) : Scanner :=
  if s.indent < column then
    { s with
      indent := column
      indents := s.indent :: s.indents
      tokens := s.tokens.push t }
  else s

/-- Give up the possible key of the innermost bracket. -/
def dropSlot (s : Scanner) : Option Scanner :=
  match s.slots with
  | some k :: rest => if k.required then none else some { s with slots := none :: rest }
  | _ => some s

/-- Give up the possible keys that cannot be keys any more: those of other lines, and those that
started more than 1024 characters ago. -/
def dropStale (s : Scanner) : Option Scanner := do
  let slots ← s.slots.mapM fun slot =>
    match slot with
    | none => some none
    | some k =>
      if k.line != s.place.line || s.place.index - k.index > 1024 then
        if k.required then none else some none
      else some (some k)
  return { s with slots := slots }

/-- Note that the next token may start a key. -/
def noteKey (s : Scanner) : Option Scanner :=
  if s.allowKey then do
    let s ← s.dropSlot
    let p := s.place
    let required := !s.inFlow && s.indent == p.column
    let slot := some ⟨s.tokens.size, required, p.index, p.line, p.column⟩
    return { s with slots := slot :: s.slots.drop 1 }
  else some s

/-- Pass blanks, comments and line breaks. A line break outside brackets allows keys. -/
def toNextToken (fuel : Nat) (s : Scanner) : Scanner :=
  match fuel with
  | 0 => s
  | fuel + 1 =>
    let r := s.place.rest.dropWhile (· == ' ')
    let r := if r.head? == some '#' then r.dropWhile (!isBreak ·) else r
    let p := s.place.upTo r
    match r with
    | [] => { s with place := p }
    | c :: _ =>
      if isBreak c then
        toNextToken fuel
          { s with place := p.upTo (cutBreak r).2, allowKey := s.allowKey || !s.inFlow }
      else { s with place := p }

/-- A mark that stands at the start of a line for a document. -/
def documentMark (t : Token) (s : Scanner) : Option Scanner := do
  let s ← (s.unwind (-1)).dropSlot
  return (s.allow false).take t 3

/-- An entry of a block sequence. -/
def entry (s : Scanner) : Option Scanner := do
  let s ← if s.inFlow then some s
    else if s.allowKey then some (s.openBlock s.place.column .blockSequenceStart)
    else none
  let s ← (s.allow true).dropSlot
  return s.take .blockEntry 1

/-- The mark of a key. -/
def explicitKey (s : Scanner) : Option Scanner := do
  let s ← if s.inFlow then some s
    else if s.allowKey then some (s.openBlock s.place.column .blockMappingStart)
    else none
  let s ← (s.allow (!s.inFlow)).dropSlot
  return s.take .key 1

/-- The mark of a value. The possible key before it becomes a key. -/
def valueMark (s : Scanner) : Option Scanner :=
  match s.slots with
  | some k :: rest =>
    let tokens := s.tokens.insertIdxIfInBounds k.number .key
    let keyed := { s with slots := none :: rest, tokens := tokens }
    let opened :=
      if !s.inFlow && s.indent < k.column then
        { keyed with
          indent := k.column
          indents := s.indent :: s.indents
          tokens := keyed.tokens.insertIdxIfInBounds k.number .blockMappingStart }
      else keyed
    some ((opened.allow false).take .value 1)
  | _ => do
    let s ← if s.inFlow then some s
      else if s.allowKey then some (s.openBlock s.place.column .blockMappingStart)
      else none
    let s ← (s.allow (!s.inFlow)).dropSlot
    return s.take .value 1

/-- An opening bracket. -/
def openBracket (t : Token) (s : Scanner) : Option Scanner := do
  let s ← s.noteKey
  return { (s.allow true).take t 1 with slots := none :: s.slots }

/-- A closing bracket, which needs an open one. -/
def closeBracket (t : Token) (s : Scanner) : Option Scanner := do
  let s ← s.dropSlot
  if s.inFlow then return { (s.allow false).take t 1 with slots := s.slots.drop 1 } else none

/-- A token whose text has been read up to `rest`, and which may be a key. -/
def keyable (s : Scanner) (t : Token) (rest : List Char) : Option Scanner := do
  let s ← s.noteKey
  return { (s.allow false).push t with place := s.place.upTo rest }

/-- A plain scalar. -/
def plain (s : Scanner) : Option Scanner := do
  let s ← s.noteKey
  let (text, p, broke) :=
    readPlain s.inFlow (s.indent + 1) (s.place.rest.length + 1) [] false s.place
  return { s.push (.scalar text true) with place := p, allowKey := broke }

/-- A block scalar. -/
def blockScalar (folded : Bool) (s : Scanner) : Option Scanner := do
  let s ← s.dropSlot
  let (text, p) ← readBlockScalar folded s.indent s.place.next
  return { s.push (.scalar text false) with place := p, allowKey := true }

/-- Whether a plain scalar may start with a character before `s`. -/
def startsPlain (flow : Bool) (c : Char) (s : List Char) : Bool :=
  !("-?:,[]\x7b\x7d#&*!|>'\"%@`".toList.contains c || Text.isSpaceOrTab c)
    || (!atBlank s && (c == '-' || (!flow && (c == '?' || c == ':'))))

/-- End the tokens with what cannot be read. As long as a token may turn out to start a key, it is
not known before what follows it. -/
def stop (s : Scanner) (failure : Failure) : List Token :=
  let waiting := s.slots.filterMap fun slot => slot.map KeySlot.number
  s.tokens.toList.take (waiting.foldl min s.tokens.size) ++ [.fault failure]

/-- Reads a text in double quotes, after the first of them. -/
def doubleQuoted (s : Scanner) (r : List Char) : Except (List Token) Scanner :=
  match s.noteKey with
  | none => .error (s.stop .badYaml)
  | some s =>
    match readDouble (r.length + 1) r with
    | .error failure => .error (s.stop failure)
    | .ok (content, rest) =>
      .ok { (s.allow false).push (.scalar content false) with place := s.place.upTo rest }

/-- Reads a token other than a text in double quotes from the character `c` on, which `r`
follows. -/
def otherToken (s : Scanner) (c : Char) (r : List Char) : Option Scanner :=
  let atStart := s.place.column == 0
  let text := c :: r
  if c == '%' && atStart then do
    let s ← (s.unwind (-1)).dropSlot
    let (t, rest) ← readDirective r
    return { (s.allow false).push t with place := s.place.upTo rest }
  else if c == '-' && atStart && atSeparator text then s.documentMark .documentStart
  else if c == '.' && atStart && atSeparator text then s.documentMark .documentEnd
  else if c == '[' then s.openBracket .flowSequenceStart
  else if c == '{' then s.openBracket .flowMappingStart
  else if c == ']' then s.closeBracket .flowSequenceEnd
  else if c == '}' then s.closeBracket .flowMappingEnd
  else if c == ',' then do
    let s ← s.dropSlot
    return (s.allow true).take .flowEntry 1
  else if c == '-' && atBlank r then s.entry
  else if c == '?' && (s.inFlow || atBlank r) then s.explicitKey
  else if c == ':' && (s.inFlow || atBlank r) then s.valueMark
  else if c == '*' then do
    let (name, rest) ← readAnchor r
    s.keyable (.reference name) rest
  else if c == '&' then do
    let (name, rest) ← readAnchor r
    s.keyable (.anchor name) rest
  else if c == '!' then do
    let (t, rest) ← readTag text
    s.keyable t rest
  else if c == '|' && !s.inFlow then s.blockScalar false
  else if c == '>' && !s.inFlow then s.blockScalar true
  else if c == '\'' then do
    let (content, rest) ← readSingle (r.length + 1) r
    s.keyable (.scalar content false) rest
  else if startsPlain s.inFlow c r then s.plain
  else none

/-- Reads the next token from the character `c` on, which `r` follows. Without one the tokens end. -/
def readToken (s : Scanner) (c : Char) (r : List Char) : Except (List Token) Scanner :=
  if c == '"' then s.doubleQuoted r
  else
    match s.otherToken c r with
    | some s => .ok s
    | none => .error (s.stop .badYaml)

/-- Passes what stands before the next token, and ends the blocks that end there. -/
def approach (s : Scanner) : Option Scanner :=
  ((s.toNextToken (s.place.rest.length + 1)).dropStale).map fun s => s.unwind s.place.column

/-- Ends the stream. -/
def close (s : Scanner) : List Token :=
  match (s.unwind (-1)).dropSlot with
  | some s => s.tokens.toList ++ [.streamEnd]
  | none => s.stop .badYaml

/-- Reads tokens to the end of the stream. Each token takes up some text, so the length of the text
suffices as fuel. -/
def run (fuel : Nat) (s : Scanner) : List Token :=
  match fuel with
  | 0 => s.stop .badYaml
  | fuel + 1 =>
    match s.approach with
    | none => s.stop .badYaml
    | some s =>
      match s.place.rest with
      | [] => s.close
      | c :: r =>
        match s.readToken c r with
        | .error tokens => tokens
        | .ok s => run fuel s

end Scanner

/-- The tokens of a text. A byte order mark at its start is passed over. -/
def Token.scan (text : List Char) : List Token :=
  if text.all isAllowed then
    let start : Place := ⟨text, 0, 0, 0⟩
    let start := if text.head?.any (·.toNat == 0xFEFF) then start.next else start
    Scanner.run (text.length + 2) { place := start }
  else [.fault .badYaml]

end Stylebook.Yaml
