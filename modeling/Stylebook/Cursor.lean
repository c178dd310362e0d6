import Stylebook.ParseError

/-!
# Cursors

A position in a text with the moves and readings that start there. The position may be any whole
number. Past the end there is nothing to read. Before the start the position counts from the end of
the text, so that a reading runs through the tail of the text and then through the whole text.
-/

namespace Stylebook

/-- A text and a position in it. -/
structure Cursor where
  text : List Char
  pos : Int := 0
  deriving DecidableEq, Repr

namespace Cursor

/-- Why a cursor refuses an operation. -/
inductive Failure where
  /-- There is no such character: the position lies more than the text's length before its start. -/
  | offText
  /-- The text is not as expected. -/
  | parse (error : ParseError)
  deriving DecidableEq, Repr

/-- The characters that end a reading, each as a string; a longer string ends none. -/
abbrev Stops := List String

/-- Whether a character ends a reading. -/
def Stops.has (stops : Stops) (c : Char) : Bool :=
  stops.contains (String.singleton c)

/-- The length of the text. -/
def size (c : Cursor) : Int :=
  c.text.length

/-- The characters from the position to the end, if there is one at the position or the text has
ended. -/
def ahead? (c : Cursor) : Option (List Char) :=
  if 0 ≤ c.pos then some (c.text.drop c.pos.toNat)
  else if -c.size ≤ c.pos then some (c.text.drop (c.size + c.pos).toNat ++ c.text)
  else none

/-- The characters from the position to the end. -/
def ahead (c : Cursor) : Except Failure (List Char) :=
  match c.ahead? with
  | some s => .ok s
  | none => .error .offText

/-- Where a boundary lies in the text: negative ones count from the end, and all are kept inside. -/
def boundary (c : Cursor) (i : Int) : Nat :=
  min (if i < 0 then i + c.size else i).toNat c.text.length

/-- The characters between two boundaries. -/
def slice (c : Cursor) (i j : Int) : List Char :=
  (c.text.take (c.boundary j)).drop (c.boundary i)

/-- Whether the text has ended. -/
def atEnd (c : Cursor) : Bool :=
  c.size ≤ c.pos

/-- The character at the position. -/
def current (c : Cursor) : Except Failure (Option Char) :=
  c.ahead.map List.head?

/-- The character `offset` places further on. -/
def peek (c : Cursor) (offset : Int) : Option Char :=
  let i := c.pos + offset
  if 0 ≤ i then c.text[i.toNat]? else none

/-- The line of the position, counted from one. -/
def line (c : Cursor) : Nat :=
  Text.breaks (c.slice 0 c.pos) + 1

/-- A parse error at the position. -/
def error (c : Cursor) (kind : ParseError.Kind) (text : String) : ParseError :=
  { kind := kind, text := text, offset := c.pos, line := c.line }

/-! ### Operations that move -/

/-- An operation that may move the cursor. It leaves a cursor also if it fails. -/
abbrev Action (α : Type) := EStateM Failure Cursor α

/-- Read at the position without moving. -/
def look {α : Type} (read : Cursor → Except Failure α) : Action α := do
  MonadExcept.ofExcept (read (← get))

/-- Fail for a cause, at the position. -/
def fail {α : Type} (cause : Fault.Cause) : Action α := do
  let c ← get
  throw (.parse (c.error cause.kind cause.text))

/-- Move forward, never past the end. -/
def advance (count : Int) : Action Unit :=
  modify fun c => { c with pos := min (c.pos + count) c.size }

/-- Move backward, never before the start. -/
def retreat (count : Int) : Action Unit :=
  modify fun c => { c with pos := max (c.pos - count) 0 }

/-- Pass `count` characters and give them. -/
def pass (count : Nat) : Action (List Char) :=
  modifyGet fun c => (c.slice c.pos (c.pos + count), { c with pos := c.pos + count })

/-- The text before the next stop character; the cursor stays on that character, or at the end. -/
def readUntil (stops : Stops) : Action (List Char) := do
  let s ← look ahead
  pass (Text.before stops.has s).length

/-- The text before the next stop character; the cursor moves past that character. If there is none,
the cursor has come to the end and is set back. -/
def consumeUntil (stops : Stops) : Action (List Char) := do
  let start ← get
  let value ← readUntil stops
  if (← get).atEnd then
    set start
    fail (.unterminated stops)
  else
    modify fun c => { c with pos := c.pos + 1 }
    return value

/-- The rest of the line; the cursor moves to the next line. -/
def consumeLine : Action (List Char) := do
  let value ← readUntil ["\n"]
  advance 1
  return value

/-- Skip spaces and tabs, and line ends too if `newlines` is set. -/
def skipBlanks (newlines : Bool) : Action Unit := do
  let s ← look ahead
  let _ ← pass (s.takeWhile (if newlines then Text.isWordEnd else Text.isSpaceOrTab)).length

/-- Move past `wanted`, which has to be the character at the position. -/
def expect (wanted : String) : Action Unit := do
  let found ← look current
  if String.ofList found.toList = wanted then advance 1
  else fail (.unexpected wanted found)

end Cursor

end Stylebook
