import Stylebook.Text.Digits
import Stylebook.Text.Lines
import Stylebook.Text.Order
import Stylebook.Text.Quoted

/-!
# Parse errors

Why the reading of a text stopped, and where. A reader reports a `Fault`: the cause and the part of
the text that was left when it arose. Against the whole text a fault becomes a `ParseError` with an
offset and a line.
-/

namespace Stylebook

/-- The sorts of parse errors. -/
inductive ParseError.Kind where
  | unexpectedToken
  | unterminatedToken
  | unknownTag
  | invalidRequirement
  deriving DecidableEq, Repr

/-- The name of a sort of parse errors in messages and reports. -/
def ParseError.Kind.name : ParseError.Kind → String
  | .unexpectedToken => "UnexpectedToken"
  | .unterminatedToken => "UnterminatedToken"
  | .unknownTag => "UnknownAnnotation"
  | .invalidRequirement => "InvalidRequiresKind"

/-- All sorts of parse errors. -/
def ParseError.Kind.all : List ParseError.Kind :=
  [.unexpectedToken, .unterminatedToken, .unknownTag, .invalidRequirement]

/-- The sort of parse errors of a given name. -/
def ParseError.Kind.ofName? (name : String) : Option ParseError.Kind :=
  ParseError.Kind.all.find? (·.name == name)

/-- A parse error with its place: the offset counts characters from zero, the line from one. -/
structure ParseError where
  kind : ParseError.Kind
  text : String
  offset : Int
  line : Nat
  deriving DecidableEq, Repr

/-- The error in one line. -/
def ParseError.message (e : ParseError) : String :=
  e.kind.name ++ ": " ++ e.text ++ " (line " ++ Text.natText e.line
    ++ ", offset " ++ Text.intText e.offset ++ ")"

/-- What stops the reading of a text. -/
inductive Fault.Cause where
  /-- The text ended before any of the stop characters. -/
  | unterminated (stops : List String)
  /-- Another character, or the end, stood where `wanted` had to be. -/
  | unexpected (wanted : String) (found : Option Char)
  /-- A slash that opens no comment. -/
  | straySlash (next : Option Char)
  /-- A tag with an unknown keyword. -/
  | unknownTag (keyword : List Char)
  /-- A requirement declared for something that cannot be required. -/
  | invalidRequirement (declared : List Char)
  deriving DecidableEq, Repr

/-- The sort of error that a cause gives. -/
def Fault.Cause.kind : Fault.Cause → ParseError.Kind
  | .unterminated _ => .unterminatedToken
  | .unexpected _ _ => .unexpectedToken
  | .straySlash _ => .unexpectedToken
  | .unknownTag _ => .unknownTag
  | .invalidRequirement _ => .invalidRequirement

/-- The wording of a cause. -/
def Fault.Cause.text : Fault.Cause → String
  | .unterminated stops =>
    "expected one of " ++ Text.quotedList (Text.sorted stops) ++ " before end of input"
  | .unexpected wanted (some c) =>
    "expected " ++ Text.quoted wanted ++ ", found " ++ Text.quoted (String.singleton c)
  | .unexpected wanted none =>
    "expected " ++ Text.quoted wanted ++ ", found end of input"
  | .straySlash next =>
    "unexpected characters " ++ String.ofList (Text.quotedChars ('/' :: next.toList))
  | .unknownTag keyword => "unknown annotation @" ++ String.ofList keyword
  | .invalidRequirement declared =>
    String.ofList (Text.quotedChars declared)
      ++ " is not a valid kind of @requires, use `function`, `mixin` or `var`"

/-- A cause together with the text that was left when it arose. -/
structure Fault where
  cause : Fault.Cause
  rest : List Char
  deriving DecidableEq, Repr

/-- The error of a fault in `text`: what was left of the text gives the offset, the line breaks
before it give the line. -/
def ParseError.ofFault (text : List Char) (f : Fault) : ParseError :=
  let offset := text.length - f.rest.length
  { kind := f.cause.kind
    text := f.cause.text
    offset := offset
    line := Text.breaks (text.take offset) + 1 }

end Stylebook
