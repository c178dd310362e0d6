import Stylebook.Assoc
import Stylebook.Number.Integer
import Stylebook.Text.Lines

/-!
# Command lines

Reading the arguments of a command by a grammar of options and operands, which may be mixed. A long
option may be shortened as long as no other starts the same way, and its value follows it or an
equals sign. One-letter options are flags and may be joined. After two hyphens on their own all
arguments are operands; a hyphen on its own, negative numbers and arguments with spaces always are.
-/

namespace Stylebook.CommandLine

/-! ### Grammars -/

/-- What an option takes. -/
inductive Kind where
  /-- Nothing. -/
  | flag
  /-- Nothing; it asks for help and ends the reading. -/
  | help
  /-- Any text. -/
  | text
  /-- A whole number. -/
  | integer
  /-- One of some texts. -/
  | choice (allowed : List String)
  deriving DecidableEq, Repr

/-- Whether an option takes a value. -/
def Kind.takesValue : Kind → Bool
  | .flag | .help => false
  | .text | .integer | .choice _ => true

/-- An option. -/
structure Opt where
  /-- The forms of the option, hyphens included; the last is what it is kept under. -/
  names : List String
  kind : Kind
  /-- Options of one group exclude each other. -/
  group : Option String := none
  deriving DecidableEq, Repr

/-- What an option is called in messages. -/
def Opt.label (o : Opt) : String :=
  String.intercalate "/" o.names

/-- What an option is kept under. -/
def Opt.key (o : Opt) : String :=
  o.names.getLastD ""

/-- An operand. -/
structure Operand where
  name : String
  required : Bool := true
  deriving DecidableEq, Repr

/-- The options and operands of a command. -/
structure Grammar where
  options : List Opt
  operands : List Operand

/-- All forms of all options. -/
def Grammar.forms (g : Grammar) : List (List Char × Opt) :=
  g.options.flatMap fun o => o.names.map fun name => (name.toList, o)

/-- The option of a given form. -/
def Grammar.find? (g : Grammar) (form : List Char) : Option Opt :=
  g.forms.lookup form

/-- The other options of a group, in order. -/
def Grammar.rivals (g : Grammar) (o : Opt) : List Opt :=
  g.options.filter fun r => r.group.isSome && r.group == o.group && r != o

/-! ### Errors -/

/-- Why arguments cannot be read. -/
inductive UsageError where
  | ambiguous (argument : String) (forms : List String)
  | noValue (label : String)
  | badInteger (label text : String)
  | badChoice (label text : String) (allowed : List String)
  | ignoredValue (label text : String)
  | excluded (label other : String)
  | missing (names : List String)
  | unrecognized (arguments : List String)
  deriving DecidableEq, Repr

/-- The wording of an error. -/
def UsageError.message : UsageError → String
  | .ambiguous argument forms =>
    "ambiguous option: " ++ argument ++ " could match " ++ String.intercalate ", " forms
  | .noValue label => "argument " ++ label ++ ": expected one argument"
  | .badInteger label text =>
    "argument " ++ label ++ ": invalid int value: " ++ Text.quoted text
  | .badChoice label text allowed =>
    "argument " ++ label ++ ": invalid choice: " ++ Text.quoted text ++ " (choose from "
      ++ String.intercalate ", " (allowed.map Text.quoted) ++ ")"
  | .ignoredValue label text =>
    "argument " ++ label ++ ": ignored explicit argument " ++ Text.quoted text
  | .excluded label other => "argument " ++ label ++ ": not allowed with argument " ++ other
  | .missing names =>
    "the following arguments are required: " ++ String.intercalate ", " names
  | .unrecognized arguments => "unrecognized arguments: " ++ String.intercalate " " arguments

/-- Why the reading of arguments ends early. -/
inductive Stop where
  | help
  | usage (error : UsageError)
  deriving DecidableEq, Repr

/-! ### Telling options from operands -/

/-- What an argument is. -/
inductive Argument where
  | value (text : String)
  /-- Two hyphens on their own. -/
  | separator
  /-- A form of an option, with what stands behind it in the same argument. -/
  | option (o : Opt) (form : List Char) (attached : Option (List Char))
  | unknown (text : String)
  deriving DecidableEq, Repr

/-- A text up to its first equals sign, and what stands behind it. -/
def cutValue (s : List Char) : List Char × Option (List Char) :=
  match Text.cutAt? (· == '=') s with
  | none => (s, none)
  | some (form, value) => (form, some value)

/-- The forms that an argument may be short for, with what is attached to them. -/
def candidates (g : Grammar) (s : List Char) :
    List (List Char × Opt × Option (List Char)) :=
  match s with
  | '-' :: '-' :: _ =>
    let (form, attached) := cutValue s
    (g.forms.filter fun f => form.isPrefixOf f.1).map fun f => (f.1, f.2, attached)
  | _ =>
    g.forms.filterMap fun f =>
      if f.1 == s.take 2 then some (f.1, f.2, some (s.drop 2))
      else if s.isPrefixOf f.1 then some (f.1, f.2, none)
      else none

/-- Whether a text is digits, or digits that may be missing, a point and digits. -/
def isPlainNumber (s : List Char) : Bool :=
  let isDigit (c : Char) : Bool := (Text.digitValue? c).isSome
  match s.dropWhile isDigit with
  | [] => !s.isEmpty
  | '.' :: fraction => !fraction.isEmpty && fraction.all isDigit
  | _ => false

/-- Whether a text is a hyphen and a number; a line break at its end does not count. -/
def isNegativeNumber : List Char → Bool
  | '-' :: s => isPlainNumber (Text.dropFinalBreak s)
  | _ => false

/-- What an argument is that stands before any separator. -/
def classify (g : Grammar) (text : String) : Except UsageError Argument :=
  let s := text.toList
  match s with
  | '-' :: _ :: _ =>
    match g.find? s with
    | some o => .ok (.option o s none)
    | none =>
      let (form, attached) := cutValue s
      match attached, g.find? form with
      | some a, some o => .ok (.option o form (some a))
      | _, _ =>
        match candidates g s with
        | [(form, o, attached)] => .ok (.option o form attached)
        | [] =>
          if isNegativeNumber s || s.contains ' ' then .ok (.value text) else .ok (.unknown text)
        | several => .error (.ambiguous text (several.map fun c => String.ofList c.1))
  | _ => .ok (.value text)

/-- What all arguments are. -/
def classifyAll (g : Grammar) : List String → Except UsageError (List Argument)
  | [] => .ok []
  | text :: texts =>
    if text = "--" then .ok (.separator :: texts.map .value)
    else
      match classify g text with
      | .error e => .error e
      | .ok argument => (classifyAll g texts).map (argument :: ·)

/-! ### Taking arguments in -/

/-- What stands right before an argument, as far as it matters to operands. -/
inductive Before where
  /-- A value that has become an operand. -/
  | operand
  /-- A separator that belongs to the next operand. -/
  | separator
  | other
  deriving DecidableEq, Repr

/-- What is given to an option or operand. -/
inductive Given where
  /-- That it is there. -/
  | set
  | text (s : String)
  | integer (i : Int)
  /-- Nothing: its place is taken by two hyphens, which belong to no value. -/
  | nothing
  deriving DecidableEq, Repr

/-- How far the reading of arguments has come. -/
structure State where
  /-- The operands that are still to come. -/
  awaited : List Operand
  /-- What options and operands have been given. -/
  values : Assoc Given := []
  /-- The options that were given. -/
  given : List Opt := []
  /-- Arguments that nothing takes. -/
  extras : List String := []
  before : Before := .other

namespace State

/-- Take in a value that belongs to no option. -/
def takeValue (st : State) (text : String) : State :=
  match st.awaited with
  | [] => { st with extras := st.extras ++ [text], before := .other }
  | operand :: awaited =>
    let value : Given := if text = "--" && st.before != .separator then .nothing else .text text
    { st with awaited := awaited, values := Assoc.put st.values operand.name value,
              before := .operand }

/-- Take in a separator: it belongs to the operand before it, else to the one after it. -/
def takeSeparator (st : State) : State :=
  match st.before, st.awaited with
  | .operand, _ => { st with before := .other }
  | _, _ :: _ => { st with before := .separator }
  | _, [] => { st with extras := st.extras ++ ["--"], before := .other }

/-- Take in an argument that looks like an option and is none. -/
def takeUnknown (st : State) (text : String) : State :=
  { st with extras := st.extras ++ [text], before := .other }

/-- Record the value of an option, unless a rival was given. -/
def record (g : Grammar) (st : State) (o : Opt) (value : Given) : Except Stop State :=
  match (g.rivals o).find? st.given.contains with
  | some rival => .error (.usage (.excluded o.label rival.label))
  | none =>
    .ok { st with values := Assoc.put st.values o.key value, given := o :: st.given,
                  before := .other }

/-- Take in an option without a value. -/
def takeFlag (g : Grammar) (st : State) (o : Opt) : Except Stop State :=
  match o.kind with
  | .help => .error .help
  | _ => st.record g o .set

/-- Take in several options without values. -/
def takeFlags (g : Grammar) (st : State) : List Opt → Except Stop State
  | [] => .ok st
  | o :: os =>
    match st.takeFlag g o with
    | .error e => .error e
    | .ok st => st.takeFlags g os

/-- Take in an option with its value. Two hyphens are no value, of whatever kind the option is. -/
def takeOption (g : Grammar) (st : State) (o : Opt) (text : String) : Except Stop State :=
  if text = "--" then st.record g o .nothing
  else
    match o.kind with
    | .integer =>
      match Integer.read 10 text.toList with
      | .error _ => .error (.usage (.badInteger o.label text))
      | .ok i => st.record g o (.integer i)
    | .choice allowed =>
      if text ∈ allowed then st.record g o (.text text)
      else .error (.usage (.badChoice o.label text allowed))
    | _ => st.record g o (.text text)

end State

/-- The flags that are joined in one argument: `o`, and one for each letter that follows it. -/
def joinedFlags (g : Grammar) (o : Opt) : List Char → Except UsageError (List Opt)
  | [] => .ok [o]
  | c :: s =>
    match g.find? ['-', c] with
    | none => .error (.ignoredValue o.label (String.ofList (c :: s)))
    | some next => (joinedFlags g next s).map (o :: ·)

/-- Take in an option that takes no value, with what is attached to it. -/
def takeJoined (g : Grammar) (st : State) (o : Opt) (form attached : List Char) :
    Except Stop State :=
  if ['-', '-'].isPrefixOf form || attached.isEmpty then
    .error (.usage (.ignoredValue o.label (String.ofList attached)))
  else
    match joinedFlags g o attached with
    | .error e => .error (.usage e)
    | .ok flags => st.takeFlags g flags

/-- Take in all arguments. -/
def takeAll (g : Grammar) (st : State) : List Argument → Except Stop State
  | [] => .ok st
  | .value text :: rest => takeAll g (st.takeValue text) rest
  | .separator :: rest => takeAll g st.takeSeparator rest
  | .unknown text :: rest => takeAll g (st.takeUnknown text) rest
  | .option o form attached :: rest =>
    match o.kind.takesValue, attached with
    | false, none =>
      match st.takeFlag g o with
      | .error e => .error e
      | .ok st => takeAll g st rest
    | false, some a =>
      match takeJoined g st o form a with
      | .error e => .error e
      | .ok st => takeAll g st rest
    | true, some a =>
      match st.takeOption g o (String.ofList a) with
      | .error e => .error e
      | .ok st => takeAll g st rest
    | true, none =>
      match rest with
      | .value text :: rest =>
        match st.takeOption g o text with
        | .error e => .error e
        | .ok st => takeAll g st rest
      | _ => .error (.usage (.noValue o.label))

/-- The values at the end of the arguments, if none is missing and nothing is left. -/
def State.finish (st : State) : Except Stop (Assoc Given) :=
  match (st.awaited.filter Operand.required).map Operand.name with
  | [] =>
    match st.extras with
    | [] => .ok st.values
    | extras => .error (.usage (.unrecognized extras))
  | names => .error (.usage (.missing names))

/-- The values that arguments give to options and operands. -/
def read (g : Grammar) (arguments : List String) : Except Stop (Assoc Given) :=
  match classifyAll g arguments with
  | .error e => .error (.usage e)
  | .ok arguments =>
    match takeAll g { awaited := g.operands } arguments with
    | .error e => .error e
    | .ok st => st.finish

/-! ### Values -/

/-- Whether a flag was given. -/
def isSet (values : Assoc Given) (key : String) : Bool :=
  (Assoc.get? values key).isSome

/-- The text given to an option or operand. -/
def text? (values : Assoc Given) (key : String) : Option String :=
  match Assoc.get? values key with
  | some (.text s) => some s
  | _ => none

end Stylebook.CommandLine
