import Stylebook.Disk
import Stylebook.Source
import Stylebook.Value

/-!
# Corpora

Reading many files, each on its own: a file that fails gives no items and stops no other. Files may
be completed in any order; items come in the order of the paths, and outcomes in the order of the
paths' texts.
-/

namespace Stylebook

/-- Why a file gives no items. -/
inductive SourceFault where
  | file (error : FileError)
  | encoding (fault : Utf8.Fault)
  | parse (error : ParseError)

namespace SourceFault

/-- The name of the sort of fault. -/
def kind : SourceFault → String
  | .file e => e.cause.name
  | .encoding _ => "UnicodeDecodeError"
  | .parse e => e.kind.name

/-- What the fault is. -/
def text : SourceFault → String
  | .file e => e.message
  | .encoding f => f.message
  | .parse e => e.text

/-- The line of the fault, if it has one. -/
def line : SourceFault → Option Nat
  | .parse e => some e.line
  | _ => none

/-- What the log tells about a fault in a file. -/
def logged (path : Path) : SourceFault → String
  | .parse e => "Failed to parse " ++ path.text ++ ": " ++ e.message
  | f => "Failed to read " ++ path.text ++ ": " ++ f.text

end SourceFault

/-- What became of a file. -/
structure Outcome where
  path : String
  items : Int
  error : Option String := none
  errorKind : Option String := none
  line : Option Int := none
  deriving DecidableEq, Repr

namespace Outcome

/-- Whether the file could be read and parsed. -/
def isOk (o : Outcome) : Bool :=
  o.error.isNone

/-- An outcome as a map. -/
def record (o : Outcome) : Value :=
  .map [("path", .text o.path), ("items", .int o.items), ("error", .ofOption .text o.error),
    ("error_kind", .ofOption .text o.errorKind), ("line", .ofOption .int o.line)]

end Outcome

/-- A file that has been dealt with. -/
structure Completion where
  path : Path
  result : Except SourceFault (List Item)
  log : List Log.Entry

namespace Completion

/-- Deal with a file, given what reading it gives. -/
def ofContent (path : Path) (content : Except FileError (List UInt8)) : Completion :=
  match content with
  | .error e => failed path [] (.file e)
  | .ok bytes =>
    match Utf8.decode bytes with
    | .error f => failed path [] (.encoding f)
    | .ok text =>
      let reading := Reading.ofSource (Text.unifyBreaks text)
      match reading.result with
      | .error e => failed path reading.log (.parse e)
      | .ok items =>
        { path := path
          result := .ok items
          log := reading.log ++ [⟨.info, .parsing,
            "Parsed " ++ path.text ++ " (" ++ Text.natText items.length ++ " items)"⟩] }
where
  /-- A file that failed, with what was logged before. -/
  failed (path : Path) (log : List Log.Entry) (fault : SourceFault) : Completion :=
    { path := path
      result := .error fault
      log := log ++ [⟨.error, .parsing, fault.logged path⟩] }

/-- What became of the file. -/
def outcome (c : Completion) : Outcome :=
  match c.result with
  | .ok items => { path := c.path.text, items := items.length }
  | .error fault =>
    { path := c.path.text
      items := 0
      error := some fault.text
      errorKind := some fault.kind
      line := fault.line.map Int.ofNat }

end Completion

/-- The items of many files, and what became of each. -/
structure Corpus where
  items : List Item
  outcomes : List Outcome
  log : List Log.Entry

namespace Corpus

/-- The paths that gave items, each once, with their items. -/
def contributions : List Completion → List (Path × List Item)
  | [] => []
  | c :: cs =>
    match c.result with
    | .error _ => contributions cs
    | .ok items => (c.path, items) :: (contributions cs).filter fun p => p.1 ≠ c.path

/-- The corpus of completed files. -/
def ofCompletions (cs : List Completion) : Corpus :=
  { items := ((contributions cs).mergeSort fun p q => p.1.notAfter q.1).flatMap (·.2)
    outcomes := Text.sortedBy Outcome.path (cs.map Completion.outcome)
    log := cs.flatMap Completion.log }

/-- The corpus of some paths. A path with a null character is not one of a file that fails: it stops
all. -/
def ofPaths (disk : Disk) (paths : List Path) : Except Failure Corpus :=
  match paths.find? Path.hasNull with
  | some p => .error (.file ⟨.nullCharacter, p.text⟩)
  | none => .ok (ofCompletions (paths.map fun p => .ofContent p (disk.fileBytes p)))

end Corpus

end Stylebook
