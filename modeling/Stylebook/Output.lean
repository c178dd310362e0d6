import Stylebook.Catalog
import Stylebook.Disk
import Stylebook.Json.Printer
import Stylebook.Setting.Order
import Stylebook.Setting.Shown
import Stylebook.Yaml.Printer

/-!
# Output

Catalogs as files, in JSON or in YAML.
-/

namespace Stylebook.Output

/-- The formats of catalogs. -/
inductive Format where
  | json
  | yaml
  deriving DecidableEq, Repr

/-- The name of a format. -/
def Format.name : Format → String
  | .json => "json"
  | .yaml => "yaml"

/-- All formats. -/
def Format.all : List Format :=
  [.json, .yaml]

/-- The format that a setting names. -/
def Format.ofSetting : Setting → Except Failure Format
  | .atom (.text "json") => .ok .json
  | .atom (.text "yaml") => .ok .yaml
  | v =>
    match v.shown with
    | .error e => .error e
    | .ok shown => .error (.badFormat shown)

/-! ### Indentation -/

/-- How the levels of a catalog are indented. -/
inductive Indent where
  /-- Not at all; JSON is then one line. -/
  | none
  /-- By some spaces; JSON has lines without indentation for a number that is not positive. -/
  | width (n : Int)
  /-- By a text of any sort. -/
  | unit (s : String)
  /-- By something else, which is mostly refused. -/
  | other (v : Setting)

/-- The indentation that a setting asks for. -/
def Indent.ofSetting : Setting → Indent
  | .atom .null => .none
  | .atom (.int n) => .width n
  | .atom (.bool b) => .width (if b then 1 else 0)
  | .atom (.text s) => .unit s
  | v => .other v

/-- The greatest number of spaces that a line can be asked to start with. -/
def maxWidth : Nat :=
  Nat.pow 2 63 - 1

/-- The JSON layout of an indentation. The memory has room for lines that start with `room` spaces,
and not for more. -/
def Indent.layout (room : Nat) : Indent → Except Failure Json.Layout
  | .none => .ok {}
  | .width n =>
    if n > maxWidth || n < -(maxWidth : Int) - 1 then .error .hugeIndent
    else if n > room then .error .noMemory
    else .ok { unit := some (List.replicate n.toNat ' ') }
  | .unit s => .ok { unit := some s.toList }
  | .other _ => .error .badIndent

/-- Whether a floating-point number lies between one and ten. -/
def isFractionalWidth (x : Binary64) : Bool :=
  match Atom.rank? (.float x) with
  | some r => !r.notAfter (.ofInt 1) && !(Atom.Rank.ofInt 10).notAfter r
  | Option.none => false

/-- The unit of indentation in YAML, for a catalog of some items or of none. What is empty counts as
zero. A width that is not whole is refused where a line would have to start with it. -/
def Indent.yamlUnit (isEmpty : Bool) : Indent → Except Failure Nat
  | .none => .ok (Yaml.unitOf 0)
  | .width n => .ok (Yaml.unitOf n)
  | .unit s => if s.isEmpty then .ok (Yaml.unitOf 0) else .error .badIndent
  | .other (.atom (.float x)) =>
    if isFractionalWidth x && !isEmpty then .error .badIndent else .ok (Yaml.unitOf 0)
  | .other v => if v.isTruthy then .error .badIndent else .ok (Yaml.unitOf 0)

/-! ### Writing -/

/-- The text of a catalog. -/
def text (room : Nat) (format : Format) (indent : Indent) (catalog : Catalog) :
    Except Failure String :=
  match format with
  | .json => (indent.layout room).map fun layout => Json.text layout catalog.record ++ "\n"
  | .yaml => (indent.yamlUnit catalog.isEmpty).map fun unit => Yaml.text unit catalog.entries

/-- Write a catalog to a file; missing directories above it are made. The file is there, and empty,
before the text is made. -/
def write (room : Nat) (format : Format) (indent : Indent) (catalog : Catalog) (disk : Disk)
    (target : Path) : Disk × Except Failure Unit :=
  match disk.makeDirectories target.parent with
  | .error e => (disk, .error (.file e))
  | .ok disk =>
    match disk.setFile target [] with
    | .error e => (disk, .error (.file e))
    | .ok empty =>
      match text room format indent catalog with
      | .error e => (empty, .error e)
      | .ok text =>
        match disk.setFile target (Utf8.encode text) with
        | .error e => (disk, .error (.file e))
        | .ok disk => (disk, .ok ())

end Stylebook.Output
