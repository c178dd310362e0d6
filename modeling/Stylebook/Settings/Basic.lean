import Stylebook.Base64
import Stylebook.Disk
import Stylebook.Setting.Record
import Stylebook.Settings.Merge
import Stylebook.Sha256
import Stylebook.Text.Lines
import Stylebook.Yaml.Document

/-!
# Settings

The settings of a run: built-in ones, over which those of a settings file are laid. A fingerprint
tells runs with different settings apart, as far as the settings bear on what is extracted.
-/

namespace Stylebook.Settings

/-- The built-in settings. -/
def builtIn : Settings :=
  [(.text "extensions", .list [.text ".scss"]),
   (.text "exclude", .list [.text ".git/", .text "node_modules/"]),
   (.text "warnings", .bool true),
   (.text "concurrency", .int 4),
   (.text "output", .map [(.text "format", .text "json"), (.text "indent", .int 2)])]

/-- The built-in settings with those of a settings file, whose bytes are given. An empty document
and other values that switch nothing on count as no settings. -/
def ofFile (bytes : List UInt8) : Except Failure Settings :=
  match Utf8.decode bytes with
  | .error fault => .error (.encoding fault)
  | .ok text =>
    match Yaml.read (Text.unifyBreaks text) with
    | .error e => .error e
    | .ok document => merge builtIn (if document.isTruthy then document else .map [])

/-- The settings for a settings file of a given name. Without a name, and if there is no such file,
they are the built-in ones. -/
def load (disk : Disk) (name : String) : Except Failure Settings :=
  let path := Path.ofText name
  if name.isEmpty then .ok builtIn
  else
    match disk.has path with
    | .error e => .error (.file e)
    | .ok false => .ok builtIn
    | .ok true =>
      match disk.fileBytes path with
      | .error e => .error (.file e)
      | .ok bytes => ofFile bytes

/-- The keys that bear on what is extracted. -/
def fingerprintKeys : List String :=
  ["exclude", "extensions", "warnings"]

/-- The part of the settings that the fingerprint is of; what is missing counts as null. -/
def fingerprinted (s : Settings) : Setting :=
  .map (fingerprintKeys.map fun key => (.text key, (s.get? key).getD .null))

/-- The fingerprint of settings: the digest of their canonical text. -/
def fingerprint (s : Settings) : Except Failure String :=
  s.fingerprinted.canonical.map fun text => Sha256.digest (Utf8.encode text)

/-! ### Reading single settings -/

/-- The elements of a value that is gone through one by one: those of a list or a set, the
characters of a text, the bytes as numbers, the keys of a map. -/
def elements : Setting → Except Failure (List Setting)
  | .list vs => .ok vs
  | .pair k v => .ok [k, v]
  | .set as => .ok (as.map .atom)
  | .map es => .ok (es.map fun e => .atom e.1)
  | .atom (.text s) => .ok (s.toList.map fun c => .text (String.singleton c))
  | .atom (.bytes bs) => .ok (bs.map fun b => .int b.toNat)
  | _ => .error .notList

/-- The text that a value has to be. -/
def textOf : Setting → Except Failure String
  | .atom (.text s) => .ok s
  | .atom (.bytes _) => .error .bytesNotText
  | _ => .error .notText

/-- The texts that a value holds. -/
def texts (v : Setting) : Except Failure (List String) := do
  (← elements v).mapM textOf

/-- The whole number that bytes write as characters of ASCII. -/
def integerOfBytes (bs : List UInt8) : Except Integer.Fault Int :=
  let malformed : Integer.Fault := .malformed 10 (Base64.shown bs)
  if bs.all (· < 128) then
    match Integer.read 10 (bs.map fun b => Char.ofNat b.toNat) with
    | .error (.malformed _ _) => .error malformed
    | result => result
  else .error malformed

/-- The whole number of a value. -/
def integer : Setting → Except Failure Int
  | .atom (.int i) => .ok i
  | .atom (.bool b) => .ok (if b then 1 else 0)
  | .atom (.float x) =>
    if x.isNaN then .error .nanInteger
    else if x.isInfinite then .error .infiniteInteger
    else .ok x.truncate
  | .atom (.text s) => (Integer.read 10 s.toList).mapError .integer
  | .atom (.bytes bs) => (integerOfBytes bs).mapError .integer
  | _ => .error .notNumber

end Stylebook.Settings
