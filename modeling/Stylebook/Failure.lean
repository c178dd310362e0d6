import Stylebook.Moment
import Stylebook.Number.Integer
import Stylebook.Text.Quoted
import Stylebook.Text.Utf8

/-!
# Failures

Why a run ends without a result: a setting that cannot be used, a file that cannot be read or
written, or text that cannot be decoded.
-/

namespace Stylebook

/-- Why a file or directory cannot be used. -/
inductive FileError.Cause where
  | missing
  | alreadyThere
  | notDirectory
  | isDirectory
  /-- A component or the whole path is too long. -/
  | tooLong
  /-- The path has a null character, and the system is not asked at all. -/
  | nullCharacter
  deriving DecidableEq, Repr

/-- The wording of a cause. -/
def FileError.Cause.text : FileError.Cause → String
  | .missing => "No such file or directory"
  | .alreadyThere => "File exists"
  | .notDirectory => "Not a directory"
  | .isDirectory => "Is a directory"
  | .tooLong => "File name too long"
  | .nullCharacter => "embedded null byte"

/-- The number of a cause among the errors of the system. -/
def FileError.Cause.number : FileError.Cause → Nat
  | .missing => 2
  | .alreadyThere => 17
  | .notDirectory => 20
  | .isDirectory => 21
  | .tooLong => 36
  | .nullCharacter => 0

/-- The name of a cause in reports. -/
def FileError.Cause.name : FileError.Cause → String
  | .missing => "FileNotFoundError"
  | .alreadyThere => "FileExistsError"
  | .notDirectory => "NotADirectoryError"
  | .isDirectory => "IsADirectoryError"
  | .tooLong => "OSError"
  | .nullCharacter => "ValueError"

/-- A file or directory that cannot be used. -/
structure FileError where
  cause : FileError.Cause
  path : String
  deriving DecidableEq, Repr

/-- The error in one line. -/
def FileError.message (e : FileError) : String :=
  match e.cause with
  | .nullCharacter => e.cause.text
  | cause => "[Errno " ++ Text.natText cause.number ++ "] " ++ cause.text ++ ": "
    ++ Text.quoted e.path

/-- Why a run ends without a result. -/
inductive Failure where
  /-- A setting that must be text is not. -/
  | notText
  /-- A setting that must be a map is not. -/
  | notMap
  /-- A setting that must be a list is not. -/
  | notList
  /-- A setting that must be a number is not. -/
  | notNumber
  /-- An entry of a list that is kept without repeats has parts of its own. -/
  | notScalar
  /-- Values that are to be put in order have none. -/
  | notOrdered
  /-- A part is asked of a setting that has no parts. -/
  | noParts
  /-- An exclude pattern that is not text. -/
  | patternNotText
  /-- Bytes stand where text must. -/
  | bytesNotText
  /-- A whole number that cannot be read or written. -/
  | integer (fault : Integer.Fault)
  /-- A number that is not a number has no whole part. -/
  | nanInteger
  /-- An infinite number has no whole part. -/
  | infiniteInteger
  /-- A text that does not write a floating-point number. -/
  | badFloat (text : String)
  /-- A number without any digits. -/
  | emptyNumber
  /-- A whole number that no floating-point number comes near. -/
  | hugeNumber
  /-- A word that is no truth value. -/
  | badTruth
  /-- A text that does not write a moment. -/
  | badMoment
  /-- Numbers that name no moment. -/
  | moment (fault : Moment.Fault)
  /-- An escape for a character that there is not. -/
  | badCharacter
  /-- An escape for a number that is too large for any character. -/
  | hugeCharacter
  /-- A value that JSON has no form for. -/
  | noJson
  /-- A value that is a part of itself. -/
  | circular
  /-- There is no such output format. -/
  | badFormat (shown : String)
  /-- Lines cannot be indented by such a value. -/
  | badIndent
  /-- Lines cannot be indented so far. -/
  | hugeIndent
  /-- The memory does not suffice. -/
  | noMemory
  /-- An exclude pattern that means nothing. -/
  | badPattern (pattern : String)
  /-- A range of characters that ends before it starts. -/
  | badRange
  /-- A settings file that is not YAML. -/
  | badYaml
  /-- A settings file with too many levels. -/
  | tooDeep
  /-- The command line leaves the target without a name. -/
  | noTarget
  /-- A file that is not UTF-8. -/
  | encoding (fault : Utf8.Fault)
  /-- A file that cannot be used. -/
  | file (error : FileError)
  deriving DecidableEq, Repr

/-- The wording of a failure; failures about the type of a setting have none. -/
def Failure.message? : Failure → Option String
  | .integer fault => some fault.message
  | .nanInteger => some "cannot convert float NaN to integer"
  | .badFloat text => some ("could not convert string to float: " ++ Text.quoted text)
  | .moment fault => some fault.message
  | .badCharacter => some "chr() arg not in range(0x110000)"
  | .circular => some "Circular reference detected"
  | .badFormat shown => some ("Unsupported output format: " ++ shown)
  | .badPattern pattern => some ("Invalid git pattern: " ++ Text.quoted pattern)
  | .encoding fault => some fault.message
  | .file error => some error.message
  | _ => none

end Stylebook
