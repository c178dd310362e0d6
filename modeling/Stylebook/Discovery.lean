import Stylebook.Disk
import Stylebook.Log
import Stylebook.Text.Digits
import Stylebook.Text.LowerCase

/-!
# Discovery

Finding the sources below a directory. Excluded directories are not entered. Of the files that are
reached, those that are not excluded and have one of the wanted suffixes are the sources; the others
are omitted.
-/

namespace Stylebook

/-- The sources below a directory. -/
structure Discovery where
  files : List Path := []
  /-- The number of files that were reached and are no sources. -/
  omitted : Nat := 0
  log : List Log.Entry := []

namespace Discovery

/-- The suffix of an extension: in small letters, with a point in front. -/
def suffixOf (extension : String) : List Char :=
  let small := Text.lowerCase extension.toList
  if extension.toList.head? == some '.' then small else '.' :: small

/-- Whether a name has one of some suffixes. -/
def hasSuffix (suffixes : List (List Char)) (name : String) : Bool :=
  suffixes.contains (Text.lowerCase (Path.suffix name.toList))

mutual

/-- The files at a place, each as its components, except for those below an excluded directory.
Directories are tested with a slash at the end. -/
def reachedAt (excluded : String → Bool) (place : List String) : Tree → List (List String)
  | .file _ => [place]
  | .directory entries =>
    if excluded (Path.join place ++ "/") then [] else reached excluded place entries

/-- The files in a directory of the given entries, which lies at `place`. -/
def reached (excluded : String → Bool) (place : List String) :
    List (String × Tree) → List (List String)
  | [] => []
  | (name, t) :: entries => reachedAt excluded (place ++ [name]) t ++ reached excluded place entries

end

/-- Whether a file that is not excluded is a source, by its name. -/
def isSource (suffixes : List (List Char)) (parts : List String) : Bool :=
  parts.getLast?.any (hasSuffix suffixes)

/-- The entry of the log about a file with another suffix. -/
def omitEntry (parts : List String) : Log.Entry :=
  ⟨.debug, .discovery, "File `" ++ Path.join parts ++ "` is not a stylesheet source. Omitted."⟩

/-- The sources below a directory with the given entries. -/
def ofEntries (suffixes : List (List Char)) (excluded : String → Bool) (root : Path)
    (entries : List (String × Tree)) : Discovery :=
  let all := reached excluded [] entries
  let wanted := all.filter fun parts => !excluded (Path.join parts)
  let sources := wanted.filter (isSource suffixes)
  { files := Path.sorted (sources.map root.append)
    omitted := all.length - sources.length
    log := (wanted.filter fun parts => !isSource suffixes parts).map omitEntry }

/-- The entry of the log about a directory that cannot be read. -/
def unreadableEntry (root : Path) (cause : FileError.Cause) : Log.Entry :=
  ⟨.warning, .discovery, "Cannot read directory " ++ root.text ++ ": " ++ cause.text⟩

/-- The sources below a path; a path that names no directory has none. -/
def ofDisk (suffixes : List (List Char)) (excluded : String → Bool) (disk : Disk) (root : Path) :
    Except Failure Discovery :=
  match disk.find root with
  | .ok (.directory entries) => .ok (ofEntries suffixes excluded root entries)
  | .ok (.file _) => .ok { log := [unreadableEntry root .notDirectory] }
  | .error .nullCharacter => .error (.file ⟨.nullCharacter, root.text⟩)
  | .error cause => .ok { log := [unreadableEntry root cause] }

/-- What discovery tells when it has ended. -/
def foundEntry (d : Discovery) : Log.Entry :=
  ⟨.info, .extraction, "Found " ++ Text.natText d.files.length ++ " source files ("
    ++ Text.natText d.omitted ++ " omitted)"⟩

end Discovery

end Stylebook
