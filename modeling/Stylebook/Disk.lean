import Stylebook.Failure
import Stylebook.Path
import Stylebook.Tree

/-!
# Disks

A tree of files with a place in it from which paths start. Paths are followed step by step: two
points lead to the directory above, and every step starts from a directory. Names and paths of more
than a certain length are refused, and so are paths with a null character.
-/

namespace Stylebook

/-- A tree of files, and where in it paths start that have no slash in front. -/
structure Disk where
  top : Tree := .directory []
  here : List String := []

namespace Disk

/-- The greatest number of bytes of a name. -/
def maxName : Nat :=
  255

/-- The greatest number of bytes of a path. -/
def maxPath : Nat :=
  4095

/-- The names from the top that lead to where some components lead from `names`. -/
def follow (top : Tree) (names : List String) :
    List String → Except FileError.Cause (List String)
  | [] => .ok names
  | part :: parts =>
    match top.get? names with
    | none => .error .missing
    | some (.file _) => .error .notDirectory
    | some (.directory entries) =>
      if part = ".." then follow top names.dropLast parts
      else if part.utf8ByteSize > maxName then .error .tooLong
      else if (Assoc.get? entries part).isNone then .error .missing
      else follow top (names ++ [part]) parts

/-- The names from the top that lead to what a path names. -/
def locate (d : Disk) (p : Path) : Except FileError.Cause (List String) :=
  if p.hasNull then .error .nullCharacter
  else if p.text.utf8ByteSize > maxPath then .error .tooLong
  else follow d.top (if p.root.isEmpty then d.here else []) p.parts

/-- What a path names. -/
def find (d : Disk) (p : Path) : Except FileError.Cause Tree :=
  match d.locate p with
  | .error cause => .error cause
  | .ok names =>
    match d.top.get? names with
    | none => .error .missing
    | some t => .ok t

/-- Whether what a path names has a property; there may also be no such thing. A path that is too
long cannot be tested. -/
def test (d : Disk) (property : Tree → Bool) (p : Path) : Except FileError Bool :=
  match d.find p with
  | .ok t => .ok (property t)
  | .error .tooLong => .error ⟨.tooLong, p.text⟩
  | .error _ => .ok false

/-- Whether a path names something. -/
def has (d : Disk) (p : Path) : Except FileError Bool :=
  d.test (fun _ => true) p

/-- Whether a path names a directory. -/
def isDirectory (d : Disk) (p : Path) : Except FileError Bool :=
  d.test Tree.isDirectory p

/-- The bytes of a file. -/
def fileBytes (d : Disk) (p : Path) : Except FileError (List UInt8) :=
  match d.find p with
  | .error cause => .error ⟨cause, p.text⟩
  | .ok (.directory _) => .error ⟨.isDirectory, p.text⟩
  | .ok (.file bytes) => .ok bytes

/-- The names of the directory that a path lies in, its entries, and the last component. -/
def place (d : Disk) (p : Path) :
    Except FileError.Cause (List String × List (String × Tree) × Option String) :=
  if p.hasNull then .error .nullCharacter
  else if p.text.utf8ByteSize > maxPath then .error .tooLong
  else
    match d.locate p.parent with
    | .error cause => .error cause
    | .ok names =>
      match d.top.get? names with
      | none => .error .missing
      | some (.file _) => .error .notDirectory
      | some (.directory entries) =>
        if p.parts.getLast?.any (·.utf8ByteSize > maxName) then .error .tooLong
        else .ok (names, entries, p.parts.getLast?)

/-- Make one directory. -/
def makeDirectory (d : Disk) (p : Path) : Except FileError.Cause Disk :=
  match d.place p with
  | .error cause => .error cause
  | .ok (_, _, none) => .error .alreadyThere
  | .ok (names, entries, some name) =>
    if name = ".." || (Assoc.get? entries name).isSome then .error .alreadyThere
    else .ok { d with top := d.top.put (.directory []) (names ++ [name]) }

/-- Make one directory, unless it is there already. -/
def ensureDirectory (d : Disk) (p : Path) : Except FileError Disk :=
  match d.makeDirectory p with
  | .ok d => .ok d
  | .error cause =>
    match d.isDirectory p with
    | .ok true => .ok d
    | _ => .error ⟨cause, p.text⟩

/-- Make a directory and those above it, unless they are there already. -/
def makeDirectories (d : Disk) (p : Path) : Except FileError Disk :=
  match d.makeDirectory p with
  | .error .missing =>
    if _h : p.parts = [] then .error ⟨.missing, p.text⟩
    else
      match makeDirectories d p.parent with
      | .error e => .error e
      | .ok d => d.ensureDirectory p
  | _ => d.ensureDirectory p
termination_by p.parts.length
decreasing_by
  have := List.length_pos_iff.2 _h
  simp only [Path.parent, List.length_dropLast]
  omega

/-- Write a file in a directory that is there. -/
def setFile (d : Disk) (p : Path) (bytes : List UInt8) : Except FileError Disk :=
  match d.place p with
  | .error cause => .error ⟨cause, p.text⟩
  | .ok (_, _, none) => .error ⟨.isDirectory, p.text⟩
  | .ok (names, entries, some name) =>
    match name == "..", Assoc.get? entries name with
    | true, _ => .error ⟨.isDirectory, p.text⟩
    | _, some (.directory _) => .error ⟨.isDirectory, p.text⟩
    | _, _ => .ok { d with top := d.top.put (.file bytes) (names ++ [name]) }

end Disk

end Stylebook
