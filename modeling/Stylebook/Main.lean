import Std.Time.DateTime.Timestamp
import Stylebook.Command

/-!
# The program

Runs the extraction command on the files of the system. What the command may look at is read into a
disk first, and the files that it has written on the disk are written to the system afterwards.
-/

namespace Stylebook.Main

/-- A file or directory of the system under its names from the top. -/
def entryOf (names : List String) : IO.FS.DirEntry :=
  { root := "/" ++ Path.join names.dropLast, fileName := names.getLastD "" }

/-- Everything at an entry of a directory. -/
partial def load (entry : IO.FS.DirEntry) : IO Tree := do
  if ← entry.path.isDir then
    let entries ← entry.path.readDir
    return .directory (← entries.toList.mapM fun e => do return (e.fileName, ← load e))
  else
    return .file (← IO.FS.readBinFile entry.path).toList

/-- The disk with all directories and the file on the way that some components lead from `names`,
and the names at the end of the way. -/
def addWay (top : Tree) (names : List String) : List String → IO (Tree × List String)
  | [] => return (top, names)
  | ".." :: parts => addWay top names.dropLast parts
  | part :: parts => do
    let names := names ++ [part]
    let entry := entryOf names
    if ← entry.path.isDir then
      addWay (if (top.get? names).isSome then top else top.put (.directory []) names) names parts
    else if ← entry.path.pathExists then
      return (top.put (← load entry) names, names)
    else
      return (top, names)

/-- The disk with what leads to a path, and with all that lies below it if `whole` is set. -/
def addPath (whole : Bool) (d : Disk) (p : Path) : IO Disk := do
  let start := if p.root.isEmpty then d.here else []
  let (top, names) ← addWay d.top start p.parts
  if whole && (top.get? names).isSome then
    return { d with top := top.put (← load (entryOf names)) names }
  else
    return { d with top := top }

/-- The disk that a request may look at. -/
def diskFor (r : Command.Request) : IO Disk := do
  let here := (Path.ofText (← IO.currentDir).toString).parts
  let (top, _) ← addWay (.directory []) [] here
  let d ← addPath true { top := top, here := here } r.source
  (r.target.toList ++ r.report.toList ++ [Path.ofText r.config]).foldlM (addPath false) d

/-- Write a file of the disk to the system. -/
def writeBack (d : Disk) (p : Path) : IO Unit := do
  match d.fileBytes p with
  | .error _ => return
  | .ok bytes =>
    IO.FS.createDirAll p.parent.text
    IO.FS.writeBinFile p.text (ByteArray.mk bytes.toArray)

/-- The time in nanoseconds. -/
def clock : IO Nat := do
  return (← Std.Time.Timestamp.now).toNanosecondsSinceUnixEpoch.val.toNat

/-- Nanoseconds in seconds. -/
def seconds (nanoseconds : Nat) : Binary64 :=
  .ofDecimal false nanoseconds (-9)

/-- Run the command for a request. -/
def serve (r : Command.Request) : IO UInt32 := do
  let start ← clock
  let disk ← diskFor r
  let now ← clock
  let result := Command.run disk r (some ⟨seconds now, seconds (now - start)⟩)
  result.written.forM (writeBack result.disk)
  for entry in result.log do
    IO.eprintln entry.text
  IO.print result.output
  match result.ending with
  | .code n => return n.toUInt32
  | .refused message => IO.eprintln message; return 1
  | .failed failure =>
    IO.eprintln (failure.message?.getD "A setting has the wrong type.")
    return 1

end Stylebook.Main

/-- Extract the documentation of a directory of sources. -/
def main (arguments : List String) : IO UInt32 := do
  match Stylebook.CommandLine.read Stylebook.Command.grammar arguments with
  | .ok values => Stylebook.Main.serve (.ofValues values)
  | .error .help =>
    IO.println Stylebook.Command.usage
    return 0
  | .error (.usage e) =>
    IO.eprintln Stylebook.Command.usage
    IO.eprintln ("scssdoc: error: " ++ e.message)
    return 2
