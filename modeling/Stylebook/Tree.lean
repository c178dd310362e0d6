import Stylebook.Assoc

/-!
# Trees of files

Files with their bytes, and directories with their entries in any order.
-/

namespace Stylebook

/-- A file or a directory. -/
inductive Tree where
  | file (bytes : List UInt8)
  | directory (entries : List (String × Tree))

namespace Tree

/-- Whether a tree is a directory. -/
def isDirectory : Tree → Bool
  | .file _ => false
  | .directory _ => true

/-- What lies below a tree under some names. -/
def get? (t : Tree) : List String → Option Tree
  | [] => some t
  | name :: names =>
    match t with
    | .file _ => none
    | .directory entries =>
      match Assoc.get? entries name with
      | none => none
      | some t => t.get? names

/-- Put something below a tree under some names; missing directories on the way are made. -/
def put (t new : Tree) : List String → Tree
  | [] => new
  | name :: names =>
    match t with
    | .file bytes => .file bytes
    | .directory entries =>
      let below := (Assoc.get? entries name).getD (.directory [])
      .directory (Assoc.put entries name (below.put new names))

end Tree

end Stylebook
