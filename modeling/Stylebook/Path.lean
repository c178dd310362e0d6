import Stylebook.Text.Lines
import Stylebook.Text.Order

/-!
# Paths

Paths as lists of components. Empty components and single points are dropped; two points stay. Paths
are ordered component by component, so that what lies in `a` comes before `a-b`.
-/

namespace Stylebook

/-- A path: what it starts with (nothing, or slashes) and its components. -/
structure Path where
  root : String := ""
  parts : List String := []
  deriving DecidableEq, Repr

namespace Path

/-- The start of a path: two slashes are kept, one or more than two are one. -/
def rootOf : List Char → String
  | '/' :: '/' :: '/' :: _ => "/"
  | '/' :: '/' :: _ => "//"
  | '/' :: _ => "/"
  | _ => ""

/-- The path that a text writes. -/
def ofText (s : String) : Path :=
  { root := rootOf s.toList
    parts := ((Text.splitOn '/' s.toList).map String.ofList).filter fun p => p != "" && p != "." }

/-- Components with slashes between them. -/
def join (parts : List String) : String :=
  String.intercalate "/" parts

/-- The text of a path; the empty path is a point. -/
def text (p : Path) : String :=
  if p.root.isEmpty && p.parts.isEmpty then "." else p.root ++ join p.parts

/-- Whether a path has a null character. -/
def hasNull (p : Path) : Bool :=
  p.parts.any (·.toList.any (·.toNat == 0))

/-- The path of something below a path. -/
def append (p : Path) (parts : List String) : Path :=
  { p with parts := p.parts ++ parts }

/-- The path of the directory that holds what a path names. -/
def parent (p : Path) : Path :=
  { p with parts := p.parts.dropLast }

/-- What paths are ordered by: the components, a start counting as the first. -/
def key (p : Path) : List String :=
  if p.root.isEmpty then p.parts else p.root :: p.parts

/-- Whether a path comes before another or equals it. -/
def notAfter (p q : Path) : Bool :=
  !decide (q.key < p.key)

/-- The paths in order. -/
def sorted (ps : List Path) : List Path :=
  ps.mergeSort notAfter

/-- The suffix of a name: its last point and what follows, unless that point is the first or the
last character. -/
def suffix (name : List Char) : List Char :=
  let after := (name.reverse.takeWhile (· != '.')).reverse
  let stem := name.length - after.length - 1
  if after.length == name.length || after.isEmpty || stem == 0 then [] else '.' :: after

end Path

end Stylebook
