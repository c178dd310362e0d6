import Stylebook.Failure
import Stylebook.Setting.Basic
import Stylebook.Text.Order

/-!
# Order of settings

Values without parts can be compared: numbers with numbers, whether they are truth values, whole or
floating-point, and texts with texts. Lists of such values can be kept in order and without repeats,
and maps are looked up by them.
-/

namespace Stylebook

namespace Atom

/-- The place of a number on the line: before all finite numbers, among them as a quotient, or after
them. -/
structure Rank where
  side : Int
  num : Int
  den : Nat
  deriving DecidableEq, Repr

/-- Whether a place comes before another or equals it. -/
def Rank.notAfter (a b : Rank) : Bool :=
  if a.side = b.side then a.num * b.den ≤ b.num * a.den else a.side < b.side

/-- The place of a finite whole number. -/
def Rank.ofInt (i : Int) : Rank :=
  ⟨0, i, 1⟩

/-- The place of a number; true counts as one and false as zero. -/
def rank? : Atom → Option Rank
  | .bool b => some (.ofInt (if b then 1 else 0))
  | .int i => some (.ofInt i)
  | .float x =>
    if x.isNaN then none
    else if x.isInfinite then some ⟨if x.isNegative then -1 else 1, 0, 1⟩
    else some ⟨0, x.toQuotient.1, x.toQuotient.2⟩
  | _ => none

/-- Whether two values are the same. Numbers of different types are the same if they are equal. -/
def same : Atom → Atom → Bool
  | .null, .null => true
  | .text s, .text t => s == t
  | .bytes s, .bytes t => s == t
  | .date d, .date e => d == e
  | .moment m, .moment n => m.same n
  | .float x, .float y =>
    (x.isNaN && y.isNaN) ||
      match rank? (.float x), rank? (.float y) with
      | some a, some b => a.notAfter b && b.notAfter a
      | _, _ => false
  | v, w =>
    match v.rank?, w.rank? with
    | some a, some b => a.notAfter b && b.notAfter a
    | _, _ => false

/-- The text of a value, if it is one. -/
def text? : Atom → Option String
  | .text s => some s
  | _ => none

/-- Whether a value is a number, or what is not a number among them. -/
def isNumber : Atom → Bool
  | .bool _ => true
  | .int _ => true
  | .float _ => true
  | _ => false

/-- Whether a number does not come after another. What is not a number stays where it is. -/
def numberNotAfter (v w : Atom) : Bool :=
  match v.rank?, w.rank? with
  | some a, some b => a.notAfter b
  | _, _ => true

/-- Things in the order of the values they have. All values must be numbers or all texts, unless
there is only one. -/
def sortBy {α : Type} (f : α → Atom) (xs : List α) : Except Failure (List α) :=
  if xs.length ≤ 1 then .ok xs
  else if xs.all fun x => (f x).text?.isSome then
    .ok (Text.sortedBy (fun x => (f x).text?.getD "") xs)
  else if xs.all fun x => (f x).isNumber then
    .ok (xs.mergeSort fun x y => numberNotAfter (f x) (f y))
  else .error .notOrdered

/-- The values without those that are the same as an earlier one. -/
def distinct (as : List Atom) : List Atom :=
  as.foldl (fun kept a => if kept.any (same a) then kept else kept ++ [a]) []

end Atom

/-- The values of a list, which must have no parts. -/
def Setting.atoms : List Setting → Except Failure (List Atom)
  | [] => .ok []
  | .atom a :: vs => (atoms vs).map (a :: ·)
  | _ :: _ => .error .notScalar

/-- The values of two lists in order and without repeats. -/
def Setting.unite (vs ws : List Setting) : Except Failure (List Setting) :=
  match atoms (vs ++ ws) with
  | .error e => .error e
  | .ok as => (Atom.sortBy id (Atom.distinct as)).map fun sorted => sorted.map .atom

namespace Settings

/-- What stands under a key. -/
def find? (s : Settings) (key : Atom) : Option Setting :=
  match s with
  | [] => none
  | (k, v) :: rest => if k.same key then some v else find? rest key

/-- What stands under a key that is a text. -/
def get? (s : Settings) (key : String) : Option Setting :=
  s.find? (.text key)

/-- Put a setting under a key. A key that is there already keeps its place and its type. -/
def put (s : Settings) (key : Atom) (v : Setting) : Settings :=
  match s with
  | [] => [(key, v)]
  | (k, w) :: rest => if k.same key then (k, v) :: rest else (k, w) :: put rest key v

/-- The settings of some pairs, in which the last setting of a key counts. -/
def ofPairs (pairs : List (Atom × Setting)) : Settings :=
  pairs.foldl (fun s p => s.put p.1 p.2) []

end Settings

end Stylebook
