/-!
# Association lists

Lists of keys with a value each, in the order in which the keys were first put in.
-/

namespace Stylebook

/-- Keys with a value each, in order. -/
abbrev Assoc (α : Type) := List (String × α)

namespace Assoc

variable {α : Type}

/-- The value under a key. -/
def get? (entries : Assoc α) (key : String) : Option α :=
  entries.lookup key

/-- Put a value under a key. A key that is there already keeps its place. -/
def put (entries : Assoc α) (key : String) (value : α) : Assoc α :=
  match entries with
  | [] => [(key, value)]
  | (k, v) :: rest => if k = key then (key, value) :: rest else (k, v) :: put rest key value

/-- The keys in order. -/
def keys (entries : Assoc α) : List String :=
  entries.map (·.1)

/-- The association list of some pairs, in which the last value of a key counts. -/
def ofPairs (pairs : List (String × α)) : Assoc α :=
  pairs.foldl (fun entries p => put entries p.1 p.2) []

end Assoc

end Stylebook
