import Stylebook.Setting.Order

/-!
# Merging settings

Settings are laid over each other: maps are merged entry by entry, and any other value takes the
place of the one below it. Only the patterns under `exclude` add up.
-/

namespace Stylebook.Settings

/-- The key whose lists add up. -/
def additiveKey : String :=
  "exclude"

mutual

/-- The entries `new` laid over `base`. -/
def mergeEntries (base : Settings) : List (Atom × Setting) → Except Failure Settings
  | [] => .ok base
  | (key, value) :: new =>
    match mergeValue key (base.find? key) value with
    | .error e => .error e
    | .ok merged => mergeEntries (base.put key merged) new

/-- A value laid over the one below it, if there is one. -/
def mergeValue (key : Atom) (below : Option Setting) : Setting → Except Failure Setting
  | .map new =>
    match below with
    | some (.map old) => (mergeEntries old new).map .map
    | _ => .ok (.map new)
  | .list new =>
    match below with
    | some (.list old) =>
      if key = .text additiveKey then (Setting.unite old new).map .list else .ok (.list new)
    | _ => .ok (.list new)
  | value => .ok value

end

/-- A map laid over another. -/
def merge (base : Settings) : Setting → Except Failure Settings
  | .map new => mergeEntries base new
  | _ => .error .notMap

end Stylebook.Settings
