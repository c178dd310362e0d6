import Stylebook.Json.Printer
import Stylebook.Setting.Order

/-!
# Settings and records

Every value of a record is a setting. A setting is a value of a record if its keys can be put in
order and JSON has a form for all its parts; the record then has its keys in order, so that its text
does not depend on theirs.
-/

namespace Stylebook

/-- The value of a record for a value without parts. -/
def Atom.value : Atom → Except Failure Value
  | .null => .ok .null
  | .bool b => .ok (.bool b)
  | .int i => if (Integer.text i).isOk then .ok (.int i) else .error (.integer .unwritable)
  | .float x => .ok (.float x)
  | .text s => .ok (.text s)
  | .bytes _ => .error .noJson
  | .date _ => .error .noJson
  | .moment _ => .error .noJson

/-- A key as text. -/
def Atom.keyText : Atom → Except Failure String
  | .null => .ok "null"
  | .bool true => .ok "true"
  | .bool false => .ok "false"
  | .int i => (Integer.text i).mapError .integer
  | .float x => .ok (Json.floatText x)
  | .text s => .ok s
  | .bytes _ => .error .noJson
  | .date _ => .error .noJson
  | .moment _ => .error .noJson

namespace Setting

mutual

/-- A value of a record as a setting. -/
def ofValue : Value → Setting
  | .null => .atom .null
  | .bool b => .atom (.bool b)
  | .int i => .atom (.int i)
  | .float x => .atom (.float x)
  | .text s => .atom (.text s)
  | .list vs => .list (ofValues vs)
  | .map es => .map (ofEntries es)

/-- The elements of a list as settings. -/
def ofValues : List Value → List Setting
  | [] => []
  | v :: vs => ofValue v :: ofValues vs

/-- The entries of a map as settings. -/
def ofEntries : List (String × Value) → List (Atom × Setting)
  | [] => []
  | (k, v) :: es => (.text k, ofValue v) :: ofEntries es

end

/-- The entries of a record in their order, if every key and every value has a form. -/
def collect : List (Atom × Except Failure Value) → Except Failure (List (String × Value))
  | [] => .ok []
  | (k, v) :: es => do
    let key ← k.keyText
    let value ← v
    return (key, value) :: (← collect es)

mutual

/-- A setting as a value of a record. -/
def record : Setting → Except Failure Value
  | .atom a => a.value
  | .list vs => (records vs).map .list
  | .pair k v => do return .list [← record k, ← record v]
  | .set _ => .error .noJson
  | .map es =>
    match Atom.sortBy (·.1) (recordEntries es) with
    | .error e => .error e
    | .ok es => (collect es).map .map
  | .cycle _ => .error .circular

/-- The elements of a list as values of a record. -/
def records : List Setting → Except Failure (List Value)
  | [] => .ok []
  | v :: vs => do return (← record v) :: (← records vs)

/-- The keys of a map with what becomes of their settings. -/
def recordEntries : List (Atom × Setting) → List (Atom × Except Failure Value)
  | [] => []
  | (k, v) :: es => (k, record v) :: recordEntries es

end

/-- The text of a setting that does not depend on the order of keys: its record on one line of
ASCII. -/
def canonical (v : Setting) : Except Failure String :=
  v.record.map (Json.text { ascii := true })

end Setting

end Stylebook
