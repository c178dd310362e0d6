import Stylebook.Item.Reader
import Stylebook.Log
import Stylebook.Passage

/-!
# Sources

Reading the documented items of a source. A passage that gives no kind or no name documents nothing
and is skipped. The first error, in a passage or in the scan behind the last one, ends the reading.
-/

namespace Stylebook

/-- Whether a passage has documented an item: it has a kind and a name. -/
def Item.isDocumented (item : Item) : Bool :=
  item.kind.isSome && !item.name.isEmpty

/-- What the reading of a source gives: the items and the skipped passages before the error, if
there is one. -/
structure Reading where
  items : List Item
  skipped : List (List Char)
  error : Option ParseError

namespace Reading

/-- Reads the passages of a scan that ended with `ending`. -/
def ofPassages (ending : Option ParseError) : List (List Char) → Reading
  | [] => ⟨[], [], ending⟩
  | p :: ps =>
    match Item.ofPassage p with
    | .error e => ⟨[], [], some e⟩
    | .ok item =>
      let more := ofPassages ending ps
      if item.isDocumented then { more with items := item :: more.items }
      else { more with skipped := p :: more.skipped }

/-- Reads a source. -/
def ofSource (source : List Char) : Reading :=
  let scan := Scan.ofSource source
  ofPassages (scan.error? source) scan.passages

/-- The entry of the log about a skipped passage, which shows its first sixty characters. -/
def skipEntry (passage : List Char) : Log.Entry :=
  ⟨.debug, .reading,
    "Skipping undocumented comment: " ++ String.ofList (Text.quotedChars (passage.take 60))⟩

/-- What the reading writes to the log. -/
def log (r : Reading) : List Log.Entry :=
  r.skipped.map skipEntry

/-- The items, or the error that makes them void. -/
def result (r : Reading) : Except ParseError (List Item) :=
  match r.error with
  | none => .ok r.items
  | some e => .error e

end Reading

/-- The documented items of a source. -/
def parseSource (source : List Char) : Except ParseError (List Item) :=
  (Reading.ofSource source).result

end Stylebook
