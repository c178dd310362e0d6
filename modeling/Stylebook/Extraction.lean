import Stylebook.Catalog
import Stylebook.Corpus
import Stylebook.Discovery
import Stylebook.Linking
import Stylebook.Settings.Basic

/-!
# Extraction

From a tree of sources to a catalog of linked items. Linking starts when all files have been read.
-/

namespace Stylebook

/-- What a run has logged, and its result. -/
structure Logged (α : Type) where
  log : List Log.Entry
  result : Except Failure α

/-- A way to read exclude patterns: what tells the excluded places from the others, by the elements
of the setting, or why they are refused. -/
abbrev Exclusion := List Setting → Except Failure (String → Bool)

/-- What an extraction gives. -/
structure Extraction where
  catalog : Catalog
  diagnostics : List Diagnostic
  outcomes : List Outcome
  omitted : Nat

namespace Extraction

/-- The outcomes of the files that failed. -/
def failed (e : Extraction) : List Outcome :=
  e.outcomes.filter fun o => !o.isOk

/-- The suffixes of sources that settings ask for. -/
def suffixes (s : Settings) : Except Failure (List (List Char)) :=
  match Settings.texts ((s.get? "extensions").getD (.list [.text ".scss"])) with
  | .error e => .error e
  | .ok extensions => .ok (extensions.map Discovery.suffixOf)

/-- What tells the places that settings exclude from the others. -/
def excluded (exclusion : Exclusion) (s : Settings) : Except Failure (String → Bool) :=
  match Settings.elements ((s.get? "exclude").getD (.list [])) with
  | .error e => .error e
  | .ok elements => exclusion elements

/-- How many files settings ask to be read at a time. -/
def concurrency (s : Settings) : Except Failure Int :=
  Settings.integer ((s.get? "concurrency").getD (.int 1))

/-- Whether settings ask for types and links to be checked. -/
def validates (s : Settings) : Bool :=
  ((s.get? "warnings").getD (.bool true)).isTruthy

/-- The sources below a path that settings ask for. -/
def discover (exclusion : Exclusion) (disk : Disk) (root : Path) (s : Settings) :
    Except Failure Discovery :=
  match suffixes s with
  | .error e => .error e
  | .ok suffixes =>
    match excluded exclusion s with
    | .error e => .error e
    | .ok excluded => Discovery.ofDisk suffixes excluded disk root

/-- Link the items of a corpus and make a catalog of them. -/
def ofCorpus (corpus : Corpus) (omitted : Nat) (validate : Bool) : Extraction :=
  let linked := (Store.ofItems corpus.items).link validate
  { catalog := .ofItems linked.1.items
    diagnostics := linked.2
    outcomes := corpus.outcomes
    omitted := omitted }

/-- Extract the documented items of the sources below a path. -/
def run (exclusion : Exclusion) (disk : Disk) (root : Path) (s : Settings) : Logged Extraction :=
  match discover exclusion disk root s with
  | .error e => ⟨[], .error e⟩
  | .ok found =>
    let log := found.log ++ [found.foundEntry]
    match concurrency s with
    | .error e => ⟨log, .error e⟩
    | .ok _ =>
      match Corpus.ofPaths disk found.files with
      | .error e => ⟨log, .error e⟩
      | .ok corpus =>
        let extraction := ofCorpus corpus found.omitted (validates s)
        ⟨log ++ corpus.log ++ Store.linkLog extraction.diagnostics, .ok extraction⟩

end Extraction

end Stylebook
