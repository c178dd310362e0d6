import Stylebook.Corpus
import Stylebook.Diagnostic
import Stylebook.Json.Printer

/-!
# Reports

What became of each file of a run, and what was found about the items.
-/

namespace Stylebook

/-- When a report is made, and how long the run took until then, in seconds. -/
structure Timing where
  timestamp : Binary64
  duration : Binary64

/-- A report of a run. -/
structure Report where
  fingerprint : String
  schemaVersion : Int := 1
  outcomes : List Outcome := []
  diagnostics : List Diagnostic := []
  /-- The number of items of each section of the catalog. -/
  categoryCounts : Assoc Int := []

namespace Report

/-- The number of files. -/
def totalFiles (r : Report) : Nat :=
  r.outcomes.length

/-- The number of files that failed. -/
def failedFiles (r : Report) : Nat :=
  r.outcomes.countP fun o => !o.isOk

/-- The number of items of all files. -/
def totalItems (r : Report) : Int :=
  (r.outcomes.map Outcome.items).foldr (· + ·) 0

/-- The number of diagnostics of each sort that there are any of, in order of their names. -/
def diagnosticCounts (r : Report) : Assoc Nat :=
  (((Text.sortedBy Diagnostic.Kind.name Diagnostic.Kind.all).map fun kind =>
    (kind.name, r.diagnostics.countP (·.kind == kind))).filter fun entry => entry.2 != 0)

/-- The facts about the run as a whole. -/
def summary (r : Report) (timing : Option Timing) : List (String × Value) :=
  (match timing with
    | none => []
    | some t => [("timestamp", .float t.timestamp), ("duration", .float t.duration)])
  ++ [("config_hash", .text r.fingerprint), ("schema_version", .int r.schemaVersion),
    ("total_files", .ofNat r.totalFiles), ("failed_files", .ofNat r.failedFiles),
    ("total_items", .int r.totalItems)]

/-- A report as a map, with the times if they are known. -/
def record (r : Report) (timing : Option Timing) : Value :=
  .map [("meta", .map (r.summary timing)),
    ("files", .list (r.outcomes.map Outcome.record)),
    ("diagnostics", .list (r.diagnostics.map Diagnostic.record)),
    ("stats", .map [
      ("diagnostic_counts", .map (r.diagnosticCounts.map fun e => (e.1, .ofNat e.2))),
      ("category_counts", .map (r.categoryCounts.map fun e => (e.1, .int e.2)))])]

/-- The layout of reports: two spaces for each level, and only ASCII. -/
def layout : Json.Layout :=
  { unit := some [' ', ' '], ascii := true }

/-- The text of a report. -/
def text (r : Report) (timing : Option Timing) : String :=
  Json.text layout (r.record timing)

end Report

end Stylebook
