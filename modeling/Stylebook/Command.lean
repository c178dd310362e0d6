import Stylebook.CommandLine
import Stylebook.Extraction
import Stylebook.IgnorePattern
import Stylebook.Output
import Stylebook.Report

/-!
# The extraction command

Extracts the documentation of a directory of sources into a file, as its arguments and a settings
file ask for, and tells what it has done.
-/

namespace Stylebook.Command

/-! ### Arguments -/

/-- The options and operands of the command. -/
def grammar : CommandLine.Grammar where
  options :=
    [{ names := ["-h", "--help"], kind := .help },
     { names := ["--config"], kind := .text },
     { names := ["--format"], kind := .choice (Output.Format.all.map Output.Format.name) },
     { names := ["--report"], kind := .text },
     { names := ["--no-warnings"], kind := .flag },
     { names := ["--concurrency"], kind := .integer },
     { names := ["--strict"], kind := .flag },
     { names := ["-v", "--verbose"], kind := .flag, group := some "verbosity" },
     { names := ["-q", "--quiet"], kind := .flag, group := some "verbosity" }]
  operands := [{ name := "src_dir" }, { name := "out_file" }]

/-- How the command is called. -/
def usage : String :=
  let shown (o : CommandLine.Opt) : String :=
    "[" ++ o.names.headD "" ++ (if o.kind.takesValue then " VALUE" else "") ++ "]"
  String.intercalate " "
    ("usage: scssdoc" :: grammar.options.map shown ++ grammar.operands.map CommandLine.Operand.name)

/-- What the arguments ask for. -/
structure Request where
  /-- The directory of the sources. -/
  source : Path
  /-- The file for the catalog. -/
  target : Option Path
  /-- The name of a settings file; none is named by an empty text. -/
  config : String
  format : Option String
  /-- The file for the report. -/
  report : Option Path
  checksTypes : Bool
  /-- How many files are read at a time; an empty list stands for a value that is not there. -/
  concurrency : Option Setting
  /-- Whether files that fail make the command fail. -/
  strict : Bool
  /-- The least level of what is shown of the log. -/
  level : Log.Level

/-- The number of files that are to be read at a time. -/
def concurrencyOf (values : Assoc CommandLine.Given) : Option Setting :=
  match Assoc.get? values "--concurrency" with
  | some (.integer i) => some (.int i)
  | some .nothing => some (.list [])
  | _ => none

/-- The request that the values of options and operands make. -/
def Request.ofValues (values : Assoc CommandLine.Given) : Request :=
  { source := .ofText ((CommandLine.text? values "src_dir").getD "")
    target := (CommandLine.text? values "out_file").map Path.ofText
    config := (CommandLine.text? values "--config").getD ""
    format := CommandLine.text? values "--format"
    report := (CommandLine.text? values "--report").map Path.ofText
    checksTypes := !CommandLine.isSet values "--no-warnings"
    concurrency := concurrencyOf values
    strict := CommandLine.isSet values "--strict"
    level :=
      if CommandLine.isSet values "--verbose" then .info
      else if CommandLine.isSet values "--quiet" then .error
      else .warning }

/-! ### Settings -/

/-- The part of the settings about the output, which must be a map. -/
def outputSettings (s : Settings) : Except Failure Settings :=
  match s.get? "output" with
  | some (.map entries) => .ok entries
  | _ => .error .noParts

/-- The settings of a settings file with those that the request makes itself. -/
def settings (disk : Disk) (r : Request) : Except Failure Settings :=
  match Settings.load disk r.config with
  | .error e => .error e
  | .ok s =>
    let s := if r.checksTypes then s else s.put (.text "warnings") (.bool false)
    let s := match r.concurrency with
      | none => s
      | some n => s.put (.text "concurrency") n
    match r.format with
    | none => .ok s
    | some format =>
      match outputSettings s with
      | .error e => .error e
      | .ok output =>
        .ok (s.put (.text "output") (.map (output.put (.text "format") (.text format))))

/-- The format and the indentation of the output. -/
def outputForm (s : Settings) : Except Failure (Output.Format × Output.Indent) :=
  match outputSettings s with
  | .error e => .error e
  | .ok output =>
    match Settings.integer ((output.get? "indent").getD (.int 2)) with
    | .error e => .error e
    | .ok width =>
      match Output.Format.ofSetting ((output.get? "format").getD .null) with
      | .error e => .error e
      | .ok format => .ok (format, .width width)

/-! ### Running -/

/-- How a run ends. -/
inductive Ending where
  /-- With an exit code. -/
  | code (n : Nat)
  /-- With a message and no result. -/
  | refused (message : String)
  | failed (failure : Failure)

/-- What a run leaves behind. -/
structure Result where
  disk : Disk
  /-- The files that the run has written. -/
  written : List Path := []
  /-- What the run has printed. -/
  output : String := ""
  log : List Log.Entry := []
  ending : Ending

/-- The report of an extraction. -/
def reportOf (s : Settings) (e : Extraction) : Except Failure Report :=
  s.fingerprint.map fun fingerprint =>
    { fingerprint := fingerprint
      outcomes := e.outcomes
      diagnostics := e.diagnostics
      categoryCounts := e.catalog.counts.map fun c => (c.1, Int.ofNat c.2) }

/-- The disk with the report, if one is asked for, and what is logged about it. -/
def writeReport (disk : Disk) (r : Request) (s : Settings) (e : Extraction)
    (timing : Option Timing) : Except Failure (Disk × List Path × List Log.Entry) :=
  match r.report with
  | none => .ok (disk, [], [])
  | some path =>
    match reportOf s e with
    | .error failure => .error failure
    | .ok report =>
      match disk.setFile path (Utf8.encode (report.text timing)) with
      | .error e => .error (.file e)
      | .ok disk => .ok (disk, [path], [⟨.info, .command, "Report written to " ++ path.text⟩])

/-- The number of spaces that the memory has room for. -/
def room : Nat :=
  Nat.pow 2 36 - 1

/-- Write the catalog: the disk afterwards, and where the catalog is or why it is not. -/
def writeCatalog (disk : Disk) (r : Request) (s : Settings) (catalog : Catalog) :
    Disk × Except Failure Path :=
  match outputForm s with
  | .error e => (disk, .error e)
  | .ok (format, indent) =>
    match r.target with
    | none => (disk, .error .noTarget)
    | some target =>
      let (disk, result) := Output.write room format indent catalog disk target
      (disk, result.map fun _ => target)

/-- What the command prints at the end. -/
def closingText (e : Extraction) (target : Path) : String :=
  let counts := e.catalog.counts.map fun c => Text.natText c.2 ++ " " ++ c.1
  let failed := e.failed.length
  "Extracted " ++ String.intercalate ", " counts ++ " into: " ++ target.text ++ "\n"
    ++ (if failed = 0 then ""
      else Text.natText failed ++ " file(s) could not be parsed.\n")

/-- The exit code after an extraction. -/
def exitCode (r : Request) (e : Extraction) : Nat :=
  if r.strict && !e.failed.isEmpty then 1 else 0

/-- Write the report and the catalog of an extraction. -/
def conclude (disk : Disk) (r : Request) (s : Settings) (timing : Option Timing)
    (log : List Log.Entry) (e : Extraction) : Result :=
  match writeReport disk r s e timing with
  | .error failure => { disk := disk, log := log, ending := .failed failure }
  | .ok (disk, written, entries) =>
    let log := log ++ entries
    match writeCatalog disk r s e.catalog with
    | (disk, .error failure) =>
      { disk := disk, written := written, log := log, ending := .failed failure }
    | (disk, .ok target) =>
      { disk := disk
        written := written ++ [target]
        output := closingText e target
        log := log
        ending := .code (exitCode r e) }

/-- Run the command on a directory that is there. -/
def runOn (disk : Disk) (r : Request) (timing : Option Timing) : Result :=
  match settings disk r with
  | .error failure => { disk := disk, ending := .failed failure }
  | .ok s =>
    let extraction := Extraction.run IgnorePattern.exclusion disk r.source s
    let log := Log.atLeast r.level extraction.log
    match extraction.result with
    | .error failure => { disk := disk, log := log, ending := .failed failure }
    | .ok e =>
      let result := conclude disk r s timing extraction.log e
      { result with log := Log.atLeast r.level result.log }

/-- Run the command. -/
def run (disk : Disk) (r : Request) (timing : Option Timing) : Result :=
  match disk.isDirectory r.source with
  | .error e => { disk := disk, ending := .failed (.file e) }
  | .ok true => runOn disk r timing
  | .ok false =>
    { disk := disk, ending := .refused ("Source directory not found: " ++ r.source.text) }

end Stylebook.Command
