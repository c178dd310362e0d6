import Stylebook.CommandLine
import Stylebook.Output
import Stylebook.Path

/-!
# The launcher

Runs the extraction command on a tree of sources with its usual files, after the development checks
if they are asked for. A command that fails ends the launcher with its exit code.
-/

namespace Stylebook.Launcher

/-- The options and operands of the launcher. -/
def grammar : CommandLine.Grammar where
  options :=
    [{ names := ["-h", "--help"], kind := .help },
     { names := ["--dev"], kind := .flag },
     { names := ["--format"], kind := .choice (Output.Format.all.map Output.Format.name) },
     { names := ["--config"], kind := .text }]
  operands := [{ name := "src_dir", required := false }]

/-- What the arguments ask for. -/
structure Request where
  source : String
  dev : Bool
  format : String
  config : String

/-- The format that is asked for. An empty list stands for a value that is not there. -/
def formatOf (values : Assoc CommandLine.Given) : String :=
  match Assoc.get? values "--format" with
  | some (.text name) => name
  | some .nothing => "[]"
  | _ => "json"

/-- The request that the values of options and operands make. -/
def Request.ofValues (values : Assoc CommandLine.Given) : Request :=
  { source := (CommandLine.text? values "src_dir").getD "scss"
    dev := CommandLine.isSet values "--dev"
    format := formatOf values
    config := (CommandLine.text? values "--config").getD "" }

/-- Where the launcher runs: the program that runs modules, and the directory of the launcher. -/
structure Place where
  interpreter : String
  root : Path

/-- A command: its words, and the directory it runs in, if that is not the present one. -/
structure Call where
  words : List String
  directory : Option Path
  deriving DecidableEq, Repr

/-- The directory for the output. -/
def outputDirectory (p : Place) : Path :=
  p.root.append ["docs_out"]

/-- The file for the catalog. -/
def target (p : Place) (r : Request) : Path :=
  (outputDirectory p).append ["data." ++ r.format]

/-- The development checks. -/
def checks (p : Place) : Call :=
  { words := [p.interpreter, "-m", "pytest", "-q"], directory := some p.root }

/-- The extraction. -/
def extraction (p : Place) (r : Request) : Call :=
  { words := [p.interpreter, "-m", "scssdoc.scss_to_docs", r.source, (target p r).text,
      "--format", r.format, "--report",
      ((outputDirectory p).append ["extraction_report.json"]).text]
      ++ (if r.config.isEmpty then [] else ["--config", r.config])
    directory := none }

/-- A command in one line. -/
def Call.text (c : Call) : String :=
  String.intercalate " " c.words

/-- What a run of the launcher leaves behind. -/
structure Result where
  calls : List Call
  output : String
  code : Int
  /-- Whether the directory for the output has been made. -/
  madeDirectory : Bool

/-- What is printed about a command that ends with an exit code. -/
def callText (c : Call) (code : Int) : String :=
  "Running: " ++ c.text ++ "\n"
    ++ (if code = 0 then "" else "Error executing command: " ++ c.text ++ "\n")

/-- The run from the extraction on, after some commands and what they have printed. -/
def extract (p : Place) (r : Request) (calls : List Call) (output : String) (code : Int) :
    Result :=
  let call := extraction p r
  { calls := calls ++ [call]
    output := output ++ callText call code
      ++ (if code = 0 then
          "\nSUCCESS: Documentation data generated in " ++ (target p r).text ++ "\n"
        else "")
    code := code
    madeDirectory := true }

/-- Run the launcher, where the commands end with the given exit codes in turn, and with zero when
these are used up. -/
def run (p : Place) (r : Request) (codes : List Int) : Result :=
  if r.dev then
    let code := codes.headD 0
    let output := "--- Running Development Checks ---\n" ++ callText (checks p) code
    if code = 0 then
      extract p r [checks p]
        (output ++ "\nDevelopment checks passed. Proceeding with extraction.\n\n")
        (codes.tail.headD 0)
    else { calls := [checks p], output := output, code := code, madeDirectory := false }
  else extract p r [] "" (codes.headD 0)

end Stylebook.Launcher
