/-!
# Log

What a run tells about itself while it goes on: entries of a level, each from one part of the
program.
-/

namespace Stylebook.Log

/-- How important an entry is. -/
inductive Level where
  | debug
  | info
  | warning
  | error
  deriving DecidableEq, Repr

/-- The name of a level. -/
def Level.name : Level → String
  | .debug => "DEBUG"
  | .info => "INFO"
  | .warning => "WARNING"
  | .error => "ERROR"

/-- Levels as numbers, the more important the higher. -/
def Level.rank : Level → Nat
  | .debug => 0
  | .info => 1
  | .warning => 2
  | .error => 3

/-- The parts of the program that write to the log. -/
inductive Origin where
  | reading
  | linking
  | discovery
  | parsing
  | extraction
  | command
  deriving DecidableEq, Repr

/-- The name under which a part of the program writes. -/
def Origin.name : Origin → String
  | .reading => "scssdoc.comment_extractor"
  | .linking => "scssdoc.resolve_cross_references"
  | .discovery => "scssdoc.discover_sources"
  | .parsing => "scssdoc.parse_sources"
  | .extraction => "scssdoc.extract_documentation"
  | .command => "scssdoc.scss_to_docs"

/-- An entry of the log. -/
structure Entry where
  level : Level
  origin : Origin
  message : String
  deriving DecidableEq, Repr

/-- An entry in one line. -/
def Entry.text (e : Entry) : String :=
  e.level.name ++ " " ++ e.origin.name ++ ": " ++ e.message

/-- The entries of a level or above. -/
def atLeast (level : Level) (entries : List Entry) : List Entry :=
  entries.filter fun e => level.rank ≤ e.level.rank

end Stylebook.Log
