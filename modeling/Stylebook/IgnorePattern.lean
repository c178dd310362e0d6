import Stylebook.Failure
import Stylebook.Setting.Basic
import Stylebook.Text.Lines

/-!
# Ignore patterns

Patterns for the files and directories that are left out, as in an ignore file: a pattern without a
slash matches at any depth, one with a slash from the top; a star stands for part of a name, two
stars for any number of directories; a pattern that ends with a slash matches only below
directories; an exclamation mark takes back what earlier patterns matched. Directories are written
with a slash at their end.
-/

namespace Stylebook

open Text

namespace IgnorePattern

/-- What a single character may be: one of some ranges, or none of them. -/
structure CharSet where
  negated : Bool
  ranges : List (Char × Char)
  deriving DecidableEq, Repr

/-- Whether a character belongs to a set. -/
def CharSet.has (set : CharSet) (c : Char) : Bool :=
  set.negated != set.ranges.any fun r => r.1.toNat ≤ c.toNat && c.toNat ≤ r.2.toNat

/-- The pieces of a pattern. -/
inductive Piece where
  /-- One given character. -/
  | char (c : Char)
  /-- One character of a set. -/
  | oneOf (set : CharSet)
  /-- Any character of a name. -/
  | one
  /-- Any number of characters of a name. -/
  | many
  /-- Any number of directories at the start, each with its slash. -/
  | leading
  /-- Any number of directories in between, each behind its slash. -/
  | between
  /-- The end, or anything below. -/
  | ending
  /-- Anything below. -/
  | below
  deriving DecidableEq, Repr

/-- What is left of a text after each number of characters that satisfy `p`. -/
def reach (p : Char → Bool) : List Char → List (List Char)
  | [] => [[]]
  | c :: s => (c :: s) :: (if p c then reach p s else [])

/-- What is left after a slash that at least one character of the line precedes. -/
def afterSlashes : List Char → List (List Char)
  | [] => []
  | c :: s =>
    if c == '\n' then []
    else (match s with
      | '/' :: t => [t]
      | _ => []) ++ afterSlashes s

/-- Whether a text has ended, a line break at its end not counting. -/
def hasEnded (s : List Char) : Bool :=
  s == [] || s == ['\n']

/-- Whether a slash follows. -/
def goesBelow : List Char → Bool
  | '/' :: _ => true
  | _ => false

/-- Whether pieces match a text from its start. -/
def piecesMatch : List Piece → List Char → Bool
  | [], _ => true
  | p :: ps, s =>
    match p with
    | .char c => match s with
      | d :: t => d == c && piecesMatch ps t
      | [] => false
    | .oneOf set => match s with
      | d :: t => set.has d && piecesMatch ps t
      | [] => false
    | .one => match s with
      | d :: t => d != '/' && piecesMatch ps t
      | [] => false
    | .many => (reach (· != '/') s).any (piecesMatch ps)
    | .leading => piecesMatch ps s || (afterSlashes s).any (piecesMatch ps)
    | .between => piecesMatch ps s || (match s with
      | '/' :: d :: t => d != '\n' && (reach (· != '\n') t).any (piecesMatch ps)
      | _ => false)
    | .ending => hasEnded s || goesBelow s
    | .below => goesBelow s

/-- What a pattern matches. -/
inductive Rule where
  /-- Every path that is not all line breaks. -/
  | all
  /-- Every path inside a directory, and every directory. -/
  | inDirectory
  /-- The paths that pieces match. -/
  | pieces (ps : List Piece)
  deriving DecidableEq, Repr

/-- Whether a rule matches a path. -/
def Rule.matchesPath (rule : Rule) (path : List Char) : Bool :=
  match rule with
  | .all => path.any (· != '\n')
  | .inDirectory => path.contains '/'
  | .pieces ps => piecesMatch ps path

/-- Whether no range of a set ends before it starts. -/
def CharSet.isOrdered (set : CharSet) : Bool :=
  set.ranges.all fun r => r.1.toNat ≤ r.2.toNat

/-- Whether all sets of a rule are in order. -/
def Rule.isOrdered : Rule → Bool
  | .pieces ps => ps.all fun p =>
    match p with
    | .oneOf set => set.isOrdered
    | _ => true
  | _ => true

/-! ### Reading patterns -/

/-- What reading a part of a pattern may come to instead of a result. -/
inductive Stop where
  /-- The pattern matches nothing. -/
  | void
  /-- The pattern is an error. -/
  | invalid
  deriving DecidableEq, Repr

/-- The ranges of a set. A hyphen at either end is itself. -/
def readRanges : List Char → List (Char × Char)
  | [] => []
  | a :: '-' :: b :: s => (a, b) :: readRanges s
  | a :: s => (a, a) :: readRanges s

/-- Cuts a text behind the bracket that closes a set. A bracket in the first place does not. -/
def cutSet (s : List Char) : Option (List Char × List Char) :=
  match s with
  | ']' :: t => (cutAt? (· == ']') t).map fun (content, rest) => (']' :: content, rest)
  | _ => cutAt? (· == ']') s

/-- Reads a set after its opening bracket, if it is closed. -/
def readSet (s : List Char) : Option (CharSet × List Char) :=
  let (negated, s) := match s with
    | '!' :: t => (true, t)
    | '^' :: t => (true, t)
    | t => (false, t)
  match cutSet s with
  | none => none
  | some (content, rest) => some (⟨negated, readRanges content⟩, rest)

theorem length_lt_of_cutSet {s content rest : List Char} (h : cutSet s = some (content, rest)) :
    rest.length < s.length := by
  unfold cutSet at h
  split at h
  · rename_i t
    simp only [Option.map_eq_some_iff, Prod.exists, Prod.mk.injEq] at h
    obtain ⟨_, _, hcut, _, rfl⟩ := h
    exact Nat.lt_succ_of_lt (length_lt_of_cutAt? hcut)
  · exact length_lt_of_cutAt? h

theorem length_lt_of_readSet {s rest : List Char} {set : CharSet}
    (h : readSet s = some (set, rest)) : rest.length < s.length := by
  unfold readSet at h
  simp only at h
  split at h
  · cases h
  · rename_i content left hcut
    have hlt := length_lt_of_cutSet hcut
    cases h
    split at hlt <;> simp_all <;> omega

/-- Reads the pieces of a component. -/
def readPieces (s : List Char) : Except Stop (List Piece) :=
  match s with
  | [] => .ok []
  | '\\' :: [] => .error .invalid
  | '\\' :: c :: t => (readPieces t).map (.char c :: ·)
  | '*' :: t => (readPieces t).map (.many :: ·)
  | '?' :: t => (readPieces t).map (.one :: ·)
  | '[' :: t =>
    match _h : readSet t with
    | none => .error .void
    | some (set, rest) => (readPieces rest).map (.oneOf set :: ·)
  | c :: t => (readPieces t).map (.char c :: ·)
termination_by s.length
decreasing_by
  all_goals simp only [List.length_cons]
  all_goals first
    | exact Nat.lt_succ_of_lt (length_lt_of_readSet _h)
    | omega

/-- The pieces of a component; a single star needs at least one character. -/
def componentPieces (s : List Char) : Except Stop (List Piece) :=
  if s == ['*'] then .ok [.one, .many] else readPieces s

/-- The component that stands for any number of directories. -/
def stars : List Char :=
  ['*', '*']

/-- The pieces of all components. `slash` says whether a slash goes before the next one. -/
def readComponents (slash : Bool) : List (List Char) → Except Stop (List Piece)
  | [] => .ok []
  | [c] =>
    if c == stars then .ok [.below]
    else (componentPieces c).map fun ps => (if slash then [.char '/'] else []) ++ ps ++ [.ending]
  | c :: cs =>
    if c == stars then (readComponents true cs).map (.between :: ·)
    else do
      let ps ← componentPieces c
      let more ← readComponents true cs
      return (if slash then [.char '/'] else []) ++ ps ++ more

/-- Components without a pair of stars that follows another. -/
def mergeStars : List (List Char) → List (List Char)
  | a :: b :: cs =>
    if a == stars && b == stars then mergeStars (b :: cs) else a :: mergeStars (b :: cs)
  | cs => cs

/-- The rule of a pattern's components. -/
def ruleOf (directory : Bool) (components : List (List Char)) : Except Stop Rule :=
  if components == [stars] then .ok (if directory then .inDirectory else .all)
  else if components == [stars, ['*']] then .ok .all
  else if components == [stars, ['*'], stars] then .ok .inDirectory
  else match components with
    | [] => .error .invalid
    | c :: cs =>
      if c == stars then (readComponents false cs).map fun ps => .pieces (.leading :: ps)
      else (readComponents false components).map .pieces

/-- The components of a pattern with what is understood: a pattern that names no place matches at
any depth, and one that ends with a slash matches what lies below. -/
def complete (components : List (List Char)) : List (List Char) :=
  let placed := match components with
    | [] :: cs => cs
    | [c] => if c == stars then [c] else [stars, c]
    | [c, []] => if c == stars then [c, []] else [stars, c, []]
    | cs => cs
  mergeStars (match placed.getLast? with
    | some [] => placed.dropLast ++ [stars]
    | _ => placed)

/-- Whether a text ends with an escaped space. -/
def endsWithEscapedSpace (s : List Char) : Bool :=
  match s.reverse with
  | ' ' :: '\\' :: _ => true
  | _ => false

end IgnorePattern

/-- A pattern: what it matches, and whether it takes matches back. -/
structure IgnorePattern where
  negated : Bool
  rule : IgnorePattern.Rule
  deriving DecidableEq, Repr

namespace IgnorePattern

/-- Reads a pattern. Blank patterns, comments, the lone slash and patterns with an unclosed set have
no effect. -/
def read (pattern : String) : Except Failure (Option IgnorePattern) :=
  let s := pattern.toList
  let s := if endsWithEscapedSpace s then s else dropEndWhile isBlank s
  if s.isEmpty || s.head? == some '#' || s == ['/'] then .ok none
  else
    let (negated, s) := match s with
      | '!' :: t => (true, t)
      | t => (false, t)
    let components := splitOn '/' s
    match ruleOf (components.getLast? == some []) (complete components) with
    | .ok rule => if rule.isOrdered then .ok (some ⟨negated, rule⟩) else .error .badRange
    | .error .void => .ok none
    | .error .invalid => .error (.badPattern pattern)

/-- Whether a path is left out: the last pattern that matches it decides. -/
def exclude (patterns : List IgnorePattern) (path : String) : Bool :=
  match patterns.reverse.find? (·.rule.matchesPath path.toList) with
  | some p => !p.negated
  | none => false

/-- Reads an element of a setting, which has to be a text. -/
def ofElement : Setting → Except Failure (Option IgnorePattern)
  | .atom (.text s) => read s
  | _ => .error .patternNotText

/-- The test for what the elements of a setting leave out. Those that switch nothing on are passed
over. -/
def exclusion (elements : List Setting) : Except Failure (String → Bool) :=
  ((elements.filter Setting.isTruthy).mapM ofElement).map fun patterns =>
    exclude patterns.reduceOption

end IgnorePattern

end Stylebook
