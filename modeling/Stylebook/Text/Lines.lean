import Stylebook.Text.Blank

/-!
# Lines

Cutting a text at stop characters and at line breaks. Each reader of a text consists of these cuts:
the part before the first stop, and what is left from there on.
-/

namespace Stylebook.Text

/-- The part of a text before the first stop character, the whole text if it has none. -/
def before (stop : Char → Bool) (s : List Char) : List Char :=
  s.takeWhile fun c => !stop c

/-- A text from its first stop character on, nothing if it has none. -/
def fromStop (stop : Char → Bool) (s : List Char) : List Char :=
  s.dropWhile fun c => !stop c

/-- The first line of a text, without its line break. -/
def line (s : List Char) : List Char :=
  before (· == '\n') s

/-- A text after its first line and that line's break. -/
def nextLine (s : List Char) : List Char :=
  (fromStop (· == '\n') s).drop 1

/-- A text after the spaces and tabs at its start. -/
def skipSpaces (s : List Char) : List Char :=
  s.dropWhile isSpaceOrTab

/-- The text before the first stop character and the text after it. -/
def cutAt? (stop : Char → Bool) (s : List Char) : Option (List Char × List Char) :=
  match fromStop stop s with
  | [] => none
  | _ :: rest => some (before stop s, rest)

/-- The parts of a text between the separators. -/
def splitOn (separator : Char) : List Char → List (List Char)
  | [] => [[]]
  | c :: s => if c == separator then [] :: splitOn separator s
    else extendFirst c (splitOn separator s)

/-- A text without the line break at its end, if it has one. -/
def dropFinalBreak (s : List Char) : List Char :=
  if s.getLast? == some '\n' then s.dropLast else s

/-- The number of line breaks of a text. -/
def breaks (s : List Char) : Nat :=
  s.count '\n'

/-- A text in which a carriage return and line feed are one line break. -/
def joinBreaks : List Char → List Char
  | [] => []
  | '\r' :: '\n' :: s => '\n' :: joinBreaks s
  | c :: s => c :: joinBreaks s

/-- A text in which every line ends with a line feed, whichever line ends it was written with. -/
def unifyBreaks : List Char → List Char
  | [] => []
  | '\r' :: '\n' :: s => '\n' :: unifyBreaks s
  | c :: s => (if c == '\r' then '\n' else c) :: unifyBreaks s

theorem length_fromStop_le (stop : Char → Bool) (s : List Char) :
    (fromStop stop s).length ≤ s.length :=
  (List.dropWhile_sublist _).length_le

theorem length_nextLine_le (s : List Char) : (nextLine s).length ≤ s.length := by
  have := length_fromStop_le (· == '\n') s
  simp only [nextLine, List.length_drop]
  omega

theorem length_skipSpaces_le (s : List Char) : (skipSpaces s).length ≤ s.length :=
  (List.dropWhile_sublist _).length_le

theorem length_lt_of_cutAt? {stop : Char → Bool} {s a b : List Char}
    (h : cutAt? stop s = some (a, b)) : b.length < s.length := by
  have hle := length_fromStop_le stop s
  unfold cutAt? at h
  split at h
  · cases h
  · rename_i heq
    cases h
    simp only [heq, List.length_cons] at hle
    omega

end Stylebook.Text
