import Stylebook.ParseError

/-!
# Documented passages

A passage is the text of one or more documentation comments followed by the declaration they
document. Documentation comments are block comments and runs of lines that open with three slashes;
a line comment with two slashes documents nothing and drops the comments before it. Scanning a
source gives its passages in order, up to the end or to the first fault.
-/

namespace Stylebook

open Text

namespace Passage

/-! ### Comments -/

/-- Reads a block comment after its opening: its body without the closing mark, then the rest of the
closing line and a line break. A star closes the comment only if a slash follows. -/
def readBlock (s : List Char) : Except Fault (List Char × List Char) :=
  match _h : cutAt? (· == '*') s with
  | none => .error ⟨.unterminated ["*"], s⟩
  | some (body, '/' :: rest) => .ok (body ++ line rest ++ ['\n'], nextLine rest)
  | some (body, rest) =>
    match readBlock rest with
    | .ok (more, left) => .ok (body ++ '*' :: more, left)
    | .error f => .error f
termination_by s.length
decreasing_by exact length_lt_of_cutAt? _h

/-- Whether a documentation line opens here. -/
def opensDocLine : List Char → Bool
  | '/' :: '/' :: '/' :: _ => true
  | _ => false

/-- The content of a documentation line and all that follows. -/
def docContent (s : List Char) : List Char :=
  skipSpaces (s.dropWhile (· == '/'))

theorem length_docContent_lt {s : List Char} (h : opensDocLine s = true) :
    (docContent s).length < s.length := by
  unfold opensDocLine at h
  split at h
  · rename_i r
    have h₁ := length_skipSpaces_le (r.dropWhile (· == '/'))
    have h₂ : (r.dropWhile (· == '/')).length ≤ r.length := (List.dropWhile_sublist _).length_le
    simp only [docContent, List.dropWhile_cons, beq_self_eq_true, ↓reduceIte, List.length_cons]
    omega
  · cases h

/-- Reads the documentation lines that follow each other from here on. -/
def readRun (s : List Char) : List Char × List Char :=
  if _h : opensDocLine s then
    let content := docContent s
    let (more, rest) := readRun (skipSpaces (nextLine content))
    (line content ++ '\n' :: more, rest)
  else ([], s)
termination_by s.length
decreasing_by
  have h₁ := length_skipSpaces_le (nextLine (docContent s))
  have h₂ := length_nextLine_le (docContent s)
  have h₃ := length_docContent_lt _h
  omega

/-- Reads a declaration whose first character has been read already. A variable declaration goes on
to its semicolon, so that a value may span lines, and both kinds go on to the end of the line. -/
def readDeclaration (first : Char) (s : List Char) : Except Fault (List Char × List Char) :=
  if first = '$' then
    match cutAt? (· == ';') s with
    | none => .error ⟨.unterminated [";"], s⟩
    | some (value, rest) => .ok (first :: value ++ ';' :: line rest, nextLine rest)
  else .ok (first :: line s, nextLine s)

theorem length_le_of_readBlock {s body rest : List Char} (h : readBlock s = .ok (body, rest)) :
    rest.length ≤ s.length := by
  fun_induction readBlock s generalizing body rest with
  | case1 => cases h
  | case2 s body r hcut =>
    cases h
    have h₁ := length_lt_of_cutAt? hcut
    have h₂ := length_nextLine_le r
    simp only [List.length_cons] at h₁
    omega
  | case3 s body r _ hcut more left hr ih =>
    cases h
    have h₁ := length_lt_of_cutAt? hcut
    have h₂ := ih hr
    omega
  | case4 => cases h

theorem length_readRun_le (s : List Char) : (readRun s).2.length ≤ s.length := by
  fun_induction readRun s with
  | case1 s h content more rest hr ih =>
    have h₁ := length_skipSpaces_le (nextLine content)
    have h₂ := length_nextLine_le content
    have h₃ : content.length < s.length := length_docContent_lt h
    rw [hr] at ih
    simp only at ih ⊢
    omega
  | case2 => simp

theorem length_readRun_lt {s : List Char} (h : opensDocLine s = true) :
    (readRun s).2.length < s.length := by
  rw [readRun, dif_pos h]
  have h₁ := length_skipSpaces_le (nextLine (docContent s))
  have h₂ := length_nextLine_le (docContent s)
  have h₃ := length_docContent_lt h
  have h₄ := length_readRun_le (skipSpaces (nextLine (docContent s)))
  simp only
  omega

theorem length_le_of_readDeclaration {c : Char} {s text rest : List Char}
    (h : readDeclaration c s = .ok (text, rest)) : rest.length ≤ s.length := by
  unfold readDeclaration at h
  split at h
  · split at h
    · cases h
    · rename_i value left hcut
      cases h
      have h₁ := length_lt_of_cutAt? hcut
      have h₂ := length_nextLine_le left
      omega
  · cases h
    exact length_nextLine_le s

/-! ### Scanning -/

/-- One step of a scan, from the comments that are waiting for a declaration. -/
inductive Step where
  /-- Only spaces and tabs were left. -/
  | done
  /-- The source cannot be read. -/
  | failed (fault : Fault)
  /-- The scan goes on at `rest`, perhaps after a passage. -/
  | moved (waiting : Option (List Char)) (found : Option (List Char)) (rest : List Char)

/-- Reads a comment, a declaration or a line that is neither. -/
def step (waiting : Option (List Char)) (s : List Char) : Step :=
  match skipSpaces s with
  | [] => .done
  | '\n' :: r => .moved waiting none r
  | '/' :: '*' :: r =>
    match readBlock r with
    | .ok (body, rest) => .moved (some (waiting.getD [] ++ body)) none rest
    | .error f => .failed f
  | '/' :: '/' :: r =>
    if opensDocLine ('/' :: '/' :: r) then
      let (lines, rest) := readRun ('/' :: '/' :: r)
      .moved (some (waiting.getD [] ++ lines)) none rest
    else .moved none none (nextLine r)
  | '/' :: r => .failed ⟨.straySlash r.head?, '/' :: r⟩
  | c :: r =>
    match waiting with
    | none => .moved none none (nextLine r)
    | some comments =>
      match readDeclaration c r with
      | .ok (declaration, rest) => .moved none (some (comments ++ declaration ++ ['\n'])) rest
      | .error f => .failed f

theorem length_lt_of_step {waiting w found : Option (List Char)} {s rest : List Char}
    (h : step waiting s = .moved w found rest) : rest.length < s.length := by
  have hs := length_skipSpaces_le s
  unfold step at h
  split at h
  · cases h
  · rename_i r heq
    cases h
    simp only [heq, List.length_cons] at hs
    omega
  · rename_i r heq
    simp only [heq, List.length_cons] at hs
    split at h
    · rename_i hb
      cases h
      have := length_le_of_readBlock hb
      omega
    · cases h
  · rename_i r heq
    rw [heq] at hs
    split at h
    · rename_i hopen
      cases h
      exact Nat.lt_of_lt_of_le (length_readRun_lt hopen) hs
    · cases h
      have := length_nextLine_le r
      simp only [List.length_cons] at hs
      omega
  · cases h
  · rename_i c r _ _ _ _ heq
    simp only [heq, List.length_cons] at hs
    split at h
    · cases h
      have := length_nextLine_le r
      omega
    · split at h
      · rename_i hd
        cases h
        have := length_le_of_readDeclaration hd
        omega
      · cases h

end Passage

/-- What a scan gives: the passages in order, and how it ended, with a fault or with the comments
that still waited for a declaration. -/
structure Scan where
  passages : List (List Char)
  ending : Except Fault (Option (List Char))

/-- Scans the rest of a source. -/
def Scan.run (waiting : Option (List Char)) (s : List Char) : Scan :=
  match _h : Passage.step waiting s with
  | .done => ⟨[], .ok waiting⟩
  | .failed f => ⟨[], .error f⟩
  | .moved w found rest =>
    let more := Scan.run w rest
    ⟨found.toList ++ more.passages, more.ending⟩
termination_by s.length
decreasing_by exact Passage.length_lt_of_step _h

/-- Scans a source whose line ends are line feeds, some of them after a carriage return. -/
def Scan.ofSource (source : List Char) : Scan :=
  Scan.run none (joinBreaks source)

/-- The error that ended the scan of a source, if one did. -/
def Scan.error? (scan : Scan) (source : List Char) : Option ParseError :=
  match scan.ending with
  | .ok _ => none
  | .error f => some (.ofFault (joinBreaks source) f)

end Stylebook
