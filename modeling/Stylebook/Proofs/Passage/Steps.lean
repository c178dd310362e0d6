import Mathlib
import Stylebook.Passage
import Stylebook.Proofs.Text.Cuts

/-!
# Steps of a scan

Equations for the readers of comments and declarations, the rules by which a scan moves on, and
equations for a scan by its first step.
-/

namespace Stylebook

open Text

variable {waiting w found : Option (List Char)} {c : Char} {l r s rest : List Char} {f : Fault}

namespace Passage

lemma docContent_suffix (s : List Char) : docContent s <:+ s :=
  (skipSpaces_suffix _).trans (List.dropWhile_suffix _)

lemma readRun_of_not_opens (h : opensDocLine s = false) : readRun s = ([], s) := by
  rw [readRun, dif_neg (by simp [h])]

lemma readRun_of_opens (h : opensDocLine s = true) :
    readRun s =
      (line (docContent s) ++ '\n' :: (readRun (skipSpaces (nextLine (docContent s)))).1,
        (readRun (skipSpaces (nextLine (docContent s)))).2) := by
  rw [readRun, dif_pos h]

/-- A star that a slash follows closes a block comment. -/
lemma readBlock_of_closed {body : List Char} (h : cutAt? (· == '*') s = some (body, '/' :: rest)) :
    readBlock s = .ok (body ++ line rest ++ ['\n'], nextLine rest) := by
  rw [readBlock]
  split
  · simp_all
  · simp_all
  · simp_all

/-- Any other star is part of the comment. -/
lemma readBlock_of_star {body : List Char} (h : cutAt? (· == '*') s = some (body, rest))
    (hslash : rest.head? ≠ some '/') :
    readBlock s = (readBlock rest).map fun p => (body ++ '*' :: p.1, p.2) := by
  rw [readBlock]
  split
  · simp_all
  · rename_i heq
    rw [h] at heq
    cases heq
    exact absurd rfl hslash
  · rename_i heq
    rw [h] at heq
    cases heq
    cases readBlock rest <;> rfl

/-- A block comment goes on to the first star that a slash follows. -/
lemma readBlock_append_close {body : List Char} (h : ¬ ['*', '/'] <:+: body) (r : List Char) :
    readBlock (body ++ '*' :: '/' :: r) = .ok (body ++ line r ++ ['\n'], nextLine r) := by
  -- The body shrinks by what stands before its first star, and by the star.
  induction hlength : body.length using Nat.strong_induction_on generalizing body with
  | _ n ih =>
    by_cases hstar : '*' ∈ body
    · obtain ⟨a, b, rfl, ha⟩ := List.eq_append_cons_of_mem hstar
      have hb : ¬ ['*', '/'] <:+: b := fun hpart =>
        h (hpart.trans ((List.suffix_cons _ b).trans (List.suffix_append a _)).isInfix)
      have hslash : (b ++ '*' :: '/' :: r).head? ≠ some '/' := by
        cases b with
        | nil => simp
        | cons y b =>
          rintro ⟨rfl⟩
          exact h ⟨a, b, by simp⟩
      have hlt : b.length < n := by
        simp only [List.length_append, List.length_cons] at hlength
        omega
      rw [List.append_assoc, List.cons_append, readBlock_of_star (cutAt?_append_char ha _) hslash,
        ih b.length hlt hb rfl]
      simp [Except.map]
    · exact readBlock_of_closed (cutAt?_append_char hstar _)

/-- A declaration that does not open a variable is a line. -/
lemma readDeclaration_line (hc : c ≠ '$') (hl : '\n' ∉ l) (r : List Char) :
    readDeclaration c (l ++ '\n' :: r) = .ok (c :: l, r) := by
  rw [readDeclaration, if_neg hc, line_append_break hl, nextLine_append_break hl]

/-- The declaration of a variable that ends on its first line is that line. -/
lemma readDeclaration_var (hl : '\n' ∉ l) (hsemicolon : ';' ∈ l) (r : List Char) :
    readDeclaration '$' (l ++ '\n' :: r) = .ok ('$' :: l, r) := by
  obtain ⟨a, b, rfl, ha⟩ := List.eq_append_cons_of_mem hsemicolon
  have hb : '\n' ∉ b := fun hm => hl (by simp [hm])
  rw [readDeclaration, if_pos rfl, List.append_assoc, List.cons_append,
    cutAt?_append_char ha]
  simp only [line_append_break hb, nextLine_append_break hb, List.cons_append]

/-- The declaration of a variable goes on to its first semicolon, and then to the end of the
line. -/
lemma readDeclaration_value {value : List Char} (hvalue : ';' ∉ value) (hl : '\n' ∉ l)
    (r : List Char) :
    readDeclaration '$' (value ++ ';' :: (l ++ '\n' :: r)) =
      .ok ('$' :: (value ++ ';' :: l), r) := by
  rw [readDeclaration, if_pos rfl, cutAt?_append_char hvalue]
  simp only [line_append_break hl, nextLine_append_break hl, List.cons_append]

/-! ### Rules -/

/-- The rules by which a scan moves on, one for each way in which a text without spaces in front
can begin: the comments that wait, the text, the comments that wait then, the passage that was
found, and the text that is left. -/
inductive Move : Option (List Char) → List Char → Option (List Char) → Option (List Char) →
    List Char → Prop where
  | lineBreak (waiting : Option (List Char)) (r : List Char) :
      Move waiting ('\n' :: r) waiting none r
  | block (waiting : Option (List Char)) {r body rest : List Char}
      (h : readBlock r = .ok (body, rest)) :
      Move waiting ('/' :: '*' :: r) (some (waiting.getD [] ++ body)) none rest
  | run (waiting : Option (List Char)) {s : List Char} (h : opensDocLine s = true) :
      Move waiting s (some (waiting.getD [] ++ (readRun s).1)) none (readRun s).2
  | remark (waiting : Option (List Char)) {r : List Char}
      (h : opensDocLine ('/' :: '/' :: r) = false) :
      Move waiting ('/' :: '/' :: r) none none (nextLine r)
  | line {c : Char} (r : List Char) (hslash : c ≠ '/') (hbreak : c ≠ '\n') :
      Move none (c :: r) none none (nextLine r)
  | declaration (comments : List Char) {c : Char} {r declaration rest : List Char}
      (hslash : c ≠ '/') (hbreak : c ≠ '\n') (h : readDeclaration c r = .ok (declaration, rest)) :
      Move (some comments) (c :: r) none (some (comments ++ declaration ++ ['\n'])) rest

/-- What begins with neither a slash nor a line break is a declaration if comments wait, and a line
to pass over otherwise. -/
lemma step_of_ne (ht : skipSpaces s = c :: r) (hslash : c ≠ '/') (hbreak : c ≠ '\n') :
    step waiting s = match waiting with
      | none => .moved none none (nextLine r)
      | some comments =>
        match readDeclaration c r with
        | .ok (declaration, rest) => .moved none (some (comments ++ declaration ++ ['\n'])) rest
        | .error f => .failed f := by
  rw [step, ht]
  split
  next heq => cases heq
  next heq => exact absurd (List.cons.inj heq).1 hbreak
  next heq => exact absurd (List.cons.inj heq).1 hslash
  next heq => exact absurd (List.cons.inj heq).1 hslash
  next heq => exact absurd (List.cons.inj heq).1 hslash
  next heq =>
    cases heq
    rfl

/-- The rules are all that a step can do without ending the scan. -/
lemma step_eq_moved_iff :
    step waiting s = .moved w found rest ↔ Move waiting (skipSpaces s) w found rest := by
  constructor
  · intro h
    unfold step at h
    generalize skipSpaces s = t at h ⊢
    split at h
    · cases h
    · cases h
      exact .lineBreak _ _
    · split at h
      · rename_i hread
        cases h
        exact .block _ hread
      · cases h
    · split at h
      · rename_i hopen
        cases h
        exact .run _ hopen
      · rename_i hopen
        cases h
        exact .remark _ (by simpa using hopen)
    · cases h
    · rename_i c r hbreak _ _ hslash
      split at h
      · cases h
        exact .line r hslash hbreak
      · split at h
        · rename_i hread
          cases h
          exact .declaration _ hslash hbreak hread
        · cases h
  · intro h
    generalize ht : skipSpaces s = t at h
    cases h with
    | lineBreak =>
      rw [step, ht]
      rfl
    | block _ hread =>
      rw [step, ht]
      simp only [hread]
    | run _ hopen =>
      rw [step, ht]
      unfold opensDocLine at hopen
      split at hopen
      · rfl
      · cases hopen
    | remark _ hopen =>
      rw [step, ht]
      simp [hopen]
    | line r hslash hbreak => rw [step_of_ne ht hslash hbreak]
    | declaration _ hslash hbreak hread =>
      rw [step_of_ne ht hslash hbreak]
      simp only [hread]

lemma step_eq_done_iff : step waiting s = .done ↔ skipSpaces s = [] := by
  unfold step
  generalize skipSpaces s = t
  constructor
  · intro h
    split at h
    · rfl
    · cases h
    · split at h <;> cases h
    · split at h <;> cases h
    · cases h
    · split at h
      · cases h
      · split at h <;> cases h
  · rintro rfl
    rfl

/-- A run of documentation lines joins the comments that wait. -/
lemma step_docLine (h : opensDocLine s = true) :
    step waiting s = .moved (some (waiting.getD [] ++ (readRun s).1)) none (readRun s).2 := by
  unfold opensDocLine at h
  split at h
  · rename_i r
    rw [step, skipSpaces_cons (by decide)]
    simp [opensDocLine]
  · cases h

/-- Anything that is neither a comment nor a line break is a declaration if comments wait. -/
lemma step_declaration {comments declaration : List Char} (hslash : c ≠ '/') (hbreak : c ≠ '\n')
    (hspace : isSpaceOrTab c = false) (h : readDeclaration c s = .ok (declaration, rest)) :
    step (some comments) (c :: s) =
      .moved none (some (comments ++ declaration ++ ['\n'])) rest := by
  rw [step_of_ne (skipSpaces_cons hspace) hslash hbreak]
  simp only [h]

end Passage

lemma Scan.run_of_moved (h : Passage.step waiting s = .moved w found rest) :
    Scan.run waiting s =
      ⟨found.toList ++ (Scan.run w rest).passages, (Scan.run w rest).ending⟩ := by
  rw [Scan.run]
  split
  · simp_all
  · simp_all
  · rename_i heq
    rw [h] at heq
    cases heq
    rfl

lemma Scan.run_of_move (h : Passage.Move waiting (skipSpaces s) w found rest) :
    Scan.run waiting s =
      ⟨found.toList ++ (Scan.run w rest).passages, (Scan.run w rest).ending⟩ :=
  Scan.run_of_moved (Passage.step_eq_moved_iff.2 h)

lemma Scan.run_of_quiet_move (h : Passage.Move waiting (skipSpaces s) w none rest) :
    Scan.run waiting s = Scan.run w rest :=
  Scan.run_of_move h

lemma Scan.run_congr (h : Passage.step waiting s = Passage.step waiting r) :
    Scan.run waiting s = Scan.run waiting r := by
  rw [Scan.run.eq_def waiting s, Scan.run.eq_def waiting r]
  split <;> split <;> simp_all

@[simp] lemma Scan.run_skipSpaces (waiting : Option (List Char)) (s : List Char) :
    Scan.run waiting (skipSpaces s) = Scan.run waiting s := by
  apply Scan.run_congr
  unfold Passage.step
  rw [skipSpaces_skipSpaces]

/-- Documentation lines that are read in one run could as well be read one by one. -/
lemma Scan.run_docLine (h : Passage.opensDocLine s = true) (waiting : Option (List Char)) :
    Scan.run waiting s =
      Scan.run (some (waiting.getD [] ++ (line (Passage.docContent s) ++ ['\n'])))
        (nextLine (Passage.docContent s)) := by
  have hrun {t : List Char} (ht : Passage.opensDocLine t = true) (w : Option (List Char)) :
      Scan.run w t =
        Scan.run (some (w.getD [] ++ (Passage.readRun t).1)) (Passage.readRun t).2 :=
    Scan.run_of_moved (Passage.step_docLine ht)
  rw [hrun h, Passage.readRun_of_opens h, ← Scan.run_skipSpaces _ (nextLine (Passage.docContent s))]
  generalize skipSpaces (nextLine (Passage.docContent s)) = t
  by_cases ht : Passage.opensDocLine t = true
  · rw [hrun ht]
    simp
  · rw [Passage.readRun_of_not_opens (by simpa using ht)]

@[simp] lemma Scan.run_nil (waiting : Option (List Char)) :
    Scan.run waiting [] = ⟨[], .ok waiting⟩ := by
  rw [Scan.run]
  rfl

end Stylebook
