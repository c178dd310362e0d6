import Mathlib
import Stylebook.Proofs.Passage.Steps

/-!
# Passages are parts of their source

The readers of comments and declarations leave characters out, above all the marks of comments, and
put back a line break at the end of each line. As long as some text is left behind it, that break
is one of the source. So the passages of a source are parts of it, in order and without overlap, if
one line break is added at its end.
-/

namespace Stylebook

open Text
open scoped List

variable {waiting w found : Option (List Char)} {c : Char} {r s t rest : List Char}

namespace Passage

/-! ### What a reader takes -/

lemma append_sublist_of_readBlock {body : List Char} (h : readBlock s = .ok (body, rest))
    (hrest : rest ≠ []) : body ++ rest <+ s := by
  fun_induction readBlock s generalizing body rest with
  | case1 => cases h
  | case2 s body r hcut =>
    cases h
    obtain ⟨rfl, -⟩ := eq_append_of_cutAt? hcut
    rw [List.append_assoc, List.append_assoc, List.singleton_append, line_append_nextLine hrest]
    -- The star and the slash that close the comment are left out.
    exact (((List.Sublist.refl r).cons '/').cons '*').append_left body
  | case3 s body r _ hcut more left hread ih =>
    cases h
    obtain ⟨rfl, -⟩ := eq_append_of_cutAt? hcut
    rw [List.append_assoc, List.cons_append]
    exact ((ih hread hrest).cons_cons '*').append_left body
  | case4 => cases h

lemma readRun_sublist (hrest : (readRun s).2 ≠ []) : (readRun s).1 ++ (readRun s).2 <+ s := by
  induction s using readRun.induct with
  | case1 s hopen content more rest _ ih =>
    rw [readRun_of_opens hopen] at hrest ⊢
    have hmore := (ih hrest).trans (skipSpaces_suffix _).sublist
    -- Something is left after this line, so its break is one of the source.
    have hnext : nextLine (docContent s) ≠ [] := by
      intro hnil
      have hempty : nextLine (docContent s) <+ [] := by rw [hnil]
      exact hrest (List.append_eq_nil_iff.1 (List.sublist_nil.1 (hmore.trans hempty))).2
    have hline := (hmore.cons_cons '\n').append_left (line (docContent s))
    rw [line_append_nextLine hnext] at hline
    rw [List.append_assoc, List.cons_append]
    exact hline.trans (docContent_suffix s).sublist
  | case2 s hopen =>
    rw [readRun_of_not_opens (by simpa using hopen), List.nil_append]

/-- A declaration takes some text and then the rest of a line. -/
lemma exists_of_readDeclaration {declaration : List Char}
    (h : readDeclaration c s = .ok (declaration, rest)) :
    ∃ value r, s = value ++ r ∧ declaration = c :: (value ++ line r) ∧ rest = nextLine r := by
  unfold readDeclaration at h
  split at h
  · split at h
    · cases h
    · rename_i value r hcut
      cases h
      obtain ⟨rfl, -⟩ := eq_append_of_cutAt? hcut
      exact ⟨value ++ [';'], r, by simp, by simp, rfl⟩
  · cases h
    exact ⟨[], s, rfl, rfl, rfl⟩

/-! ### Moves and scans -/

/-- A move that leaves some text takes the passage and the comments from what was there. -/
lemma Move.append_sublist (h : Move waiting t w found rest) (hrest : rest ≠ []) :
    found.getD [] ++ (w.getD [] ++ rest) <+ waiting.getD [] ++ t := by
  cases h with
  | lineBreak => simp
  | block _ hread =>
    have hbody := append_sublist_of_readBlock hread hrest
    simpa using (hbody.cons '*').cons '/'
  | run _ hopen => simpa using readRun_sublist hrest
  | @remark _ r =>
    have hnext : nextLine r <+ r := (nextLine_suffix r).sublist
    exact ((hnext.cons '/').cons '/').trans (List.sublist_append_right _ _)
  | line r => exact (nextLine_suffix r).sublist.cons _
  | declaration comments _ _ hread =>
    obtain ⟨value, r, rfl, rfl, rfl⟩ := exists_of_readDeclaration hread
    simp [line_append_nextLine hrest]

/-- A move to the end of the source takes the passage from what was there and a line break. -/
lemma Move.found_sublist (h : Move waiting t w found rest) :
    found.getD [] <+ waiting.getD [] ++ (t ++ ['\n']) := by
  cases h with
  | declaration comments _ _ hread =>
    obtain ⟨value, r, rfl, rfl, -⟩ := exists_of_readDeclaration hread
    simpa using line_sublist r
  | _ => exact List.nil_sublist _

lemma Move.endsLine (h : Move waiting t w found rest) : ∀ p ∈ found, EndsLine p := by
  cases h with
  | declaration => simp [EndsLine]
  | _ => simp

end Passage

namespace Scan

lemma flatten_passages_run_sublist (waiting : Option (List Char)) (s : List Char) :
    (run waiting s).passages.flatten <+ waiting.getD [] ++ (s ++ ['\n']) := by
  fun_induction run waiting s with
  | case1 | case2 => exact List.nil_sublist _
  | case3 waiting s w found rest hstep more ih =>
    have hmove := Passage.step_eq_moved_iff.1 hstep
    have hs : waiting.getD [] ++ (skipSpaces s ++ ['\n']) <+ waiting.getD [] ++ (s ++ ['\n']) :=
      ((skipSpaces_suffix s).sublist.append_right _).append_left _
    have hflatten : (found.toList ++ more.passages).flatten =
        found.getD [] ++ more.passages.flatten := by
      cases found <;> simp
    rw [hflatten]
    refine List.Sublist.trans ?_ hs
    by_cases hrest : rest = []
    · -- Comments that wait at the end of the source are dropped, with the breaks added to them.
      have hmore : more.passages = [] := by simp [more, hrest]
      simpa [hmore] using hmove.found_sublist
    · calc found.getD [] ++ more.passages.flatten
        _ <+ found.getD [] ++ (w.getD [] ++ (rest ++ ['\n'])) := ih.append_left _
        _ = (found.getD [] ++ (w.getD [] ++ rest)) ++ ['\n'] := by simp
        _ <+ (waiting.getD [] ++ skipSpaces s) ++ ['\n'] :=
          (hmove.append_sublist hrest).append_right _
        _ = waiting.getD [] ++ (skipSpaces s ++ ['\n']) := List.append_assoc _ _ _

lemma endsLine_of_mem_passages_run (waiting : Option (List Char)) (s : List Char) :
    ∀ p ∈ (run waiting s).passages, EndsLine p := by
  fun_induction run waiting s with
  | case1 | case2 => simp
  | case3 waiting s w found rest hstep more ih =>
    have hmove := Passage.step_eq_moved_iff.1 hstep
    intro p hp
    rcases List.mem_append.1 hp with hp | hp
    · exact hmove.endsLine p (Option.mem_toList.1 hp)
    · exact ih p hp

/-- The passages of a source, one after the other, are what is left of the source and a line break
behind it when characters are taken out, and each passage ends with a line break. This holds whether
or not the scan comes to the end. -/
theorem flatten_passages_sublist (source : List Char) :
    (ofSource source).passages.flatten <+ joinBreaks source ++ ['\n'] ∧
      ∀ p ∈ (ofSource source).passages, EndsLine p :=
  ⟨flatten_passages_run_sublist none (joinBreaks source),
    endsLine_of_mem_passages_run none (joinBreaks source)⟩

/-- A comment with a star in it, and a declaration whose line does not end. -/
def starSource : List Char :=
  "/* a*b */\r\n$c: 1;".toList

/-- A passage, then a slash that opens no comment. -/
def slashSource : List Char :=
  "///d\ne\n/ f".toList

/-- The passage of the first source needs the added line break, that of the second is found although
the scan fails. -/
theorem flatten_passages_sublist_starSource :
    (ofSource starSource).passages = [" a*b \n$c: 1;\n".toList] ∧
      " a*b \n$c: 1;\n".toList <+ joinBreaks starSource ++ ['\n'] ∧
      EndsLine " a*b \n$c: 1;\n".toList ∧
      (ofSource slashSource).ending = .error ⟨.straySlash (some ' '), "/ f".toList⟩ ∧
      (ofSource slashSource).passages = ["d\ne\n".toList] ∧
      "d\ne\n".toList <+ joinBreaks slashSource ++ ['\n'] ∧ EndsLine "d\ne\n".toList := by
  have hstar : (ofSource starSource).passages = [" a*b \n$c: 1;\n".toList] := by decide +kernel
  have hslash : (ofSource slashSource).passages = ["d\ne\n".toList] := by decide +kernel
  obtain ⟨hpart, hends⟩ := flatten_passages_sublist starSource
  obtain ⟨hpart', hends'⟩ := flatten_passages_sublist slashSource
  rw [hstar, List.flatten_singleton] at hpart
  rw [hslash, List.flatten_singleton] at hpart'
  refine ⟨hstar, hpart, hends _ ?_, by decide +kernel, hslash, hpart', hends' _ ?_⟩
  · simp [hstar]
  · simp [hslash]

end Scan

end Stylebook
