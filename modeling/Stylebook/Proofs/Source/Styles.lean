import Mathlib
import Stylebook.Proofs.Item.Merge
import Stylebook.Proofs.Passage.Segments
import Stylebook.Proofs.Source.RoundTrip

/-!
# Styles of comments

Documentation can be written as documentation lines, or as a block comment with a star in front of
each line. A scan drops the marks of the first style and keeps the stars of the second, so the
passages of the two differ. Reading a passage passes over such marks between two lines, and it is
between two lines wherever a line that can be read on its own ends. So both styles document alike.
-/

namespace Stylebook

open Text

variable {l r s d p : List Char} {lines : List (List Char)} {item : Item} {c : Char}

/-! ### Two styles -/

/-- A line of a block comment, with a star in front. -/
def starLine (l : List Char) : List Char :=
  ' ' :: '*' :: ' ' :: (l ++ ['\n'])

/-- A declaration below documentation lines. -/
def lineStyle (lines : List (List Char)) (d : List Char) : List Char :=
  lines.flatMap docLine ++ (d ++ ['\n'])

/-- A declaration below a block comment. -/
def blockStyle (lines : List (List Char)) (d : List Char) : List Char :=
  '/' :: '*' :: '*' :: '\n' ::
    (lines.flatMap starLine ++ ' ' :: '*' :: '/' :: '\n' :: (d ++ ['\n']))

/-- A line that either style can hold and that can be read on its own. -/
@[mk_iff]
structure CanDocument (l : List Char) : Prop where
  no_break : '\n' ∉ l
  no_return : '\r' ∉ l
  no_close : ¬ ['*', '/'] <:+: l
  readable : (Item.ofPassage (l ++ ['\n'])).isOk = true

instance (l : List Char) : Decidable (CanDocument l) :=
  decidable_of_iff' _ (canDocument_iff l)

/-- A line that is taken as a declaration, and as a whole, if comments stand above it. -/
@[mk_iff]
structure CanBeDocumented (d : List Char) : Prop where
  no_break : '\n' ∉ d
  no_return : '\r' ∉ d
  opens : (d.head?.any fun c => !isSpaceOrTab c && c != '/') = true
  terminated : d.head? = some '$' → ';' ∈ d

instance (d : List Char) : Decidable (CanBeDocumented d) :=
  decidable_of_iff' _ (canBeDocumented_iff d)

/-! ### Scanning -/

lemma skipSpaces_append_break (l r : List Char) :
    skipSpaces (l ++ '\n' :: r) = skipSpaces l ++ '\n' :: r := by
  rw [skipSpaces, List.dropWhile_append]
  split
  · rename_i hempty
    rw [skipSpaces, List.isEmpty_iff.1 hempty]
    exact skipSpaces_cons (by decide)
  · rfl

/-- A documentation line adds its content to the comments that wait, without the spaces in front. -/
lemma Scan.run_docLine_append (hl : '\n' ∉ l) (waiting : Option (List Char)) (r : List Char) :
    run waiting (docLine l ++ r) =
      run (some (waiting.getD [] ++ (skipSpaces l ++ ['\n']))) r := by
  have htext : docLine l ++ r = '/' :: '/' :: '/' :: ' ' :: (l ++ '\n' :: r) := by simp [docLine]
  have hcontent : Passage.docContent ('/' :: '/' :: '/' :: ' ' :: (l ++ '\n' :: r)) =
      skipSpaces l ++ '\n' :: r := skipSpaces_append_break l r
  have hskipped : '\n' ∉ skipSpaces l := fun hmem => hl ((skipSpaces_suffix l).subset hmem)
  rw [htext, run_docLine rfl, hcontent, line_append_break hskipped,
    nextLine_append_break hskipped]

lemma Scan.run_docLines_append (h : ∀ l ∈ lines, '\n' ∉ l) (comments r : List Char) :
    run (some comments) (lines.flatMap docLine ++ r) =
      run (some (comments ++ lines.flatMap fun l => skipSpaces l ++ ['\n'])) r := by
  induction lines generalizing comments with
  | nil => simp
  | cons l lines ih =>
    rw [List.forall_mem_cons] at h
    rw [List.flatMap_cons, List.append_assoc, run_docLine_append h.1, ih h.2]
    simp

/-- A declaration below comments is a passage with them. -/
lemma CanBeDocumented.run (h : CanBeDocumented d) (comments : List Char) :
    Scan.run (some comments) (d ++ ['\n']) = ⟨[comments ++ d ++ ['\n']], .ok none⟩ := by
  obtain ⟨c, hhead, hopens⟩ := (Option.any_eq_true _ _).1 h.opens
  obtain ⟨d, rfl⟩ := List.head?_eq_some_iff.1 hhead
  obtain ⟨hspace, hslash⟩ : isSpaceOrTab c = false ∧ c ≠ '/' := by simpa using hopens
  have hbreak : c ≠ '\n' := fun hc => h.no_break (by simp [hc])
  have hd : '\n' ∉ d := fun hmem => h.no_break (List.mem_cons_of_mem _ hmem)
  have hread : Passage.readDeclaration c (d ++ ['\n']) = .ok (c :: d, []) := by
    by_cases hc : c = '$'
    · subst hc
      have hsemicolon : ';' ∈ d := by simpa using h.terminated rfl
      exact Passage.readDeclaration_var hd hsemicolon []
    · exact Passage.readDeclaration_line hc hd []
  rw [List.cons_append, Segment.run_documented hspace hbreak hslash hread, Scan.run_nil]

/-! ### Marks that close no comment -/

lemma not_close_append_cons (ha : ¬ ['*', '/'] <:+: l) (hb : ¬ ['*', '/'] <:+: r) (hstar : c ≠ '*')
    (hslash : c ≠ '/') : ¬ ['*', '/'] <:+: l ++ c :: r := by
  induction l with
  | nil =>
    rw [List.nil_append, List.infix_cons_iff, List.cons_prefix_cons]
    rintro (⟨hc, -⟩ | hclose)
    · exact hstar hc.symm
    · exact hb hclose
  | cons x l ih =>
    rw [List.infix_cons_iff, not_or] at ha
    rw [List.cons_append, List.infix_cons_iff]
    rintro (hclose | hclose)
    · -- A slash behind the star `x` can only be the first character of `l`, or `c`.
      cases l with
      | nil => simp [hslash.symm] at hclose
      | cons y l => exact ha.1 (by simpa using hclose)
    · exact ih ha.2 hclose

lemma not_close_flatMap_starLine (h : ∀ l ∈ lines, ¬ ['*', '/'] <:+: l) :
    ¬ ['*', '/'] <:+: lines.flatMap starLine ++ [' '] := by
  induction lines with
  | nil => decide
  | cons l lines ih =>
    rw [List.forall_mem_cons] at h
    have htext : (l :: lines).flatMap starLine ++ [' '] =
        [' ', '*'] ++ ' ' :: (l ++ '\n' :: (lines.flatMap starLine ++ [' '])) := by
      simp [starLine]
    rw [htext]
    have hrest := not_close_append_cons h.1 (ih h.2) (c := '\n') (by decide) (by decide)
    exact not_close_append_cons (by decide) hrest (by decide) (by decide)

/-! ### Reading -/

namespace Item

lemma readOn_passedOver (h : p.all isPassedOver = true) (item : Item) (s : List Char) :
    readOn item (p ++ s) = readOn item s := by
  induction p with
  | nil => rfl
  | cons x p ih =>
    rw [List.all_cons, Bool.and_eq_true] at h
    have hstep : step item x (p ++ s) = .ok (item, p ++ s) := by simp [step, h.1]
    rw [List.cons_append, readOn_of_step hstep, ih h.2]

lemma readOn_skipSpaces (item : Item) (s : List Char) :
    readOn item (skipSpaces s) = readOn item s := by
  have hpassed : (s.takeWhile isSpaceOrTab).all isPassedOver = true := by
    rw [List.all_eq_true]
    intro x hx
    simp [isPassedOver, isWordEnd_of_isSpaceOrTab (List.mem_takeWhile_imp hx)]
  have hs := readOn_passedOver hpassed item (skipSpaces s)
  rw [skipSpaces, List.takeWhile_append_dropWhile] at hs
  exact hs.symm

lemma isOk_ofPassage_iff : (ofPassage p).isOk = true ↔ ∃ item, readOn {} p = .ok item := by
  unfold ofPassage
  cases readOn {} p <;> simp [Except.isOk, Except.toBool]

/-- A line that can be read on its own is read as a whole, whatever was read before it. -/
lemma readOn_line_append (hl : (ofPassage (l ++ ['\n'])).isOk = true)
    (hitem : item.isSigned = false) :
    ∃ a, ∀ q, readOn item (l ++ '\n' :: q) = if a.isSigned then .ok a else readOn a q := by
  obtain ⟨b, hb⟩ := isOk_ofPassage_iff.1 hl
  have hmerge : readOn item (l ++ ['\n']) = .ok (item.merge b) := by
    have h := readOn_merge hitem (b := {}) rfl (l ++ ['\n'])
    rwa [merge_empty, hb] at h
  have hwhole : IsWhole (l ++ ['\n']) := Or.inr (by simp [EndsLine])
  refine ⟨item.merge b, fun q => ?_⟩
  rw [List.append_cons, readOn_append hwhole hitem hmerge]

/-- Lines that can be read on their own can be written in any way that leaves nothing but marks to
pass over in front of them. -/
lemma readOn_flatMap_congr {f g : List Char → List Char}
    (hf : ∀ item l q, readOn item (f l ++ q) = readOn item (l ++ '\n' :: q))
    (hg : ∀ item l q, readOn item (g l ++ q) = readOn item (l ++ '\n' :: q))
    (hlines : ∀ l ∈ lines, (ofPassage (l ++ ['\n'])).isOk = true) (hitem : item.isSigned = false)
    {q q' : List Char} (hq : ∀ item, readOn item q = readOn item q') :
    readOn item (lines.flatMap f ++ q) = readOn item (lines.flatMap g ++ q') := by
  induction lines generalizing item with
  | nil => exact hq item
  | cons l lines ih =>
    rw [List.forall_mem_cons] at hlines
    obtain ⟨a, ha⟩ := readOn_line_append hlines.1 hitem
    simp only [List.flatMap_cons, List.append_assoc, hf, hg, ha]
    cases hsigned : a.isSigned with
    | true => rfl
    | false => exact ih hlines.2 hsigned

lemma readOn_skipped_append (item : Item) (l q : List Char) :
    readOn item (skipSpaces l ++ ['\n'] ++ q) = readOn item (l ++ '\n' :: q) := by
  rw [← List.append_cons, ← skipSpaces_append_break, readOn_skipSpaces]

lemma readOn_starLine_append (item : Item) (l q : List Char) :
    readOn item (starLine l ++ q) = readOn item (l ++ '\n' :: q) := by
  have htext : starLine l ++ q = [' ', '*', ' '] ++ (l ++ '\n' :: q) := by simp [starLine]
  rw [htext]
  exact readOn_passedOver (by decide) item _

end Item

/-! ### Both styles -/

/-- What a source gives, without the places of errors. -/
def unplaced (result : Except ParseError (List Item)) :
    Except (ParseError.Kind × String) (List Item) :=
  result.mapError fun e => (e.kind, e.text)

/-- A source with one passage gives the item of it, or nothing if it documents none. -/
lemma parseSource_of_passage {waiting : Option (List Char)}
    (h : Scan.ofSource s = ⟨[p], .ok waiting⟩) :
    parseSource s =
      (Item.ofPassage p).map fun item => if item.isDocumented then [item] else [] := by
  rw [parseSource, Reading.ofSource, h]
  simp only [Scan.error?, Reading.ofPassages]
  cases Item.ofPassage p with
  | error e => rfl
  | ok item =>
    simp only [Except.map]
    split <;> rfl

lemma unplaced_parseSource_congr {s' p' : List Char} {waiting waiting' : Option (List Char)}
    (h : Scan.ofSource s = ⟨[p], .ok waiting⟩) (h' : Scan.ofSource s' = ⟨[p'], .ok waiting'⟩)
    (hread : Item.readOn {} p = Item.readOn {} p') :
    unplaced (parseSource s) = unplaced (parseSource s') := by
  rw [parseSource_of_passage h, parseSource_of_passage h', Item.ofPassage, Item.ofPassage, hread]
  cases Item.readOn {} p' <;> rfl

lemma ofSource_lineStyle (hne : lines ≠ []) (hlines : ∀ l ∈ lines, CanDocument l)
    (hd : CanBeDocumented d) :
    Scan.ofSource (lineStyle lines d) =
      ⟨[(lines.flatMap fun l => skipSpaces l ++ ['\n']) ++ d ++ ['\n']], .ok none⟩ := by
  have hreturn : '\r' ∉ lineStyle lines d := by
    simp only [lineStyle, docLine, List.mem_append, List.mem_flatMap, List.mem_cons,
      List.not_mem_nil, not_or, not_exists, not_and, or_false]
    exact ⟨fun l hl => by simp [(hlines l hl).no_return], hd.no_return, by decide⟩
  obtain ⟨l, lines, rfl⟩ := List.exists_cons_of_ne_nil hne
  rw [List.forall_mem_cons] at hlines
  rw [Scan.ofSource, joinBreaks_of_not_mem hreturn, lineStyle, List.flatMap_cons, List.append_assoc,
    Scan.run_docLine_append hlines.1.no_break,
    Scan.run_docLines_append fun l hl => (hlines.2 l hl).no_break, hd.run]
  simp

lemma ofSource_blockStyle (hlines : ∀ l ∈ lines, CanDocument l) (hd : CanBeDocumented d) :
    Scan.ofSource (blockStyle lines d) =
      ⟨[['*', '\n'] ++ (lines.flatMap starLine ++ ([' ', '\n'] ++ (d ++ ['\n'])))], .ok none⟩ := by
  have hreturn : '\r' ∉ blockStyle lines d := by
    simp only [blockStyle, starLine, List.mem_append, List.mem_flatMap, List.mem_cons,
      List.not_mem_nil, not_or, not_exists, not_and, or_false]
    refine ⟨by decide, by decide, by decide, by decide, fun l hl => ?_, by decide, by decide,
      by decide, by decide, hd.no_return, by decide⟩
    simp [(hlines l hl).no_return]
  have hclose : ¬ ['*', '/'] <:+: ['*'] ++ '\n' :: (lines.flatMap starLine ++ [' ']) :=
    not_close_append_cons (by decide)
      (not_close_flatMap_starLine fun l hl => (hlines l hl).no_close) (by decide) (by decide)
  have htext : blockStyle lines d = '/' :: '*' :: (['*'] ++ '\n' ::
      (lines.flatMap starLine ++ [' ']) ++ '*' :: '/' :: '\n' :: (d ++ ['\n'])) := by
    simp [blockStyle]
  rw [Scan.ofSource, joinBreaks_of_not_mem hreturn, htext, Segment.run_block hclose, hd.run]
  simp

/-- A declaration below documentation lines and the same declaration below a block comment of the
same lines give the same items, or they fail for the same reason. -/
theorem parseSource_lineStyle_blockStyle (lines : List (List Char)) (d : List Char)
    (hne : lines ≠ []) (hlines : ∀ l ∈ lines, CanDocument l) (hd : CanBeDocumented d) :
    unplaced (parseSource (lineStyle lines d)) = unplaced (parseSource (blockStyle lines d)) := by
  refine unplaced_parseSource_congr (ofSource_lineStyle hne hlines hd)
    (ofSource_blockStyle hlines hd) ?_
  have hclosing : ∀ item, Item.readOn item (d ++ ['\n']) =
      Item.readOn item ([' ', '\n'] ++ (d ++ ['\n'])) := fun item =>
    (Item.readOn_passedOver (by decide) item _).symm
  rw [Item.readOn_passedOver (p := ['*', '\n']) (by decide), List.append_assoc]
  exact Item.readOn_flatMap_congr Item.readOn_skipped_append Item.readOn_starLine_append
    (fun l hl => (hlines l hl).readable) rfl hclosing

/-- Lines with stars and slashes of their own, a tag, and an empty line. -/
def roundingLines : List (List Char) :=
  ["Rounds *half* up", "  /// to a step", "@param \x7bnumber\x7d $n (1) - what", "",
    "* @since 2"].map String.toList

/-- The marks in front of the lines are passed over in both styles, and an unknown tag in place of a
declaration is found in both. -/
theorem parseSource_lineStyle_blockStyle_roundingLines :
    let signature := "@function round-to($n) \x7b".toList
    let rule := "@include base;".toList
    roundingLines ≠ [] ∧ (∀ l ∈ roundingLines, CanDocument l) ∧ CanBeDocumented signature ∧
      CanBeDocumented rule ∧
      unplaced (parseSource (blockStyle roundingLines signature)) =
        .ok [{ name := "round-to"
               kind := some .function
               description := some "Rounds *half* up\nto a step"
               parameters := [⟨["number"], "n", "1", "what"⟩]
               since := some "2" }] ∧
      unplaced (parseSource (blockStyle roundingLines rule)) =
        .error (.unknownTag, "unknown annotation @include") := by
  intro signature rule
  have hne : roundingLines ≠ [] := by decide
  have hlines : ∀ l ∈ roundingLines, CanDocument l := by decide +kernel
  have hsignature : CanBeDocumented signature := by decide +kernel
  have hrule : CanBeDocumented rule := by decide +kernel
  refine ⟨hne, hlines, hsignature, hrule, ?_, ?_⟩
  · rw [← parseSource_lineStyle_blockStyle _ _ hne hlines hsignature]
    decide +kernel
  · rw [← parseSource_lineStyle_blockStyle _ _ hne hlines hrule]
    decide +kernel

end Stylebook
