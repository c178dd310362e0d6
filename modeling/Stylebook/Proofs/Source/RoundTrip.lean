import Mathlib
import Stylebook.Proofs.Item.Written
import Stylebook.Proofs.Passage.Steps
import Stylebook.Source

/-!
# Written sources

A source is written from items: the notes of each as a run of documentation lines, then its
declaration. Scanning a written source finds the passages of the items, and reading it gives the
items back, in order and without an error.
-/

namespace Stylebook

open Text

/-! ### Writing -/

/-- A line as a documentation line. -/
def docLine (l : List Char) : List Char :=
  '/' :: '/' :: '/' :: ' ' :: (l ++ ['\n'])

/-- Notes as documentation lines, one bare line if there are none. -/
def docLines (ns : List Note) : List Char :=
  if ns = [] then ['/', '/', '/', '\n'] else ns.flatMap fun n => docLine n.line

/-- An item as it is written in a source. -/
def Item.written (item : Item) (tail : List Char) : List Char :=
  docLines item.notes ++ (item.declaration tail ++ ['\n'])

/-- The source of some items, each with what follows the parenthesis in its signature. -/
def writtenSource (entries : List (Item × List Char)) : List Char :=
  entries.flatMap fun e => e.1.written e.2

/-- Items that can be written, with tails that stay on their lines. -/
def AreCanonical (entries : List (Item × List Char)) : Prop :=
  ∀ e ∈ entries, e.1.IsCanonical ∧ '\n' ∉ e.2

instance (entries : List (Item × List Char)) : Decidable (AreCanonical entries) :=
  inferInstanceAs (Decidable (∀ e ∈ entries, e.1.IsCanonical ∧ '\n' ∉ e.2))

variable {ns : List Note} {item : Item} {l r s tail : List Char}
  {entries : List (Item × List Char)}

/-! ### Documentation lines -/

/-- A text in front of which a run of documentation lines ends. -/
def EndsRun (s : List Char) : Prop :=
  skipSpaces s = s ∧ Passage.opensDocLine s = false

lemma opensDocLine_docLines (ns : List Note) (s : List Char) :
    Passage.opensDocLine (docLines ns ++ s) = true := by
  cases ns <;> rfl

/-- A documentation line gives its content, and the run goes on behind it. -/
lemma readRun_docLine (hbreak : '\n' ∉ l) (hl : skipSpaces (l ++ '\n' :: r) = l ++ '\n' :: r)
    (hr : skipSpaces r = r) :
    Passage.readRun (docLine l ++ r) =
      (l ++ '\n' :: (Passage.readRun r).1, (Passage.readRun r).2) := by
  have htext : docLine l ++ r = '/' :: '/' :: '/' :: ' ' :: (l ++ '\n' :: r) := by simp [docLine]
  have hcontent : Passage.docContent ('/' :: '/' :: '/' :: ' ' :: (l ++ '\n' :: r)) =
      l ++ '\n' :: r := hl
  rw [htext, Passage.readRun_of_opens rfl, hcontent, line_append_break hbreak,
    nextLine_append_break hbreak, hr]

lemma readRun_flatMap (h : ∀ n ∈ ns, n.IsCanonical) (hs : EndsRun s) :
    Passage.readRun (ns.flatMap (fun n => docLine n.line) ++ s) =
      (ns.flatMap fun n => n.line ++ ['\n'], s) := by
  induction ns with
  | nil => exact Passage.readRun_of_not_opens hs.2
  | cons n ns ih =>
    have hn := h n List.mem_cons_self
    have hns := ih fun m hm => h m (List.mem_cons_of_mem _ hm)
    have hskip : skipSpaces (ns.flatMap (fun n => docLine n.line) ++ s) =
        ns.flatMap (fun n => docLine n.line) ++ s := by
      cases ns with
      | nil => exact hs.1
      | cons m ns => exact skipSpaces_cons (by decide)
    rw [List.flatMap_cons, List.append_assoc,
      readRun_docLine (Note.isLine_line hn).1 (Note.skipSpaces_line hn _) hskip, hns]
    simp

/-- The documentation lines of an item give the first part of its passage. -/
lemma readRun_docLines (h : ∀ n ∈ ns, n.IsCanonical) (hs : EndsRun s) :
    Passage.readRun (docLines ns ++ s) =
      (if ns = [] then ['\n'] else ns.flatMap fun n => n.line ++ ['\n'], s) := by
  by_cases hns : ns = []
  · have hcontent : Passage.docContent ('/' :: '/' :: '/' :: '\n' :: s) = '\n' :: s := rfl
    have hbare : Passage.readRun ('/' :: '/' :: '/' :: '\n' :: s) = (['\n'], s) := by
      have hnext : nextLine ('\n' :: s) = s := rfl
      rw [Passage.readRun_of_opens rfl, hcontent, hnext, hs.1, Passage.readRun_of_not_opens hs.2]
      rfl
    simp only [docLines, hns, ↓reduceIte, List.cons_append, List.nil_append, hbare]
  · simp only [docLines, hns, ↓reduceIte, readRun_flatMap h hs]

/-! ### Declarations -/

/-- The declaration of a canonical item is one line that a scan takes whole. -/
lemma exists_declaration_eq_cons (h : item.IsCanonical) (ht : '\n' ∉ tail) :
    ∃ c l, item.declaration tail = c :: l ∧ '\n' ∉ l ∧ (c = '@' ∨ c = '$' ∧ ';' ∈ l) := by
  obtain ⟨kind, hkind⟩ := h.declared.exists_kind
  by_cases hvar : kind = .var
  · subst hvar
    obtain ⟨hname, ⟨v, hvalue, hv⟩, -⟩ := h.declared.var hkind
    have hnamebreak : '\n' ∉ item.name.toList := fun hm => absurd (hname _ hm) (by decide)
    exact ⟨'$', _, Item.declaration_var hkind hvalue tail,
      by simp [hnamebreak, hv.normal.not_mem_break], Or.inr ⟨rfl, by simp⟩⟩
  · obtain ⟨hn, -, -, -⟩ := h.declared.signature hkind hvar
    have hkeyword : '\n' ∉ kind.name.toList := by cases kind <;> decide
    exact ⟨'@', _, Item.declaration_signature hkind hvar tail,
      by simp [hkeyword, hn.not_mem_break, ht], Or.inl rfl⟩

/-- A scan takes a written item in two steps, its documentation lines and its declaration. -/
lemma run_written (h : item.IsCanonical) (ht : '\n' ∉ tail) (r : List Char) :
    Scan.run none (item.written tail ++ r) =
      ⟨item.passage tail :: (Scan.run none r).passages, (Scan.run none r).ending⟩ := by
  obtain ⟨c, l, hdeclaration, hl, hc⟩ := exists_declaration_eq_cons h ht
  have htext : item.written tail ++ r = docLines item.notes ++ (c :: (l ++ '\n' :: r)) := by
    simp [Item.written, hdeclaration]
  have hslash : c ≠ '/' := by rcases hc with rfl | ⟨rfl, -⟩ <;> decide
  have hbreak : c ≠ '\n' := by rcases hc with rfl | ⟨rfl, -⟩ <;> decide
  have hspace : isSpaceOrTab c = false := by rcases hc with rfl | ⟨rfl, -⟩ <;> decide
  have hends : EndsRun (c :: (l ++ '\n' :: r)) := by
    refine ⟨skipSpaces_cons hspace, ?_⟩
    unfold Passage.opensDocLine
    split
    · simp_all
    · rfl
  have hread : Passage.readDeclaration c (l ++ '\n' :: r) = .ok (c :: l, r) := by
    rcases hc with rfl | ⟨rfl, hsemicolon⟩
    · exact Passage.readDeclaration_line (by decide) hl r
    · exact Passage.readDeclaration_var hl hsemicolon r
  rw [htext, Scan.run_of_moved (Passage.step_docLine (opensDocLine_docLines _ _)),
    readRun_docLines h.notes hends,
    Scan.run_of_moved (Passage.step_declaration hslash hbreak hspace hread)]
  simp [Item.passage, hdeclaration]

/-- Scanning a written source finds the passages of its items. -/
lemma run_writtenSource (h : AreCanonical entries) :
    Scan.run none (writtenSource entries) =
      ⟨entries.map fun e => e.1.passage e.2, .ok none⟩ := by
  induction entries with
  | nil => exact Scan.run_nil none
  | cons e entries ih =>
    obtain ⟨hitem, htail⟩ := h e List.mem_cons_self
    have hentries := ih fun d hd => h d (List.mem_cons_of_mem _ hd)
    rw [writtenSource] at hentries ⊢
    rw [List.flatMap_cons, run_written hitem htail, hentries]
    rfl

/-! ### Carriage returns -/

lemma joinBreaks_docLine (hl : IsLine l) (r : List Char) :
    joinBreaks (docLine l ++ r) = docLine l ++ joinBreaks r := by
  have hline : IsLine ('/' :: '/' :: '/' :: ' ' :: l) := by
    refine ⟨by simp [hl.1], ?_⟩
    cases l with
    | nil => decide
    | cons x l => simpa using hl.2
  have htext (r : List Char) : docLine l ++ r = ('/' :: '/' :: '/' :: ' ' :: l) ++ '\n' :: r := by
    simp [docLine]
  rw [htext, htext, joinBreaks_append hline, joinBreaks_break]

lemma joinBreaks_docLines (h : ∀ n ∈ ns, n.IsCanonical) (r : List Char) :
    joinBreaks (docLines ns ++ r) = docLines ns ++ joinBreaks r := by
  by_cases hns : ns = []
  · simp only [docLines, hns, ↓reduceIte]
    rw [show ['/', '/', '/', '\n'] ++ r = ['/', '/', '/'] ++ '\n' :: r from rfl,
      joinBreaks_append ⟨by decide, by decide⟩, joinBreaks_break]
    rfl
  · simp only [docLines, hns, ↓reduceIte]
    clear hns
    induction ns with
    | nil => rfl
    | cons n ns ih =>
      have hn := h n List.mem_cons_self
      rw [List.flatMap_cons, List.append_assoc, joinBreaks_docLine (Note.isLine_line hn),
        ih fun m hm => h m (List.mem_cons_of_mem _ hm), List.append_assoc]

/-- Joining carriage returns with line breaks may take one from the tail of a signature, which is
not read anyway. -/
lemma exists_joinBreaks_declaration (h : item.IsDeclared) (ht : '\n' ∉ tail) (r : List Char) :
    ∃ tail', '\n' ∉ tail' ∧
      joinBreaks (item.declaration tail ++ '\n' :: r) =
        item.declaration tail' ++ '\n' :: joinBreaks r := by
  obtain ⟨kind, hkind⟩ := h.exists_kind
  by_cases hvar : kind = .var
  · subst hvar
    obtain ⟨hname, ⟨v, hvalue, hv⟩, -⟩ := h.var hkind
    have hline : IsLine (item.declaration tail) := by
      have hn : '\n' ∉ item.name.toList := fun hm => absurd (hname _ hm) (by decide)
      have hr : '\r' ∉ item.name.toList := fun hm => absurd (hname _ hm) (by decide)
      have hvr : '\r' ∉ v.toList := hv.normal.not_mem (by decide) (by decide)
      rw [Item.declaration_var hkind hvalue]
      exact Note.isLine_of_forall (Note.staysOnLine_of_not_mem
        (by simp [hn, hv.normal.not_mem_break]) (by simp [hr, hvr]))
    exact ⟨tail, ht, by rw [joinBreaks_append hline, joinBreaks_break]⟩
  · obtain ⟨hn, -, -, -⟩ := h.signature hkind hvar
    obtain ⟨tail', ht', hjoin⟩ := exists_joinBreaks_append_break ht r
    have htext (t s : List Char) : item.declaration t ++ s =
        tagLine kind.name (item.name.toList ++ ['(']) ++ (t ++ s) := by
      simp [Item.declaration_signature hkind hvar, tagLine]
    have hline : IsLine (tagLine kind.name (item.name.toList ++ ['('])) := by
      refine Note.isLine_tagLine (by cases kind <;> rfl) ?_
      simp only [List.forall_mem_append, List.forall_mem_cons]
      exact ⟨Note.staysOnLine_of_normal hn, by decide, by simp⟩
    refine ⟨tail', ht', ?_⟩
    rw [htext, htext, joinBreaks_append hline, hjoin]

lemma exists_joinBreaks_written (h : item.IsCanonical) (ht : '\n' ∉ tail) (r : List Char) :
    ∃ tail', '\n' ∉ tail' ∧
      joinBreaks (item.written tail ++ r) = item.written tail' ++ joinBreaks r := by
  obtain ⟨tail', ht', hjoin⟩ := exists_joinBreaks_declaration h.declared ht r
  refine ⟨tail', ht', ?_⟩
  have htext (t s : List Char) : item.written t ++ s =
      docLines item.notes ++ (item.declaration t ++ '\n' :: s) := by
    simp [Item.written]
  rw [htext, htext, joinBreaks_docLines h.notes, hjoin]

lemma exists_joinBreaks_writtenSource (h : AreCanonical entries) :
    ∃ entries', AreCanonical entries' ∧ entries'.map Prod.fst = entries.map Prod.fst ∧
      joinBreaks (writtenSource entries) = writtenSource entries' := by
  induction entries with
  | nil => exact ⟨[], by simp [AreCanonical], rfl, rfl⟩
  | cons e entries ih =>
    obtain ⟨hitem, htail⟩ := h e List.mem_cons_self
    obtain ⟨entries', h', hitems, hjoin⟩ := ih fun d hd => h d (List.mem_cons_of_mem _ hd)
    obtain ⟨tail', htail', hwritten⟩ :=
      exists_joinBreaks_written hitem htail (writtenSource entries)
    refine ⟨(e.1, tail') :: entries', ?_, by simp [hitems], ?_⟩
    · intro d hd
      rcases List.mem_cons.1 hd with rfl | hd
      · exact ⟨hitem, htail'⟩
      · exact h' d hd
    · rw [writtenSource, List.flatMap_cons]
      exact hwritten.trans (by rw [hjoin]; rfl)

/-! ### Reading -/

lemma ofPassages_passage (h : AreCanonical entries) :
    Reading.ofPassages none (entries.map fun e => e.1.passage e.2) =
      ⟨entries.map Prod.fst, [], none⟩ := by
  induction entries with
  | nil => rfl
  | cons e entries ih =>
    obtain ⟨hitem, -⟩ := h e List.mem_cons_self
    have hdocumented : e.1.isDocumented = true := by
      obtain ⟨kind, hkind⟩ := hitem.declared.exists_kind
      simp [Item.isDocumented, hkind, hitem.named]
    rw [List.map_cons, Reading.ofPassages, Item.ofPassage_passage hitem]
    simp only [ih fun d hd => h d (List.mem_cons_of_mem _ hd), hdocumented, ↓reduceIte]
    rfl

/-- Reading the source written from canonical items gives these items, in order and without an
error, whatever stands behind the parentheses of their signatures. -/
theorem parseSource_writtenSource (entries : List (Item × List Char)) (h : AreCanonical entries) :
    parseSource (writtenSource entries) = .ok (entries.map Prod.fst) := by
  obtain ⟨entries', h', hitems, hjoin⟩ := exists_joinBreaks_writtenSource h
  have hscan : Scan.ofSource (writtenSource entries) =
      ⟨entries'.map fun e => e.1.passage e.2, .ok none⟩ := by
    rw [Scan.ofSource, hjoin, run_writtenSource h']
  rw [parseSource, Reading.ofSource, hscan]
  simp only [Scan.error?, ofPassages_passage h', Reading.result, hitems]

/-- A function with notes of all sorts, a mixin without any, and a variable. -/
def sampleEntries : List (Item × List Char) :=
  [({ name := "double"
      kind := some .function
      description := some "Doubles a number.\n- fast"
      parameters := [⟨["number", "null"], "n", "1 + (2", "value"⟩, ⟨["*"], "rest", "", ""⟩]
      returns := some ⟨["number"], "doubled value"⟩
      requires := [⟨"clearfix", some .mixin⟩, ⟨"helper", none⟩]
      links := [⟨"http://sass-lang.com", "Sass docs"⟩]
      aliasOf := some "twice"
      access := some "private"
      deprecated := some ""
      since := some "1.2.0"
      author := some "Jane Doe"
      throws := ["Invalid input"]
      todo := ["Support maps", "@later"] }, "$n) \x7b @return $n * 2; \x7d\r".toList),
   ({ name := "box", kind := some .mixin }, []),
   ({ name := "size"
      kind := some .var
      access := some "scoped"
      datatype := ["number", "string"]
      value := some "4px solid" }, [])]

/-- The source of the sample is read back. -/
theorem parseSource_sampleEntries :
    AreCanonical sampleEntries ∧
      parseSource (writtenSource sampleEntries) = .ok (sampleEntries.map Prod.fst) :=
  ⟨by decide +kernel, parseSource_writtenSource sampleEntries (by decide +kernel)⟩

example : writtenSource (sampleEntries.drop 1) =
    ("///\n@mixin box(\n/// @access scoped\n/// @var \x7bnumber | string\x7d\n"
      ++ "$size: 4px solid;\n").toList := by
  decide +kernel

end Stylebook
