import Mathlib
import Stylebook.Proofs.Passage.Steps

/-!
# Documented declarations

A source consists of segments: blank lines, ordinary lines, remarks, documentation lines, block
comments and declarations of variables. An ordinary line or a variable is documented if a
documentation line or block comment stands before it, with nothing but blank lines and more of such
comments between. Scanning a source finds the documented declarations and nothing else, each with
its comments in front.
-/

namespace Stylebook

open Text

/-- Spaces and tabs. -/
abbrev Indent := { s : List Char // s.all isSpaceOrTab = true }

lemma Indent.forall (indent : Indent) : ∀ x ∈ indent.1, isSpaceOrTab x = true :=
  List.all_eq_true.1 indent.2

/-- Whether the content of a documentation line can open like this: with no more spaces and no more
slashes. -/
def opensContent (s : List Char) : Bool :=
  s.head?.all fun x => !isSpaceOrTab x && x != '/'

lemma opensContent_cons_iff {c : Char} {s : List Char} :
    opensContent (c :: s) = true ↔ isSpaceOrTab c = false ∧ c ≠ '/' := by
  simp [opensContent]

/-- A piece of a source that ends with a line break. -/
inductive Segment where
  | blank (indent : Indent)
  /-- A line that opens with something else than a slash. -/
  | line (indent : Indent) (first : Char) (rest : List Char)
      (hfirst : isSpaceOrTab first = false ∧ first ≠ '\n' ∧ first ≠ '/' := by decide)
      (hrest : '\n' ∉ rest := by decide)
  /-- A line comment that documents nothing. -/
  | remark (indent : Indent) (text : List Char) (htext : text.head? ≠ some '/' := by decide)
      (hline : '\n' ∉ text := by decide)
  /-- A documentation line with at least three slashes. -/
  | doc (indent : Indent) (moreSlashes : Nat) (spaces : Indent) (content : List Char)
      (hcontent : opensContent content = true := by decide) (hline : '\n' ∉ content := by decide)
  /-- A block comment, which may span lines. -/
  | block (indent : Indent) (body : List Char) (hbody : ¬ ['*', '/'] <:+: body := by decide)
  /-- The declaration of a variable, whose value may span lines. -/
  | var (indent : Indent) (value tail : List Char) (hvalue : ';' ∉ value := by decide)
      (htail : '\n' ∉ tail := by decide)

namespace Segment

/-- A segment as it stands in a source. -/
def text : Segment → List Char
  | blank indent => indent ++ ['\n']
  | line indent first rest _ _ => indent ++ first :: (rest ++ ['\n'])
  | remark indent text _ _ => indent ++ '/' :: '/' :: (text ++ ['\n'])
  | doc indent moreSlashes spaces content _ _ =>
    indent ++ (List.replicate (moreSlashes + 3) '/' ++ (spaces ++ (content ++ ['\n'])))
  | block indent body _ => indent ++ '/' :: '*' :: (body ++ ['*', '/', '\n'])
  | var indent value tail _ _ => indent ++ '$' :: (value ++ ';' :: (tail ++ ['\n']))

/-- What a segment says about the declaration behind it. -/
def note? : Segment → Option (List Char)
  | doc _ _ _ content _ _ => some (content ++ ['\n'])
  | block _ body _ => some (body ++ ['\n'])
  | _ => none

/-- What a segment declares. -/
def declaration? : Segment → Option (List Char)
  | line _ first rest _ _ => some (first :: rest)
  | var _ value tail _ _ => some ('$' :: (value ++ ';' :: tail))
  | _ => none

/-- Whether notes may go on, or wait, over a segment. -/
def keepsNotes : Segment → Bool
  | blank _ => true
  | d => d.note?.isSome

/-- The notes on what follows some segments. -/
def notes (before : List Segment) : List (List Char) :=
  (before.rtakeWhile keepsNotes).filterMap note?

/-- The notes in one text, if there are any. -/
def comments? (before : List Segment) : Option (List Char) :=
  if notes before = [] then none else some (notes before).flatten

/-- The passage of a segment: its notes and what it declares. -/
def passage? (before : List Segment) (d : Segment) : Option (List Char) :=
  (comments? before).bind fun comments =>
    d.declaration?.map fun declaration => comments ++ declaration ++ ['\n']

/-- The passages of all documented declarations, in order. -/
def passages (segments : List Segment) : List (List Char) :=
  (segments.inits.zip segments).filterMap fun p => passage? p.1 p.2

/-- What a segment must be like behind others: if it is documented, no ordinary line opens like a
variable, and if it is not, no variable spans lines. -/
def Fits (before : List Segment) : Segment → Prop
  | line _ first _ _ _ => notes before ≠ [] → first ≠ '$'
  | var _ value _ _ _ => '\n' ∈ value → notes before ≠ []
  | _ => True

instance (before : List Segment) : (d : Segment) → Decidable (d.Fits before)
  | line _ first _ _ _ => inferInstanceAs (Decidable (notes before ≠ [] → first ≠ '$'))
  | var _ value _ _ _ => inferInstanceAs (Decidable ('\n' ∈ value → notes before ≠ []))
  | blank _ | remark _ _ _ _ | doc _ _ _ _ _ _ | block _ _ _ => inferInstanceAs (Decidable True)

/-- Segments each of which fits behind those before it. -/
def AreLaidOut (segments : List Segment) : Prop :=
  ∀ p ∈ segments.inits.zip segments, p.2.Fits p.1

instance (segments : List Segment) : Decidable (AreLaidOut segments) :=
  inferInstanceAs (Decidable (∀ p ∈ segments.inits.zip segments, p.2.Fits p.1))

variable {before segments : List Segment} {d : Segment} {note : List Char}

/-! ### Notes that wait -/

lemma notes_concat (before : List Segment) (d : Segment) :
    notes (before ++ [d]) = if d.keepsNotes then notes before ++ d.note?.toList else [] := by
  unfold notes
  rw [List.rtakeWhile_concat]
  split
  · rw [List.filterMap_append]
    cases hnote : d.note? <;> simp [hnote]
  · rfl

lemma comments?_concat_blank (indent : Indent) :
    comments? (before ++ [blank indent]) = comments? before := by
  simp [comments?, notes_concat, keepsNotes, note?]

lemma comments?_concat_note (h : d.note? = some note) :
    comments? (before ++ [d]) = some ((comments? before).getD [] ++ note) := by
  have hkeeps : d.keepsNotes = true := by
    cases d <;> simp_all [keepsNotes, note?]
  have hnotes : notes (before ++ [d]) = notes before ++ [note] := by
    rw [notes_concat, if_pos hkeeps, h]
    rfl
  unfold comments?
  rw [hnotes]
  by_cases hnil : notes before = [] <;> simp [hnil]

lemma comments?_concat_of_not_keeps (h : d.keepsNotes = false) :
    comments? (before ++ [d]) = none := by
  simp [comments?, notes_concat, h]

/-! ### Scanning one segment -/

variable {waiting : Option (List Char)} {r : List Char}

lemma run_indent (indent : Indent) (waiting : Option (List Char)) (s : List Char) :
    Scan.run waiting (indent ++ s) = Scan.run waiting s := by
  rw [← Scan.run_skipSpaces, skipSpaces_append_of_forall indent.forall, Scan.run_skipSpaces]

lemma run_break (waiting : Option (List Char)) (r : List Char) :
    Scan.run waiting ('\n' :: r) = Scan.run waiting r :=
  Scan.run_of_quiet_move (.lineBreak waiting r)

lemma run_undocumented {c : Char} {l : List Char} (hspace : isSpaceOrTab c = false)
    (hbreak : c ≠ '\n') (hslash : c ≠ '/') (hl : '\n' ∉ l) (r : List Char) :
    Scan.run none (c :: (l ++ '\n' :: r)) = Scan.run none r := by
  have hmove := Passage.Move.line (l ++ '\n' :: r) hslash hbreak
  rw [nextLine_append_break hl, ← skipSpaces_cons hspace] at hmove
  exact Scan.run_of_quiet_move hmove

lemma run_documented {c : Char} {s comments declaration : List Char}
    (hspace : isSpaceOrTab c = false) (hbreak : c ≠ '\n') (hslash : c ≠ '/')
    (h : Passage.readDeclaration c s = .ok (declaration, r)) :
    Scan.run (some comments) (c :: s) =
      ⟨(comments ++ declaration ++ ['\n']) :: (Scan.run none r).passages,
        (Scan.run none r).ending⟩ := by
  have hmove := Passage.Move.declaration comments hslash hbreak h
  rw [← skipSpaces_cons hspace] at hmove
  exact Scan.run_of_move hmove

lemma run_remark {t : List Char} (ht : t.head? ≠ some '/') (hl : '\n' ∉ t)
    (waiting : Option (List Char)) (r : List Char) :
    Scan.run waiting ('/' :: '/' :: (t ++ '\n' :: r)) = Scan.run none r := by
  have hopen : Passage.opensDocLine ('/' :: '/' :: (t ++ '\n' :: r)) = false := by
    cases t with
    | nil => rfl
    | cons x t =>
      unfold Passage.opensDocLine
      split <;> simp_all
  have hmove := Passage.Move.remark waiting hopen
  rw [nextLine_append_break hl] at hmove
  exact Scan.run_of_quiet_move hmove

lemma run_block {body : List Char} (h : ¬ ['*', '/'] <:+: body) (waiting : Option (List Char))
    (r : List Char) :
    Scan.run waiting ('/' :: '*' :: (body ++ '*' :: '/' :: '\n' :: r)) =
      Scan.run (some (waiting.getD [] ++ (body ++ ['\n']))) r := by
  have hread := Passage.readBlock_append_close h ('\n' :: r)
  have hline : Text.line ('\n' :: r) = [] := rfl
  have hnext : nextLine ('\n' :: r) = r := rfl
  rw [hline, hnext, List.append_nil] at hread
  exact Scan.run_of_quiet_move (.block waiting hread)

lemma docContent_replicate {s : List Char} (n : Nat) (spaces : Indent)
    (hslash : (spaces ++ s).head? ≠ some '/') :
    Passage.docContent (List.replicate n '/' ++ (spaces ++ s)) = skipSpaces s := by
  have hdrop : (List.replicate n '/' ++ (spaces ++ s)).dropWhile (· == '/') = spaces ++ s := by
    rw [List.dropWhile_append_of_pos (by simp)]
    cases hs : (spaces : List Char) ++ s with
    | nil => rfl
    | cons x t =>
      rw [hs] at hslash
      simpa using hslash
  rw [Passage.docContent, hdrop, skipSpaces_append_of_forall spaces.forall]

lemma run_doc {content : List Char} (moreSlashes : Nat) (spaces : Indent)
    (hcontent : opensContent content = true) (hl : '\n' ∉ content)
    (waiting : Option (List Char)) (r : List Char) :
    Scan.run waiting
        (List.replicate (moreSlashes + 3) '/' ++ (spaces ++ (content ++ '\n' :: r))) =
      Scan.run (some (waiting.getD [] ++ (content ++ ['\n']))) r := by
  obtain ⟨x, t, ht⟩ := List.exists_cons_of_ne_nil (l := content ++ '\n' :: r) (by simp)
  have ⟨hspace, hslash⟩ : isSpaceOrTab x = false ∧ x ≠ '/' := by
    cases content with
    | nil =>
      cases ht
      decide
    | cons y content =>
      cases ht
      exact opensContent_cons_iff.1 hcontent
  have hhead : (spaces ++ (content ++ '\n' :: r)).head? ≠ some '/' := by
    obtain ⟨spaces, hspaces⟩ := spaces
    cases spaces with
    | nil => simpa [ht] using hslash
    | cons y spaces =>
      rintro ⟨rfl⟩
      exact absurd hspaces (by simp [isSpaceOrTab])
  have hskip : skipSpaces (content ++ '\n' :: r) = content ++ '\n' :: r := by
    rw [ht, skipSpaces_cons hspace]
  rw [Scan.run_docLine rfl, docContent_replicate _ spaces hhead, hskip, line_append_break hl,
    nextLine_append_break hl]

lemma comments?_eq_none_iff : comments? before = none ↔ notes before = [] := by
  simp [comments?]

lemma passage?_of_not_declared (h : d.declaration? = none) : passage? before d = none := by
  cases hcomments : comments? before <;> simp [passage?, h, hcomments]

/-- Scanning a segment finds its passage, if it has one, and leaves the comments on what follows. -/
lemma run_text (h : d.Fits before) (r : List Char) :
    Scan.run (comments? before) (d.text ++ r) =
      ⟨(passage? before d).toList ++ (Scan.run (comments? (before ++ [d])) r).passages,
        (Scan.run (comments? (before ++ [d])) r).ending⟩ := by
  cases d with
  | blank indent =>
    rw [passage?_of_not_declared rfl, comments?_concat_blank, text, List.append_assoc, run_indent]
    exact run_break _ _
  | line indent first rest hfirst hrest =>
    have htext : (line indent first rest hfirst hrest).text ++ r =
        indent ++ first :: (rest ++ '\n' :: r) := by simp [text]
    have ⟨hspace, hbreak, hslash⟩ := hfirst
    rw [htext, run_indent, comments?_concat_of_not_keeps rfl]
    cases hcomments : comments? before with
    | none =>
      rw [run_undocumented hspace hbreak hslash hrest, passage?, hcomments]
      rfl
    | some comments =>
      have hdollar : first ≠ '$' := h fun hnotes => by
        rw [comments?_eq_none_iff.2 hnotes] at hcomments
        cases hcomments
      rw [run_documented hspace hbreak hslash (Passage.readDeclaration_line hdollar hrest r),
        passage?, hcomments]
      rfl
  | remark indent t ht hl =>
    have htext : (remark indent t ht hl).text ++ r =
        indent ++ '/' :: '/' :: (t ++ '\n' :: r) := by simp [text]
    rw [passage?_of_not_declared rfl, comments?_concat_of_not_keeps rfl, htext, run_indent]
    exact run_remark ht hl _ r
  | doc indent moreSlashes spaces content hcontent hl =>
    have htext : (doc indent moreSlashes spaces content hcontent hl).text ++ r = indent ++
        (List.replicate (moreSlashes + 3) '/' ++ (spaces ++ (content ++ '\n' :: r))) := by
      simp [text]
    rw [passage?_of_not_declared rfl, comments?_concat_note rfl, htext, run_indent]
    exact run_doc moreSlashes spaces hcontent hl _ r
  | block indent body hbody =>
    have htext : (block indent body hbody).text ++ r =
        indent ++ '/' :: '*' :: (body ++ '*' :: '/' :: '\n' :: r) := by simp [text]
    rw [passage?_of_not_declared rfl, comments?_concat_note rfl, htext, run_indent]
    exact run_block hbody _ r
  | var indent value tail hvalue htail =>
    have htext : (var indent value tail hvalue htail).text ++ r =
        indent ++ '$' :: (value ++ ';' :: (tail ++ '\n' :: r)) := by simp [text]
    rw [htext, run_indent, comments?_concat_of_not_keeps rfl]
    cases hcomments : comments? before with
    | none =>
      have hline : '\n' ∉ value ++ ';' :: tail := by
        have hvalue : '\n' ∉ value := fun hspan => h hspan (comments?_eq_none_iff.1 hcomments)
        simp [hvalue, htail]
      have hundocumented := run_undocumented (c := '$') (by decide) (by decide) (by decide) hline r
      rw [List.append_assoc, List.cons_append] at hundocumented
      rw [hundocumented, passage?, hcomments]
      rfl
    | some comments =>
      rw [run_documented (by decide) (by decide) (by decide)
        (Passage.readDeclaration_value hvalue htail r), passage?, hcomments]
      rfl

/-! ### Scanning all segments -/

/-- The passages of segments behind others. -/
lemma run_flatMap_text (h : ∀ p ∈ segments.inits.zip segments, p.2.Fits (before ++ p.1)) :
    Scan.run (comments? before) (segments.flatMap text) =
      ⟨(segments.inits.zip segments).filterMap fun p => passage? (before ++ p.1) p.2,
        .ok (comments? (before ++ segments))⟩ := by
  induction segments generalizing before with
  | nil => simp
  | cons d segments ih =>
    have hzip : (d :: segments).inits.zip (d :: segments) =
        ([], d) :: (segments.inits.zip segments).map fun p => (d :: p.1, p.2) := by
      rw [List.inits_cons, List.zip_cons_cons, List.zip_map_left]
      rfl
    rw [hzip] at h ⊢
    have hd : d.Fits before := by simpa using h ([], d) List.mem_cons_self
    have hrest : ∀ p ∈ segments.inits.zip segments, p.2.Fits ((before ++ [d]) ++ p.1) := by
      intro p hp
      simpa using h (d :: p.1, p.2) (List.mem_cons_of_mem _ (List.mem_map_of_mem hp))
    rw [List.flatMap_cons, run_text hd, ih hrest, List.filterMap_cons, List.filterMap_map]
    cases hpassage : passage? before d <;> simp [hpassage]

/-- Scanning a source of segments finds exactly the passages of the documented declarations, in
order and without an error, and leaves the comments that document nothing yet. -/
theorem ofSource_flatMap_text (segments : List Segment) (h : AreLaidOut segments)
    (hreturn : '\r' ∉ segments.flatMap text) :
    Scan.ofSource (segments.flatMap text) = ⟨passages segments, .ok (comments? segments)⟩ := by
  have hrun := @run_flatMap_text [] segments h
  rw [Scan.ofSource, joinBreaks_of_not_mem hreturn]
  exact hrun

/-- Segments of all sorts: a variable that spans lines below three comments, an undocumented one,
and a documented mixin that is indented. -/
def sampleSegments : List Segment :=
  [.line ⟨[], by decide⟩ '@' "import 'base';".toList,
   .doc ⟨[], by decide⟩ 0 ⟨[' '], by decide⟩ "Dropped".toList,
   .remark ⟨[], by decide⟩ " plain".toList,
   .doc ⟨[' ', ' '], by decide⟩ 2 ⟨[], by decide⟩ "Size".toList,
   .blank ⟨[' ', '\t'], by decide⟩,
   .block ⟨['\t'], by decide⟩ "* of\n ** boxes /".toList,
   .doc ⟨[], by decide⟩ 0 ⟨[], by decide⟩ [],
   .var ⟨[' '], by decide⟩ "size: (\n  /a: 1\n)".toList " // one".toList,
   .var ⟨[], by decide⟩ "gap: 4px".toList [],
   .line ⟨[], by decide⟩ '$' "rest".toList,
   .doc ⟨[], by decide⟩ 0 ⟨[' '], by decide⟩ "Tone".toList,
   .line ⟨[' ', ' '], by decide⟩ '@' "mixin tone".toList]

/-- The remark voids the comment above it, and the blank line voids nothing. -/
theorem ofSource_sampleSegments :
    AreLaidOut sampleSegments ∧ '\r' ∉ sampleSegments.flatMap text ∧
      (Scan.ofSource (sampleSegments.flatMap text)).passages =
        ["Size\n* of\n ** boxes /\n\n$size: (\n  /a: 1\n); // one\n".toList,
          "Tone\n@mixin tone\n".toList] ∧
      (Scan.ofSource (sampleSegments.flatMap text)).ending = .ok none := by
  have hfits : AreLaidOut sampleSegments := by decide +kernel
  have hreturn : '\r' ∉ sampleSegments.flatMap text := by decide +kernel
  refine ⟨hfits, hreturn, ?_⟩
  rw [ofSource_flatMap_text sampleSegments hfits hreturn]
  decide +kernel

end Segment

end Stylebook
