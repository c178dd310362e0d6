import Mathlib
import Stylebook.Proofs.Item.Merge
import Stylebook.Proofs.Passage.Steps

/-!
# Scanning sources in pieces

A source that is cut behind a line break, where no comment waits for a declaration, can be scanned
in two pieces. No reader looks over such a cut: each finds what ends it before the cut, and a run of
documentation lines that reaches the cut leaves comments waiting. So the passages of the whole are
those of the pieces, and a fault of the second piece stays the same fault, further down.
-/

namespace Stylebook

open Text

variable {a q r s t rest body declaration : List Char} {c : Char}
  {waiting w found : Option (List Char)} {f : Fault}

/-! ### Carriage returns at the cut -/

namespace Text

lemma EndsLine.eq_break_or_tail (h : EndsLine (c :: s)) : c = '\n' ∧ s = [] ∨ EndsLine s := by
  by_cases hs : s = []
  · subst hs
    exact Or.inl ⟨by simpa [EndsLine] using h, rfl⟩
  · exact Or.inr (h.of_suffix (List.suffix_cons c s) hs)

lemma EndsLine.cons (h : EndsLine s) (c : Char) : EndsLine (c :: s) := by
  rw [EndsLine, List.getLast?_cons, h]
  rfl

lemma EndsLine.head?_append (h : EndsLine s) (q : List Char) : (s ++ q).head? = s.head? :=
  List.head?_append_of_ne_nil s h.ne_nil

lemma breaks_joinBreaks (s : List Char) : breaks (joinBreaks s) = breaks s := by
  unfold breaks
  induction s using joinBreaks.induct with
  | case1 => rfl
  | case2 s ih => simp [joinBreaks, ih]
  | case3 c s hpair ih =>
    rw [joinBreaks_cons]
    · simp [List.count_cons, ih]
    · rintro rfl hhead
      obtain ⟨s, rfl⟩ := List.head?_eq_some_iff.1 hhead
      exact hpair s rfl rfl

/-- A carriage return and a line feed are never on different sides of a line break. -/
lemma EndsLine.joinBreaks_append (h : EndsLine a) (q : List Char) :
    joinBreaks (a ++ q) = joinBreaks a ++ joinBreaks q ∧ EndsLine (joinBreaks a) := by
  induction a using joinBreaks.induct with
  | case1 => simp [EndsLine] at h
  | case2 s ih =>
    by_cases hs : s = []
    · subst hs
      exact ⟨rfl, rfl⟩
    · obtain ⟨happend, hends⟩ := ih (h.of_suffix ⟨['\r', '\n'], rfl⟩ hs)
      exact ⟨congrArg ('\n' :: ·) happend, hends.cons '\n'⟩
  | case3 c s hpair ih =>
    rcases h.eq_break_or_tail with ⟨rfl, rfl⟩ | hs
    · exact ⟨joinBreaks_break q, rfl⟩
    · have hhead : c = '\r' → s.head? ≠ some '\n' := by
        rintro rfl hhead
        obtain ⟨s, rfl⟩ := List.head?_eq_some_iff.1 hhead
        exact hpair s rfl rfl
      obtain ⟨happend, hends⟩ := ih hs
      rw [List.cons_append, joinBreaks_cons (hs.head?_append q ▸ hhead), joinBreaks_cons hhead,
        happend]
      exact ⟨rfl, hends.cons c⟩

lemma IsWhole.joinBreaks_append (h : IsWhole a) (q : List Char) :
    joinBreaks (a ++ q) = joinBreaks a ++ joinBreaks q := by
  rcases h with rfl | h
  · rfl
  · exact (h.joinBreaks_append q).1

lemma IsWhole.joinBreaks (h : IsWhole a) : IsWhole (joinBreaks a) := by
  rcases h with rfl | h
  · exact Or.inl rfl
  · exact Or.inr (h.joinBreaks_append []).2

end Text

namespace Passage

/-! ### Readers within whole lines -/

lemma readBlock_append (hs : EndsLine s) (h : readBlock s = .ok (body, rest)) (q : List Char) :
    readBlock (s ++ q) = .ok (body, rest ++ q) := by
  fun_induction readBlock s generalizing body rest with
  | case1 => cases h
  | case2 s body r hcut =>
    cases h
    have hr : EndsLine r := (hs.of_cutAt? (by decide) hcut).tail (by decide)
    have hcut' : cutAt? (· == '*') (s ++ q) = some (body, '/' :: (r ++ q)) := cutAt?_append hcut q
    rw [readBlock_of_closed hcut', hr.line_append, hr.nextLine_append]
  | case3 s body r hslash hcut more left hread ih =>
    cases h
    have hr : EndsLine r := hs.of_cutAt? (by decide) hcut
    have hhead : (r ++ q).head? ≠ some '/' := by
      rw [hr.head?_append]
      intro hhead
      obtain ⟨r, rfl⟩ := List.head?_eq_some_iff.1 hhead
      exact hslash r rfl
    rw [readBlock_of_star (cutAt?_append hcut q) hhead, ih hr hread]
    rfl
  | case4 => cases h

lemma opensDocLine_append (hs : EndsLine s) (q : List Char) :
    opensDocLine (s ++ q) = opensDocLine s := by
  match s with
  | [] => exact absurd rfl hs.ne_nil
  | [x] =>
    obtain rfl : x = '\n' := by simpa [EndsLine] using hs
    simp [opensDocLine]
  | [x, y] =>
    obtain rfl : y = '\n' := by simpa [EndsLine] using hs
    simp [opensDocLine]
  | x :: y :: z :: s =>
    simp only [opensDocLine, List.cons_append]
    split <;> split <;> simp_all

lemma docContent_eq_fromStop (s : List Char) :
    docContent s = skipSpaces (fromStop (fun x => !(x == '/')) s) := by
  simp [docContent, fromStop]

lemma endsLine_docContent (hs : EndsLine s) : EndsLine (docContent s) := by
  rw [docContent_eq_fromStop]
  exact (hs.fromStop _ (by decide)).skipSpaces

lemma docContent_append (hs : EndsLine s) (q : List Char) :
    docContent (s ++ q) = docContent s ++ q := by
  rw [docContent_eq_fromStop, docContent_eq_fromStop, hs.fromStop_append _ (by decide),
    (hs.fromStop _ (by decide)).skipSpaces_append]

/-- A run of documentation lines that leaves some text ends before the cut. -/
lemma readRun_append (hs : EndsLine s) (hrest : (readRun s).2 ≠ []) (q : List Char) :
    readRun (s ++ q) = ((readRun s).1, (readRun s).2 ++ q) := by
  induction s using readRun.induct with
  | case1 s hopen content more rest _ ih =>
    have hcontent : EndsLine (docContent s) := endsLine_docContent hs
    have hnext : EndsLine (nextLine (docContent s)) := by
      refine hcontent.of_suffix (nextLine_suffix _) fun hnil => hrest ?_
      rw [readRun_of_opens hopen, hnil]
      exact congrArg Prod.snd (readRun_of_not_opens rfl)
    rw [readRun_of_opens hopen] at hrest
    rw [readRun_of_opens hopen, readRun_of_opens ((opensDocLine_append hs q).trans hopen),
      docContent_append hs, hcontent.line_append, hcontent.nextLine_append,
      hnext.skipSpaces_append, ih hnext.skipSpaces hrest]
  | case2 s hopen =>
    rw [Bool.not_eq_true] at hopen
    rw [readRun_of_not_opens hopen, readRun_of_not_opens ((opensDocLine_append hs q).trans hopen)]

lemma readDeclaration_append (hs : EndsLine s)
    (h : readDeclaration c s = .ok (declaration, rest)) (q : List Char) :
    readDeclaration c (s ++ q) = .ok (declaration, rest ++ q) := by
  unfold readDeclaration at h ⊢
  split at h
  · rename_i hvar
    rw [if_pos hvar]
    split at h
    · cases h
    · rename_i hcut
      cases h
      have hr := hs.of_cutAt? (by decide) hcut
      simp only [cutAt?_append hcut, hr.line_append, hr.nextLine_append]
  · rename_i hvar
    cases h
    rw [if_neg hvar, hs.line_append, hs.nextLine_append]

/-- A scan moves on in front of a cut as it does without the text behind, except that a run of
documentation lines may go on behind the cut. -/
lemma Move.append (h : Move waiting t w found rest) (ht : EndsLine t)
    (hrest : w = none ∨ rest ≠ []) (q : List Char) : Move waiting (t ++ q) w found (rest ++ q) := by
  cases h with
  | lineBreak => exact .lineBreak _ _
  | block _ hread =>
    have hr := (ht.tail (by decide)).tail (by decide)
    exact .block _ (readBlock_append hr hread q)
  | run _ hopen =>
    have happend := readRun_append ht (hrest.resolve_left nofun) q
    have hmove := Move.run waiting ((opensDocLine_append ht q).trans hopen)
    rwa [happend] at hmove
  | remark _ hopen =>
    have hr := (ht.tail (by decide)).tail (by decide)
    rw [← hr.nextLine_append]
    exact .remark _ ((opensDocLine_append ht q).trans hopen)
  | line r hslash hbreak =>
    rw [← (ht.tail hbreak).nextLine_append]
    exact .line _ hslash hbreak
  | declaration _ hslash hbreak hread =>
    exact .declaration _ hslash hbreak (readDeclaration_append (ht.tail hbreak) hread q)

/-! ### Remainders are suffixes -/

lemma leavesSuffix_readBlock (s : List Char) : Item.LeavesSuffix s (readBlock s) := by
  fun_induction readBlock s with
  | case1 => exact List.suffix_rfl
  | case2 s body r hcut =>
    exact ((nextLine_suffix r).trans (List.suffix_cons _ _)).trans (suffix_of_cutAt? hcut)
  | case3 s body r _ hcut more left hread ih =>
    rw [hread] at ih
    exact List.IsSuffix.trans ih (suffix_of_cutAt? hcut)
  | case4 s body r _ hcut f hread ih =>
    rw [hread] at ih
    exact List.IsSuffix.trans ih (suffix_of_cutAt? hcut)

lemma readRun_suffix (s : List Char) : (readRun s).2 <:+ s := by
  induction s using readRun.induct with
  | case1 s hopen content more rest _ ih =>
    rw [readRun_of_opens hopen]
    exact ih.trans ((skipSpaces_suffix _).trans ((nextLine_suffix _).trans (docContent_suffix s)))
  | case2 s hopen =>
    rw [readRun_of_not_opens (by simpa using hopen)]

lemma leavesSuffix_readDeclaration (c : Char) (s : List Char) :
    Item.LeavesSuffix s (readDeclaration c s) := by
  unfold readDeclaration
  split
  · split
    · exact List.suffix_rfl
    · rename_i hcut
      exact (nextLine_suffix _).trans (suffix_of_cutAt? hcut)
  · exact nextLine_suffix s

lemma Move.suffix (h : Move waiting t w found rest) : rest <:+ t := by
  cases h with
  | lineBreak => exact List.suffix_cons _ _
  | @block _ r _ _ hread =>
    have hr := leavesSuffix_readBlock r
    rw [hread] at hr
    exact List.IsSuffix.trans hr ⟨['/', '*'], rfl⟩
  | run => exact readRun_suffix t
  | @remark _ r => exact (nextLine_suffix r).trans ⟨['/', '/'], rfl⟩
  | line r => exact (nextLine_suffix r).trans (List.suffix_cons _ _)
  | @declaration _ c r _ _ _ _ hread =>
    have hr := leavesSuffix_readDeclaration c r
    rw [hread] at hr
    exact List.IsSuffix.trans hr (List.suffix_cons _ _)

lemma suffix_of_step_eq_failed (h : step waiting s = .failed f) : f.rest <:+ s := by
  have hs := skipSpaces_suffix s
  unfold step at h
  generalize skipSpaces s = t at h hs
  refine List.IsSuffix.trans ?_ hs
  split at h
  · cases h
  · cases h
  · rename_i r
    have hr := leavesSuffix_readBlock r
    split at h
    · cases h
    · rename_i hread
      cases h
      rw [hread] at hr
      exact List.IsSuffix.trans hr ⟨['/', '*'], rfl⟩
  · split at h <;> cases h
  · cases h
    exact List.suffix_rfl
  · rename_i c r _ _ _ _
    have hr := leavesSuffix_readDeclaration c r
    split at h
    · cases h
    · split at h
      · cases h
      · rename_i hread
        cases h
        rw [hread] at hr
        exact List.IsSuffix.trans hr (List.suffix_cons _ _)

end Passage

namespace Scan

/-- A fault keeps a suffix of the source. -/
lemma suffix_of_ending_eq_error (h : (run waiting s).ending = .error f) : f.rest <:+ s := by
  fun_induction run waiting s with
  | case1 => cases h
  | case2 waiting s g hstep =>
    cases h
    exact Passage.suffix_of_step_eq_failed hstep
  | case3 waiting s w found rest hstep more ih =>
    have hmove := Passage.step_eq_moved_iff.1 hstep
    exact (ih h).trans (hmove.suffix.trans (skipSpaces_suffix s))

/-! ### Scans in pieces -/

/-- A scan of whole lines that leaves no comments waiting starts anew behind them. -/
lemma run_append (ha : IsWhole a) (h : (run waiting a).ending = .ok none) (q : List Char) :
    run waiting (a ++ q) = ⟨(run waiting a).passages ++ (run none q).passages,
      (run none q).ending⟩ := by
  fun_induction run waiting a with
  | case1 waiting a hstep =>
    rcases ha with rfl | ha
    · cases h
      simp
    · exact absurd (Passage.step_eq_done_iff.1 hstep) ha.skipSpaces.ne_nil
  | case2 => cases h
  | case3 waiting a w found rest hstep more ih =>
    have hmove := Passage.step_eq_moved_iff.1 hstep
    have ha : EndsLine a := by
      refine ha.resolve_left ?_
      rintro rfl
      rw [Passage.step_eq_done_iff.2 rfl] at hstep
      cases hstep
    have hsuffix : rest <:+ skipSpaces a := hmove.suffix
    -- At the end of the first piece nothing waits, so no run of comments has reached it.
    have hrest : w = none ∨ rest ≠ [] := by
      by_cases hnil : rest = []
      · subst hnil
        rw [show more = run w [] from rfl, run_nil] at h
        cases h
        exact Or.inl rfl
      · exact Or.inr hnil
    rw [run_of_move (ha.skipSpaces_append q ▸ hmove.append ha.skipSpaces hrest q),
      ih (ha.skipSpaces.isWhole_of_suffix hsuffix) h]
    simp [more]

/-- Behind whole lines that leave no comments waiting, a scan starts anew. -/
lemma ofSource_append_eq (ha : IsWhole a) (h : (ofSource a).ending = .ok none) (b : List Char) :
    ofSource (a ++ b) =
      ⟨(ofSource a).passages ++ (ofSource b).passages, (ofSource b).ending⟩ := by
  rw [ofSource, ha.joinBreaks_append, run_append ha.joinBreaks h]
  rfl

/-- An error of the second piece lies further down by the first. -/
lemma error?_append (ha : IsWhole a) (h : (ofSource a).ending = .ok none) (b : List Char) :
    (ofSource (a ++ b)).error? (a ++ b) =
      ((ofSource b).error? b).map (ParseError.after (joinBreaks a)) := by
  rw [ofSource_append_eq ha h, error?, error?]
  cases hb : (ofSource b).ending with
  | ok waiting => rfl
  | error f =>
    simp only [ha.joinBreaks_append, Item.ofFault_append _ (suffix_of_ending_eq_error hb),
      Option.map_some]

/-- The passages of a source that is cut behind a line break, where no comments wait, are those of
the two pieces, and an error is that of the second piece, further down. -/
theorem ofSource_append (a b : List Char) (ha : IsWhole a) (h : (ofSource a).ending = .ok none) :
    (ofSource (a ++ b)).passages = (ofSource a).passages ++ (ofSource b).passages ∧
      (ofSource (a ++ b)).error? (a ++ b) = ((ofSource b).error? b).map fun e =>
        { e with
          offset := e.offset + (joinBreaks a).length
          line := e.line + breaks a } := by
  constructor
  · rw [ofSource_append_eq ha h]
  · rw [error?_append ha h, ← breaks_joinBreaks a]
    rfl

/-- A source with a block comment, a run of documentation lines and a value that spans lines, whose
lines end in two ways. -/
def gridSource : List Char :=
  ("/* Grid\r\n * of boxes */\r\n@mixin grid($a)\r\n// plain\n/// Size\n  ///of it\n"
    ++ "$size: (\n  a: 1\n); // one\n").toList

/-- A documented variable, then a slash that opens no comment. -/
def toneSource : List Char :=
  "/// Tone\n$tone: red;\n / 2\n".toList

/-- The slash is found where it stands in the whole source, each line break counted once. -/
theorem ofSource_append_gridSource :
    IsWhole gridSource ∧ (ofSource gridSource).ending = .ok none ∧
      (ofSource (gridSource ++ toneSource)).passages =
        [" Grid\n * of boxes \n@mixin grid($a)\n".toList,
          "Size\nof it\n$size: (\n  a: 1\n); // one\n".toList, "Tone\n$tone: red;\n".toList] ∧
      (ofSource (gridSource ++ toneSource)).error? (gridSource ++ toneSource) =
        some ⟨.unexpectedToken, "unexpected characters '/ '", 116, 12⟩ := by
  have hwhole : IsWhole gridSource := by decide
  have hending : (ofSource gridSource).ending = .ok none := by decide +kernel
  obtain ⟨hpassages, herror⟩ := ofSource_append gridSource toneSource hwhole hending
  refine ⟨hwhole, hending, ?_, ?_⟩
  · rw [hpassages]
    decide +kernel
  · rw [herror]
    decide +kernel

end Scan

end Stylebook
