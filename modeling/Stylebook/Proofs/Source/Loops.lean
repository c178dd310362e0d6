import Mathlib
import Stylebook.Proofs.Cursor.Operations
import Stylebook.Proofs.Passage.Append

/-!
# Loops over a text

Four loops read a source: the scan for passages, the run of documentation lines, the search for the
end of a block comment, and the reading of an item. Each iteration either fails, or leaves the loop,
or takes a piece that is not empty off the text that is left. So the cursor moves forward from
iteration to iteration, and a loop runs at most once more than the text has characters.
-/

namespace Stylebook

open Text

/-- How one iteration of a loop ends. -/
inductive Iteration (σ ρ : Type) where
  /-- The text cannot be read. -/
  | failed (fault : Fault)
  /-- The loop is left with a result. -/
  | left (result : ρ)
  /-- The loop goes on in another state. -/
  | again (state : σ)

/-- A loop that reads a text. -/
structure Loop (σ ρ : Type) where
  /-- The text that is left in a state. -/
  rest : σ → List Char
  /-- One iteration. -/
  iterate : σ → Iteration σ ρ

namespace Loop

variable {σ ρ : Type} {loop : Loop σ ρ} {s s' last : σ} {n : Nat} {ending : Except Fault ρ}
  {text : List Char} {c : Cursor}

/-! ### Progress -/

/-- The cursor stands in `text`, with the text that is left in the state `s` ahead. -/
structure StandsAt (loop : Loop σ ρ) (text : List Char) (s : σ) (c : Cursor) : Prop where
  text_eq : c.text = text
  inBounds : c.InBounds
  ahead_eq : c.ahead = .ok (loop.rest s)

/-- Each iteration over `text` fails, or leaves the loop, or moves the cursor forward in `text`. -/
def Progresses (loop : Loop σ ρ) (text : List Char) : Prop :=
  ∀ s s' c, loop.StandsAt text s c → loop.iterate s = .again s' →
    ∃ c', loop.StandsAt text s' c' ∧ c.pos < c'.pos ∧ c'.pos ≤ text.length

/-- An iteration that goes on leaves a shorter piece of the end of the text. -/
def Shortens (loop : Loop σ ρ) : Prop :=
  ∀ s s', loop.iterate s = .again s' →
    loop.rest s' <:+ loop.rest s ∧ (loop.rest s').length < (loop.rest s).length

lemma StandsAt.exists_between (h : loop.StandsAt text s c) :
    ∃ a, text = a ++ loop.rest s ∧ c = .between a (loop.rest s) := by
  obtain ⟨rfl, hbounds, hahead⟩ := h
  obtain ⟨a, b, rfl⟩ := hbounds.exists_between
  rw [Cursor.ahead_between] at hahead
  cases hahead
  exact ⟨a, rfl, rfl⟩

lemma Shortens.progresses (h : loop.Shortens) (text : List Char) : loop.Progresses text := by
  intro s s' c hc hagain
  obtain ⟨a, rfl, rfl⟩ := hc.exists_between
  obtain ⟨⟨v, hv⟩, hlt⟩ := h s s' hagain
  rw [← hv, List.length_append] at hlt
  refine ⟨.between (a ++ v) (loop.rest s'), ⟨?_, Cursor.inBounds_between _ _, by simp⟩, ?_, ?_⟩
  · simp [← hv]
  · simp only [Cursor.pos_between, List.length_append]
    omega
  · simp only [Cursor.pos_between, ← hv, List.length_append]
    omega

/-! ### Runs -/

/-- From the first state the loop runs the given number of times. The last iteration starts in the
second state, and by it the loop fails or is left. -/
inductive Runs (loop : Loop σ ρ) : σ → Nat → σ → Except Fault ρ → Prop where
  | failed {s : σ} {f : Fault} (h : loop.iterate s = .failed f) : Runs loop s 1 s (.error f)
  | left {s : σ} {r : ρ} (h : loop.iterate s = .left r) : Runs loop s 1 s (.ok r)
  | again {s s' last : σ} {n : Nat} {ending : Except Fault ρ} (h : loop.iterate s = .again s')
      (hrun : Runs loop s' n last ending) : Runs loop s (n + 1) last ending

/-- The loop ends in the state `last` with `ending`, and it runs at most `bound` times. -/
structure EndsWithin (loop : Loop σ ρ) (bound : Nat) (s last : σ) (ending : Except Fault ρ) :
    Prop where
  exists_runs : ∃ n, loop.Runs s n last ending
  le_bound : ∀ n last' ending', loop.Runs s n last' ending' → n ≤ bound

lemma Runs.le (h : loop.Shortens) (hrun : loop.Runs s n last ending) :
    n ≤ (loop.rest s).length + 1 := by
  induction hrun with
  | failed | left => omega
  | again hagain _ ih =>
    have hlt := (h _ _ hagain).2
    omega

lemma Runs.endsWithin (h : loop.Shortens) (hrun : loop.Runs s n last ending) {bound : Nat}
    (hbound : (loop.rest s).length ≤ bound) : loop.EndsWithin (bound + 1) s last ending :=
  ⟨⟨n, hrun⟩, fun _ _ _ hrun' => (hrun'.le h).trans (Nat.succ_le_succ hbound)⟩

end Loop

/-! ### The scan -/

namespace Scan

/-- The state of a scan: the passages that were found, the comments that wait for a declaration,
and the text that is left. -/
structure State where
  found : List (List Char)
  waiting : Option (List Char)
  rest : List Char

/-- The loop of a scan. -/
def loop : Loop State (Option (List Char)) where
  rest := State.rest
  iterate s :=
    match Passage.step s.waiting s.rest with
    | .done => .left s.waiting
    | .failed f => .failed f
    | .moved w found rest => .again ⟨s.found ++ found.toList, w, rest⟩

lemma shortens_loop : loop.Shortens := by
  intro s s' h
  simp only [loop] at h ⊢
  split at h
  · cases h
  · cases h
  · rename_i hstep
    cases h
    have hmove := Passage.step_eq_moved_iff.1 hstep
    exact ⟨hmove.suffix.trans (skipSpaces_suffix s.rest), Passage.length_lt_of_step hstep⟩

/-- The loop of a scan gives what the scan gives. -/
lemma exists_runs_loop (waiting : Option (List Char)) (s : List Char) (found : List (List Char)) :
    ∃ n last, loop.Runs ⟨found, waiting, s⟩ n last (run waiting s).ending ∧
      last.found = found ++ (run waiting s).passages := by
  -- The recursion of the scan takes the steps of the loop, one call for each iteration.
  fun_induction run waiting s generalizing found with
  | case1 waiting s hstep =>
    refine ⟨1, _, .left ?_, (List.append_nil found).symm⟩
    simp only [loop, hstep]
  | case2 waiting s f hstep =>
    refine ⟨1, _, .failed ?_, (List.append_nil found).symm⟩
    simp only [loop, hstep]
  | case3 waiting s w new rest hstep more ih =>
    obtain ⟨n, last, hrun, hlast⟩ := ih (found ++ new.toList)
    refine ⟨n + 1, last, .again ?_ hrun, hlast.trans (List.append_assoc _ _ _)⟩
    simp only [loop, hstep]

end Scan

namespace Passage

/-! ### Documentation lines and block comments -/

/-- The loop that reads documentation lines which follow each other. Its state is what has been read
and what is left. -/
def runLoop : Loop (List Char × List Char) (List Char × List Char) where
  rest := Prod.snd
  iterate p :=
    if opensDocLine p.2 then
      .again (p.1 ++ (line (docContent p.2) ++ ['\n']), skipSpaces (nextLine (docContent p.2)))
    else .left p

/-- The loop that reads a block comment from star to star. Its state is what has been read and what
is left. -/
def blockLoop : Loop (List Char × List Char) (List Char × List Char) where
  rest := Prod.snd
  iterate p :=
    match cutAt? (· == '*') p.2 with
    | none => .failed ⟨.unterminated ["*"], p.2⟩
    | some (body, '/' :: rest) => .left (p.1 ++ (body ++ line rest ++ ['\n']), nextLine rest)
    | some (body, rest) => .again (p.1 ++ (body ++ ['*']), rest)

lemma shortens_runLoop : runLoop.Shortens := by
  intro p p' h
  simp only [runLoop] at h ⊢
  split at h
  · rename_i hopen
    cases h
    have hline := nextLine_suffix (docContent p.2)
    have hspaces := (skipSpaces_suffix (nextLine (docContent p.2))).trans hline
    exact ⟨hspaces.trans (docContent_suffix p.2),
      hspaces.length_le.trans_lt (length_docContent_lt hopen)⟩
  · cases h

lemma shortens_blockLoop : blockLoop.Shortens := by
  intro p p' h
  simp only [blockLoop] at h ⊢
  split at h
  · cases h
  · cases h
  · rename_i hcut
    cases h
    exact ⟨suffix_of_cutAt? hcut, length_lt_of_cutAt? hcut⟩

/-- The loop over documentation lines gives what their reader gives. -/
lemma exists_runs_runLoop (lines s : List Char) :
    ∃ n last, runLoop.Runs (lines, s) n last (.ok (lines ++ (readRun s).1, (readRun s).2)) := by
  induction s using readRun.induct generalizing lines with
  | case1 s hopen content more rest _ ih =>
    have hagain : runLoop.iterate (lines, s) =
        .again (lines ++ (line content ++ ['\n']), skipSpaces (nextLine content)) :=
      if_pos hopen
    obtain ⟨n, last, hrun⟩ := ih (lines ++ (line content ++ ['\n']))
    refine ⟨n + 1, last, .again hagain ?_⟩
    rw [readRun_of_opens hopen]
    simpa using hrun
  | case2 s hopen =>
    rw [readRun_of_not_opens (by simpa using hopen), List.append_nil]
    exact ⟨1, _, .left (if_neg hopen)⟩

lemma iterate_blockLoop_of_star {read s body rest : List Char}
    (hcut : cutAt? (· == '*') s = some (body, rest)) (hslash : ∀ r, rest = '/' :: r → False) :
    blockLoop.iterate (read, s) = .again (read ++ (body ++ ['*']), rest) := by
  simp only [blockLoop, hcut]

/-- The loop over the stars of a block comment gives what the reader of the comment gives. -/
lemma exists_runs_blockLoop (read s : List Char) :
    ∃ n last, blockLoop.Runs (read, s) n last
      ((readBlock s).map fun p => (read ++ p.1, p.2)) := by
  fun_induction readBlock s generalizing read with
  | case1 s hcut =>
    refine ⟨1, _, .failed ?_⟩
    simp only [blockLoop, hcut]
  | case2 s body r hcut =>
    refine ⟨1, _, .left ?_⟩
    simp only [blockLoop, hcut]
  | case3 s body r hslash hcut more left hread ih =>
    obtain ⟨n, last, hrun⟩ := ih (read ++ (body ++ ['*']))
    refine ⟨n + 1, last, .again (iterate_blockLoop_of_star hcut hslash) ?_⟩
    simpa [hread, Except.map] using hrun
  | case4 s body r hslash hcut f hread ih =>
    obtain ⟨n, last, hrun⟩ := ih (read ++ (body ++ ['*']))
    refine ⟨n + 1, last, .again (iterate_blockLoop_of_star hcut hslash) ?_⟩
    simpa [hread, Except.map] using hrun

end Passage

/-! ### Items -/

namespace Item

/-- The loop that reads an item. -/
def loop : Loop (Item × List Char) Item where
  rest := Prod.snd
  iterate
    | (item, []) => .left item
    | (item, c :: s) =>
      match step item c s with
      | .error f => .failed f
      | .ok next => .again next

lemma shortens_loop : loop.Shortens := by
  rintro ⟨item, s⟩ p' h
  cases s with
  | nil => cases h
  | cons c s =>
    have hsuffix := leavesSuffix_step item c s
    simp only [loop] at h ⊢
    split at h
    · cases h
    · rename_i next hstep
      cases h
      rw [hstep] at hsuffix
      exact ⟨hsuffix, Nat.lt_succ_of_le (length_le_of_step hstep)⟩

lemma exists_runs_loop (item : Item) (s : List Char) :
    ∃ n last, loop.Runs (item, s) n last (readOn item s) := by
  fun_induction readOn item s with
  | case1 item => exact ⟨1, _, .left rfl⟩
  | case2 item c s f hstep =>
    refine ⟨1, _, .failed ?_⟩
    simp only [loop, hstep]
  | case3 item c s item' rest hstep ih =>
    obtain ⟨n, last, hrun⟩ := ih
    refine ⟨n + 1, last, .again ?_ hrun⟩
    simp only [loop, hstep]

end Item

/-! ### All four -/

lemma Text.length_joinBreaks_le (s : List Char) : (joinBreaks s).length ≤ s.length := by
  induction s using joinBreaks.induct with
  | case1 => rfl
  | case2 s ih =>
    simp only [joinBreaks, List.length_cons]
    omega
  | case3 c s hpair ih =>
    rw [joinBreaks, List.length_cons, List.length_cons]
    · omega
    · exact hpair

/-- In every text each iteration of the four loops fails, or leaves its loop, or moves the cursor
forward within the text. So the scan of a source, the two readers of comments wherever they start,
and the reading of an item end with a loop that runs at most once more than the text has characters.
The scan reads the source with its line breaks joined, which is not longer. -/
theorem loops_progress_and_end (text : List Char) :
    (Scan.loop.Progresses text ∧ Passage.runLoop.Progresses text ∧
      Passage.blockLoop.Progresses text ∧ Item.loop.Progresses text) ∧
    ((joinBreaks text).length ≤ text.length ∧
      ∃ last, Scan.loop.EndsWithin ((joinBreaks text).length + 1) ⟨[], none, joinBreaks text⟩ last
        (Scan.ofSource text).ending ∧ last.found = (Scan.ofSource text).passages) ∧
    (∀ s, s <:+ text → ∃ last,
      Passage.runLoop.EndsWithin (text.length + 1) ([], s) last (.ok (Passage.readRun s))) ∧
    (∀ s, s <:+ text → ∃ last,
      Passage.blockLoop.EndsWithin (text.length + 1) ([], s) last (Passage.readBlock s)) ∧
    ∃ last, Item.loop.EndsWithin (text.length + 1) ({}, text) last (Item.readOn {} text) := by
  refine ⟨⟨Scan.shortens_loop.progresses text, Passage.shortens_runLoop.progresses text,
    Passage.shortens_blockLoop.progresses text, Item.shortens_loop.progresses text⟩,
    ⟨length_joinBreaks_le text, ?_⟩, ?_, ?_, ?_⟩
  · obtain ⟨n, last, hrun, hfound⟩ := Scan.exists_runs_loop none (joinBreaks text) []
    exact ⟨last, hrun.endsWithin Scan.shortens_loop le_rfl, hfound⟩
  · intro s hs
    obtain ⟨n, last, hrun⟩ := Passage.exists_runs_runLoop [] s
    exact ⟨last, hrun.endsWithin Passage.shortens_runLoop hs.length_le⟩
  · intro s hs
    obtain ⟨n, last, hrun⟩ := Passage.exists_runs_blockLoop [] s
    have hread : (Passage.readBlock s).map (fun p => ([] ++ p.1, p.2)) = Passage.readBlock s := by
      cases Passage.readBlock s <;> rfl
    rw [hread] at hrun
    exact ⟨last, hrun.endsWithin Passage.shortens_blockLoop hs.length_le⟩
  · obtain ⟨n, last, hrun⟩ := Item.exists_runs_loop {} text
    exact ⟨last, hrun.endsWithin Item.shortens_loop le_rfl⟩

/-- A source with a run of documentation lines and a comment that is full of stars. -/
def starredSource : List Char :=
  "/// Wide\n///\n/*** **/\n$wide: 2;\n".toList

/-- What stands behind the opening of that comment. -/
def starredComment : List Char :=
  "** **/\n$wide: 2;\n".toList

theorem loops_progress_and_end_starredSource :
    starredSource <:+ starredSource ∧ starredComment <:+ starredSource ∧
      (∃ last, Passage.runLoop.EndsWithin 33 ([], starredSource) last
        (.ok ("Wide\n\n".toList, "/*** **/\n$wide: 2;\n".toList))) ∧
      ∃ last, Passage.blockLoop.EndsWithin 33 ([], starredComment) last
        (.ok ("** *\n".toList, "$wide: 2;\n".toList)) := by
  have hcomment : starredComment <:+ starredSource := by decide
  have hlength : starredSource.length + 1 = 33 := by decide
  have hrun : Passage.readRun starredSource =
      ("Wide\n\n".toList, "/*** **/\n$wide: 2;\n".toList) := by
    cbv
  have hread : Passage.readBlock starredComment =
      .ok ("** *\n".toList, "$wide: 2;\n".toList) := by
    cbv
  obtain ⟨-, -, hlines, hblock, -⟩ := loops_progress_and_end starredSource
  rw [hlength] at hlines hblock
  exact ⟨List.suffix_rfl, hcomment, hrun ▸ hlines _ List.suffix_rfl, hread ▸ hblock _ hcomment⟩

end Stylebook
