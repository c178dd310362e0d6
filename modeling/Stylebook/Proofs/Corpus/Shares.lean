import Mathlib
import Stylebook.Corpus
import Stylebook.Proofs.Path.Normal
import Stylebook.Proofs.Text.Order

/-!
# What a corpus is made of

Every file has its share in a corpus: the items that are read from it, or nothing if it cannot be
read, decoded or parsed. The shares stand in the order of the paths, one for each path, and there is
one outcome for each time that a path was asked for. This says all about the items and the outcomes
of a corpus, and it holds of completed files in whatever order they were completed.
-/

namespace Stylebook

/-! ### One file -/

/-- What dealing with the file of a path gives: it is read, decoded and parsed, and the first of
these that fails is the fault. -/
inductive Disk.Gives (disk : Disk) (p : Path) : Except SourceFault (List Item) → Prop
  | unread {e : FileError} (hread : disk.fileBytes p = .error e) :
      Gives disk p (.error (.file e))
  | undecoded {bytes : List UInt8} {f : Utf8.Fault} (hread : disk.fileBytes p = .ok bytes)
      (hdecode : Utf8.decode bytes = .error f) :
      Gives disk p (.error (.encoding f))
  | unparsed {bytes : List UInt8} {text : List Char} {e : ParseError}
      (hread : disk.fileBytes p = .ok bytes) (hdecode : Utf8.decode bytes = .ok text)
      (hparse : parseSource (Text.unifyBreaks text) = .error e) :
      Gives disk p (.error (.parse e))
  | parsed {bytes : List UInt8} {text : List Char} {items : List Item}
      (hread : disk.fileBytes p = .ok bytes) (hdecode : Utf8.decode bytes = .ok text)
      (hparse : parseSource (Text.unifyBreaks text) = .ok items) :
      Gives disk p (.ok items)

/-- An outcome tells what became of the file of a path: the number of its items, or a fault and no
items. -/
inductive Outcome.Tells (disk : Disk) (p : Path) : Outcome → Prop
  | parsed {items : List Item} (h : disk.Gives p (.ok items)) :
      Tells disk p { path := p.text, items := items.length }
  | failed {fault : SourceFault} (h : disk.Gives p (.error fault)) :
      Tells disk p
        { path := p.text
          items := 0
          error := some fault.text
          errorKind := some fault.kind
          line := fault.line.map Int.ofNat }

/-- The file of a path, dealt with. -/
def Disk.completion (disk : Disk) (p : Path) : Completion :=
  .ofContent p (disk.fileBytes p)

namespace Disk

variable {disk : Disk} {p : Path} {r : Except SourceFault (List Item)}

lemma path_completion (disk : Disk) (p : Path) : (disk.completion p).path = p := by
  unfold completion Completion.ofContent
  split
  · rfl
  · split
    · rfl
    · dsimp only
      split <;> rfl

lemma gives_completion (disk : Disk) (p : Path) : disk.Gives p (disk.completion p).result := by
  unfold completion Completion.ofContent
  split
  next hread => exact .unread hread
  next hread =>
    split
    next hdecode => exact .undecoded hread hdecode
    next hdecode =>
      dsimp only
      split
      next hparse => exact .unparsed hread hdecode hparse
      next hparse => exact .parsed hread hdecode hparse

lemma Gives.result_eq (h : disk.Gives p r) : (disk.completion p).result = r := by
  unfold completion Completion.ofContent
  cases h with
  | unread hread => simp [hread, Completion.ofContent.failed]
  | undecoded hread hdecode => simp [hread, hdecode, Completion.ofContent.failed]
  | unparsed hread hdecode hparse =>
    rw [parseSource] at hparse
    simp [hread, hdecode, hparse, Completion.ofContent.failed]
  | parsed hread hdecode hparse =>
    rw [parseSource] at hparse
    simp [hread, hdecode, hparse]

lemma gives_iff : disk.Gives p r ↔ (disk.completion p).result = r :=
  ⟨Gives.result_eq, fun h => h ▸ gives_completion disk p⟩

lemma tells_iff {o : Outcome} : Outcome.Tells disk p o ↔ (disk.completion p).outcome = o := by
  have hgives := gives_completion disk p
  constructor
  · rintro (h | h) <;> simp only [Completion.outcome, h.result_eq, path_completion]
  · rintro rfl
    unfold Completion.outcome
    rw [path_completion]
    cases hresult : (disk.completion p).result with
    | ok items => exact .parsed (hresult ▸ hgives)
    | error fault => exact .failed (hresult ▸ hgives)

end Disk

namespace Corpus

variable {disk : Disk} {paths : List Path} {cs : List Completion} {p q : Path} {items : List Item}
  {shares shares' : List (Path × List Item)} {c c' : Corpus}

/-! ### Shares and outcomes -/

/-- The shares of the files of some paths: each path whose file can be parsed has one, and they
ascend with the paths. -/
structure AreShares (disk : Disk) (paths : List Path) (shares : List (Path × List Item)) : Prop where
  ascending : shares.Pairwise fun a b => a.1.key < b.1.key
  mem_iff : ∀ p items, (p, items) ∈ shares ↔ p ∈ paths ∧ disk.Gives p (.ok items)

/-- A corpus is that of some paths: its items are those of the shares, and its outcomes, which ascend
with the texts of the paths, tell of each path what became of its file. -/
structure IsOf (disk : Disk) (paths : List Path) (shares : List (Path × List Item)) (c : Corpus) :
    Prop where
  areShares : AreShares disk paths shares
  items : c.items = shares.flatMap (·.2)
  outcomes : ∃ os, List.Forall₂ (Outcome.Tells disk) paths os ∧ c.outcomes.Perm os
  ascending : c.outcomes.Pairwise fun a b => a.path ≤ b.path

lemma AreShares.nodup (h : AreShares disk paths shares) : shares.Nodup :=
  h.ascending.imp fun hlt heq => absurd (heq ▸ hlt) (lt_irrefl _)

lemma AreShares.eq (h : AreShares disk paths shares) (h' : AreShares disk paths shares') :
    shares = shares' := by
  have hperm : shares.Perm shares' := by
    rw [List.perm_ext_iff_of_nodup h.nodup h'.nodup]
    rintro ⟨p, items⟩
    rw [h.mem_iff, h'.mem_iff]
  apply @List.Perm.eq_of_pairwise _ fun a b => a.1.key < b.1.key
  · intro a b _ _ hab hba
    exact absurd hba (lt_asymm hab)
  · exact h.ascending
  · exact h'.ascending
  · exact hperm

lemma IsOf.outcomes_perm (h : IsOf disk paths shares c) :
    c.outcomes.Perm (paths.map fun p => (disk.completion p).outcome) := by
  obtain ⟨os, hos, hperm⟩ := h.outcomes
  have heq : List.Forall₂ (· = ·) (paths.map fun p => (disk.completion p).outcome) os :=
    List.forall₂_map_left_iff.2 (hos.imp fun _ _ => Disk.tells_iff.1)
  rw [List.forall₂_eq_eq_eq] at heq
  rwa [heq]

lemma path_outcome (disk : Disk) (p : Path) : (disk.completion p).outcome.path = p.text := by
  unfold Completion.outcome
  rw [Disk.path_completion]
  split <;> rfl

/-- Outcomes of one path are equal, as no other path has its text. -/
lemma IsOf.outcome_eq {o : Outcome} (h : IsOf disk paths shares c)
    (hpaths : ∀ p ∈ paths, p.IsNormal) (hp : p.IsNormal) (ho : o ∈ c.outcomes)
    (hpath : o.path = p.text) : o = (disk.completion p).outcome := by
  obtain ⟨q, hq, rfl⟩ := List.mem_map.1 (h.outcomes_perm.mem_iff.1 ho)
  rw [path_outcome] at hpath
  rw [(hpaths q hq).text_inj hp hpath]

/-- Nothing else is said about the items and the outcomes of a corpus. -/
lemma IsOf.eq (hpaths : ∀ p ∈ paths, p.IsNormal) (h : IsOf disk paths shares c)
    (h' : IsOf disk paths shares' c') : c.items = c'.items ∧ c.outcomes = c'.outcomes := by
  constructor
  · rw [h.items, h'.items, h.areShares.eq h'.areShares]
  · apply @List.Perm.eq_of_pairwise _ fun a b : Outcome => a.path ≤ b.path
    · intro a b ha hb hab hba
      obtain ⟨p, hp, rfl⟩ := List.mem_map.1 (h.outcomes_perm.mem_iff.1 ha)
      have hpath := (String.le_antisymm hab hba).symm.trans (path_outcome disk p)
      exact (h'.outcome_eq hpaths (hpaths p hp) hb hpath).symm
    · exact h.ascending
    · exact h'.ascending
    · exact h.outcomes_perm.trans h'.outcomes_perm.symm

/-- The outcomes of one path: as many as the path was asked for, all the same. -/
lemma IsOf.filter_outcomes (h : IsOf disk paths shares c) (hpaths : ∀ p ∈ paths, p.IsNormal)
    (hp : p ∈ paths) : c.outcomes.filter (·.path = p.text) =
      List.replicate (paths.count p) (disk.completion p).outcome := by
  refine List.eq_replicate_iff.2 ⟨?_, fun o ho => ?_⟩
  · rw [← List.countP_eq_length_filter, h.outcomes_perm.countP_eq, List.countP_map]
    refine List.countP_congr fun q hq => ?_
    simp only [Function.comp_apply, path_outcome, decide_eq_true_eq, beq_iff_eq]
    exact ⟨(hpaths q hq).text_inj (hpaths p hp), congrArg Path.text⟩
  · obtain ⟨hmem, hpath⟩ := List.mem_filter.1 ho
    exact h.outcome_eq hpaths (hpaths p hp) hmem (of_decide_eq_true hpath)

/-! ### The corpus of completed files -/

lemma mem_contributions (hcs : ∀ c ∈ cs, disk.completion c.path = c) :
    (p, items) ∈ contributions cs ↔ disk.completion p ∈ cs ∧ disk.Gives p (.ok items) := by
  rw [Disk.gives_iff]
  fun_induction contributions cs with
  | case1 => simp
  | case2 c cs fault hresult ih =>
    rw [ih fun c hc => hcs c (List.mem_cons_of_mem _ hc), List.mem_cons]
    refine and_congr_left fun hok => (or_iff_right ?_).symm
    rintro rfl
    rw [hok] at hresult
    cases hresult
  | case3 c cs share hresult ih =>
    have hc : disk.completion c.path = c := hcs c List.mem_cons_self
    rw [List.mem_cons, List.mem_filter, ih fun c hc => hcs c (List.mem_cons_of_mem _ hc),
      List.mem_cons]
    by_cases hp : p = c.path
    · subst hp
      simp [hc, hresult, eq_comm]
    · have hne : disk.completion p ≠ c := fun heq => hp (by rw [← heq, Disk.path_completion])
      simp [hp, hne]

lemma pairwise_contributions (cs : List Completion) :
    (contributions cs).Pairwise fun a b => a.1 ≠ b.1 := by
  fun_induction contributions cs with
  | case1 => exact List.Pairwise.nil
  | case2 c cs fault hresult ih => exact ih
  | case3 c cs items hresult ih =>
    refine List.pairwise_cons.2 ⟨fun a ha => ?_, ih.filter _⟩
    have hne : a.1 ≠ c.path := by simpa using (List.mem_filter.1 ha).2
    exact hne.symm

lemma completion_mem_iff (hcs : cs.Perm (paths.map disk.completion)) :
    disk.completion p ∈ cs ↔ p ∈ paths := by
  rw [hcs.mem_iff, List.mem_map]
  constructor
  · rintro ⟨q, hq, heq⟩
    rwa [← Disk.path_completion disk p, ← heq, Disk.path_completion]
  · exact fun hp => ⟨p, hp, rfl⟩

lemma areShares_contributions (hpaths : ∀ p ∈ paths, p.IsNormal)
    (hcs : cs.Perm (paths.map disk.completion)) :
    AreShares disk paths ((contributions cs).mergeSort fun a b => a.1.notAfter b.1) := by
  have hcompleted : ∀ c ∈ cs, disk.completion c.path = c := by
    intro c hc
    obtain ⟨p, -, rfl⟩ := List.mem_map.1 (hcs.mem_iff.1 hc)
    rw [Disk.path_completion]
  have hperm := List.mergeSort_perm (contributions cs) fun a b => a.1.notAfter b.1
  have hmem : ∀ p items, (p, items) ∈ (contributions cs).mergeSort (fun a b => a.1.notAfter b.1) ↔
      p ∈ paths ∧ disk.Gives p (.ok items) := by
    intro p items
    rw [hperm.mem_iff, mem_contributions hcompleted, completion_mem_iff hcs]
  refine ⟨?_, hmem⟩
  have hdistinct := (hperm.pairwise_iff fun h => Ne.symm h).2 (pairwise_contributions cs)
  have hnotAfter := List.pairwise_mergeSort (fun a b c => Path.notAfter_trans a.1 b.1 c.1)
    (fun a b => Path.notAfter_total a.1 b.1) (contributions cs)
  refine (hdistinct.and hnotAfter).imp_of_mem ?_
  rintro ⟨p, items⟩ ⟨q, items'⟩ hp hq ⟨hne, hle⟩
  have hpnormal := hpaths p ((hmem p items).1 hp).1
  have hqnormal := hpaths q ((hmem q items').1 hq).1
  exact lt_of_le_of_ne (not_lt.1 (Path.notAfter_iff.1 hle))
    fun hkey => hne (hpnormal.key_inj hqnormal hkey)

/-- Completed files make the corpus of their paths in whatever order they were completed. -/
lemma exists_isOf_ofCompletions (hpaths : ∀ p ∈ paths, p.IsNormal)
    (hcs : cs.Perm (paths.map disk.completion)) :
    ∃ shares, IsOf disk paths shares (ofCompletions cs) := by
  refine ⟨_, areShares_contributions hpaths hcs, rfl, ?_, Text.pairwise_sortedBy _ _⟩
  refine ⟨paths.map fun p => (disk.completion p).outcome, ?_, ?_⟩
  · rw [List.forall₂_map_right_iff, List.forall₂_same]
    exact fun p _ => Disk.tells_iff.2 rfl
  · refine (Text.sortedBy_perm _ _).trans ?_
    simpa [Function.comp_def] using hcs.map Completion.outcome

end Corpus

end Stylebook
