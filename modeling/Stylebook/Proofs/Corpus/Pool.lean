import Mathlib
import Stylebook.Proofs.Corpus.Shares
import Stylebook.Proofs.Disk.Replacing

/-!
# Corpora and workers

The files of a corpus can be dealt with by several workers at a time. Each file is completed on its
own, and so the completed files come in some order that nobody knows. However the workers go about
it, they come to an end, and what they have completed makes one and the same corpus. For the same
reason a file has no say in what becomes of another.
-/

namespace Stylebook

/-! ### A pool of workers -/

/-- A pool of workers in the middle of its work: the paths that it has not been given yet, those that
wait for a worker, those that a worker deals with, and the completed files, before and after they
were collected. -/
structure Pool where
  unsubmitted : List Path
  queue : List Path := []
  running : List Path := []
  finished : List Completion := []
  collected : List Completion := []

namespace Pool

variable {disk : Disk} {concurrency : Int} {paths : List Path} {s s' : Pool}

/-- A pool that is about to be given some paths. -/
def start (paths : List Path) : Pool :=
  { unsubmitted := paths }

/-- What can happen next in a pool. Paths are submitted and taken up by the workers in their order,
and there is a worker at least; a worker may finish and a completed file be collected in any order,
but nothing is collected before all paths are submitted. -/
inductive Step (disk : Disk) (concurrency : Int) (s : Pool) : Pool → Prop
  | submit {p : Path} {ps : List Path} (h : s.unsubmitted = p :: ps) :
      Step disk concurrency s { s with unsubmitted := ps, queue := s.queue ++ [p] }
  | take {p : Path} {ps : List Path} (h : s.queue = p :: ps)
      (hfree : (s.running.length : Int) < max 1 concurrency) :
      Step disk concurrency s { s with queue := ps, running := p :: s.running }
  | finish {p : Path} {ps ps' : List Path} (h : s.running = ps ++ p :: ps') :
      Step disk concurrency s
        { s with running := ps ++ ps', finished := disk.completion p :: s.finished }
  | collect {c : Completion} {cs cs' : List Completion} (hall : s.unsubmitted = [])
      (h : s.finished = cs ++ c :: cs') :
      Step disk concurrency s { s with finished := cs ++ cs', collected := s.collected ++ [c] }

/-- The completed files of a pool, and those that it still has to complete. -/
def completions (disk : Disk) (s : Pool) : List Completion :=
  s.collected ++ s.finished ++ (s.running ++ s.queue ++ s.unsubmitted).map disk.completion

lemma Step.completions_perm (h : Step disk concurrency s s') :
    (s'.completions disk).Perm (s.completions disk) := by
  cases h with
  | submit h => simp [completions, h]
  | @take p ps h hfree =>
    have hmoved : (s.running ++ p :: (ps ++ s.unsubmitted)).Perm
        (p :: (s.running ++ (ps ++ s.unsubmitted))) := List.perm_middle
    simpa [completions, h] using
      (hmoved.map disk.completion).symm.append_left (s.collected ++ s.finished)
  | @finish p ps ps' h =>
    have hmoved : (s.finished ++ ps.map disk.completion ++ disk.completion p ::
          (ps' ++ s.queue ++ s.unsubmitted).map disk.completion).Perm
        (disk.completion p :: (s.finished ++ ps.map disk.completion ++
          (ps' ++ s.queue ++ s.unsubmitted).map disk.completion)) := List.perm_middle
    simpa [completions, h] using hmoved.symm.append_left s.collected
  | @collect c cs cs' hall h =>
    have hmoved : (cs ++ c :: cs').Perm (c :: (cs ++ cs')) := List.perm_middle
    simpa [completions, h] using (hmoved.symm.append_right _).append_left s.collected

/-- How much there is to do: a path has to be submitted, taken up, finished and collected. -/
def remaining (s : Pool) : Nat :=
  4 * s.unsubmitted.length + 3 * s.queue.length + 2 * s.running.length + s.finished.length

lemma Step.remaining_lt (h : Step disk concurrency s s') : s'.remaining < s.remaining := by
  cases h with
  | submit h | take h hfree | finish h | collect hall h =>
    simp only [remaining, h, List.length_append, List.length_cons, List.length_nil]
    omega

lemma acc (disk : Disk) (concurrency : Int) (s : Pool) :
    Acc (fun t t' => Step disk concurrency t' t) s :=
  Subrelation.accessible Step.remaining_lt ((measure remaining).wf.apply s)

/-- A pool in which nothing more can happen has collected all. -/
lemma completions_of_stuck (h : ∀ s', ¬ Step disk concurrency s s') :
    s.completions disk = s.collected := by
  have hunsubmitted : s.unsubmitted = [] := by
    by_contra hne
    obtain ⟨p, ps, heq⟩ := List.exists_cons_of_ne_nil hne
    exact h _ (.submit heq)
  have hfinished : s.finished = [] := by
    by_contra hne
    obtain ⟨c, cs, heq⟩ := List.exists_cons_of_ne_nil hne
    exact h _ (.collect hunsubmitted (heq.trans (List.nil_append _).symm))
  have hrunning : s.running = [] := by
    by_contra hne
    obtain ⟨p, ps, heq⟩ := List.exists_cons_of_ne_nil hne
    exact h _ (.finish (heq.trans (List.nil_append _).symm))
  have hqueue : s.queue = [] := by
    by_contra hne
    obtain ⟨p, ps, heq⟩ := List.exists_cons_of_ne_nil hne
    exact h _ (.take heq (by simp [hrunning]))
  simp [completions, hunsubmitted, hfinished, hrunning, hqueue]

/-- What a pool has collected when nothing more can happen are the completed files of its paths. -/
lemma collected_perm (hrun : Relation.ReflTransGen (Step disk concurrency) (start paths) s)
    (hend : ∀ s', ¬ Step disk concurrency s s') :
    s.collected.Perm (paths.map disk.completion) := by
  have hperm : ∀ {s}, Relation.ReflTransGen (Step disk concurrency) (start paths) s →
      (s.completions disk).Perm (paths.map disk.completion) := by
    intro s hrun
    induction hrun with
    | refl => exact List.Perm.refl _
    | tail _ hstep ih => exact hstep.completions_perm.trans ih
  rw [← completions_of_stuck hend]
  exact hperm hrun

/-- However a pool goes about its paths, it comes to an end, and what it has collected then makes
the items and the outcomes of the corpus. -/
structure Makes (disk : Disk) (concurrency : Int) (paths : List Path) (corpus : Corpus) : Prop where
  ends : Acc (fun s s' => Step disk concurrency s' s) (start paths)
  collects : ∀ s, Relation.ReflTransGen (Step disk concurrency) (start paths) s →
    (∀ s', ¬ Step disk concurrency s s') →
      (Corpus.ofCompletions s.collected).items = corpus.items ∧
      (Corpus.ofCompletions s.collected).outcomes = corpus.outcomes

end Pool

namespace Corpus

variable {disk : Disk} {paths : List Path} {shares : List (Path × List Item)} {c : Corpus}

lemma IsOf.ofCompletions_eq {cs : List Completion} (h : IsOf disk paths shares c)
    (hpaths : ∀ p ∈ paths, p.IsNormal) (hcs : cs.Perm (paths.map disk.completion)) :
    (ofCompletions cs).items = c.items ∧ (ofCompletions cs).outcomes = c.outcomes := by
  obtain ⟨shares', h'⟩ := exists_isOf_ofCompletions hpaths hcs
  exact h'.eq hpaths h

lemma IsOf.makes (h : IsOf disk paths shares c) (hpaths : ∀ p ∈ paths, p.IsNormal)
    (concurrency : Int) : Pool.Makes disk concurrency paths c where
  ends := Pool.acc disk concurrency _
  collects := by
    intro s hrun hend
    exact h.ofCompletions_eq hpaths (Pool.collected_perm hrun hend)

/-! ### The corpus of some paths -/

/-- There is a corpus of some paths just if each of them can name a file. -/
lemma ofPaths_eq_ok_iff : ofPaths disk paths = .ok c ↔
    (∀ p ∈ paths, p.hasNull = false) ∧ c = ofCompletions (paths.map disk.completion) := by
  have hnull : paths.find? Path.hasNull = none ↔ ∀ p ∈ paths, p.hasNull = false := by
    simp [List.find?_eq_none]
  rw [ofPaths, ← hnull]
  cases paths.find? Path.hasNull with
  | some p => exact ⟨nofun, nofun⟩
  | none =>
    constructor
    · rintro ⟨⟩
      exact ⟨rfl, rfl⟩
    · rintro ⟨-, rfl⟩
      rfl

lemma completion_of_setFile {disk' : Disk} {p q : Path} {old bytes : List UInt8}
    (hfile : disk.fileBytes p = .ok old) (hset : disk.setFile p bytes = .ok disk')
    (hother : disk.locate q ≠ disk.locate p) : disk'.completion q = disk.completion q := by
  rw [Disk.completion, Disk.completion, Disk.fileBytes_of_setFile hfile hset hother]

/-- Paths without null characters always have a corpus: the items of the files that can be read,
decoded and parsed, in the order of the paths, and an outcome for each path. The files may be
completed in any order and by any number of workers. Other bytes in one of the files change neither
the share nor the outcomes of a path that leads to another place. -/
theorem ofPaths_independent (disk : Disk) (texts : List String)
    (hnull : ∀ text ∈ texts, (Path.ofText text).hasNull = false) :
    let paths := texts.map Path.ofText
    ∃ corpus shares, ofPaths disk paths = .ok corpus ∧ IsOf disk paths shares corpus ∧
      (∀ cs : List Completion, cs.Perm (paths.map disk.completion) →
        (ofCompletions cs).items = corpus.items ∧ (ofCompletions cs).outcomes = corpus.outcomes) ∧
      (∀ concurrency, Pool.Makes disk concurrency paths corpus) ∧
      ∀ p old bytes disk', disk.fileBytes p = .ok old → disk.setFile p bytes = .ok disk' →
        ∃ corpus' shares', ofPaths disk' paths = .ok corpus' ∧ IsOf disk' paths shares' corpus' ∧
          ∀ q ∈ paths, disk.locate q ≠ disk.locate p →
            (∀ items, (q, items) ∈ shares' ↔ (q, items) ∈ shares) ∧
            corpus'.outcomes.filter (·.path = q.text) =
              corpus.outcomes.filter (·.path = q.text) := by
  intro paths
  have hpaths : ∀ p ∈ paths, p.IsNormal ∧ p.hasNull = false := by
    intro p hp
    obtain ⟨text, htext, rfl⟩ := List.mem_map.1 hp
    exact ⟨Path.isNormal_ofText text, hnull text htext⟩
  have hnormal : ∀ p ∈ paths, p.IsNormal := fun p hp => (hpaths p hp).1
  have hcorpus : ∀ disk, ∃ corpus shares, ofPaths disk paths = .ok corpus ∧
      IsOf disk paths shares corpus := by
    intro disk
    obtain ⟨shares, h⟩ := exists_isOf_ofCompletions hnormal
      (List.Perm.refl (paths.map disk.completion))
    exact ⟨_, shares, ofPaths_eq_ok_iff.2 ⟨fun p hp => (hpaths p hp).2, rfl⟩, h⟩
  obtain ⟨corpus, shares, hok, h⟩ := hcorpus disk
  refine ⟨corpus, shares, hok, h, fun cs hcs => h.ofCompletions_eq hnormal hcs,
    h.makes hnormal, ?_⟩
  intro p old bytes disk' hfile hset
  obtain ⟨corpus', shares', hok', h'⟩ := hcorpus disk'
  refine ⟨corpus', shares', hok', h', fun q hq hother => ?_⟩
  have hcompletion := completion_of_setFile hfile hset hother
  constructor
  · intro items
    rw [h.areShares.mem_iff, h'.areShares.mem_iff, Disk.gives_iff, Disk.gives_iff, hcompletion]
  · rw [h.filter_outcomes hnormal hq, h'.filter_outcomes hnormal hq, hcompletion]

/-- A disk with two files that can be parsed, one below a directory, and two that cannot. -/
def toneDisk : Disk :=
  { top := .directory
      [("grid-a.scss", .file "/// Grid\n@mixin grid\n".toUTF8.toList),
        ("grid", .directory [("tone.scss", .file "/// Tone\n$tone: red;\n".toUTF8.toList)]),
        ("odd.scss", .file "/// @sincee 1\n$odd: 1;\n".toUTF8.toList),
        ("raw.scss", .file [255])] }

/-- Texts of paths, two of the same one and one of no file. -/
def toneTexts : List String :=
  ["grid-a.scss", "none.scss", "odd.scss", "grid/tone.scss", "raw.scss", "./grid-a.scss"]

/-- Among the paths what lies in `grid` comes before `grid-a.scss`, and among their texts after it.
The outcome of one file stays when other bytes are in another. -/
theorem ofPaths_independent_toneDisk :
    let paths := toneTexts.map Path.ofText
    (∀ text ∈ toneTexts, (Path.ofText text).hasNull = false) ∧
      ∃ corpus, ofPaths toneDisk paths = .ok corpus ∧
        corpus.items.map Item.name = ["tone", "grid"] ∧
        corpus.outcomes.map (fun o => (o.path, o.items, o.errorKind)) =
          [("grid-a.scss", 1, none), ("grid-a.scss", 1, none), ("grid/tone.scss", 1, none),
            ("none.scss", 0, some "FileNotFoundError"), ("odd.scss", 0, some "UnknownAnnotation"),
            ("raw.scss", 0, some "UnicodeDecodeError")] ∧
        Pool.Makes toneDisk 0 paths corpus ∧
        ∃ old disk' corpus', toneDisk.fileBytes (.ofText "odd.scss") = .ok old ∧
          toneDisk.setFile (.ofText "odd.scss") [] = .ok disk' ∧ ofPaths disk' paths = .ok corpus' ∧
          corpus'.outcomes.filter (·.path = "raw.scss") =
            corpus.outcomes.filter (·.path = "raw.scss") := by
  intro paths
  have hnull : ∀ text ∈ toneTexts, (Path.ofText text).hasNull = false := by decide +kernel
  obtain ⟨corpus, shares, hok, -, horder, hmakes, hreplace⟩ :=
    ofPaths_independent toneDisk toneTexts hnull
  refine ⟨hnull, corpus, hok, ?_, ?_, hmakes 0, ?_⟩
  · -- completed in the order of the paths, nothing is left to sort
    let order := ["grid/tone.scss", "grid-a.scss", "grid-a.scss", "none.scss", "odd.scss",
      "raw.scss"].map Path.ofText
    have hperm : order.Perm paths := by decide +kernel
    have hsorted : (contributions (order.map toneDisk.completion)).mergeSort
        (fun a b => a.1.notAfter b.1) = contributions (order.map toneDisk.completion) :=
      List.mergeSort_of_pairwise (by decide +kernel)
    rw [← (horder _ (hperm.map toneDisk.completion)).1, ofCompletions, hsorted]
    decide +kernel
  · -- and likewise in the order of their texts
    let order := ["grid-a.scss", "grid-a.scss", "grid/tone.scss", "none.scss", "odd.scss",
      "raw.scss"].map Path.ofText
    have hperm : order.Perm paths := by decide +kernel
    have hsorted : (ofCompletions (order.map toneDisk.completion)).outcomes =
        (order.map toneDisk.completion).map Completion.outcome :=
      List.mergeSort_of_pairwise (by decide +kernel)
    rw [← (horder _ (hperm.map toneDisk.completion)).2, hsorted]
    decide +kernel
  · obtain ⟨corpus', shares', hok', -, hothers⟩ := hreplace (.ofText "odd.scss") _ [] _ rfl rfl
    have hraw := hothers (.ofText "raw.scss") (by decide +kernel) (by decide +kernel)
    exact ⟨_, _, corpus', rfl, rfl, hok', hraw.2⟩

end Corpus

end Stylebook
