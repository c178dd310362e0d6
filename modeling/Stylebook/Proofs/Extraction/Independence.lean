import Mathlib
import Stylebook.Proofs.Extraction.Run
import Stylebook.Proofs.Setting.Equal

/-!
# Settings that have no say in what is extracted

Which files are found depends only on the extensions, in any order, and on the exclude patterns, in
their order. Checking types and links adds diagnostics at the end and changes nothing else, and
however many workers there are, and in whatever order they complete the files, they make one and the
same extraction.
-/

namespace Stylebook

/-! ### Runs of a pool -/

/-- A pool can always be brought to its end. -/
lemma Pool.exists_end (disk : Disk) (concurrency : Int) (s : Pool) :
    ∃ t, Relation.ReflTransGen (Step disk concurrency) s t ∧
      ∀ t', ¬ Step disk concurrency t t' := by
  induction acc disk concurrency s with
  | intro s _ ih =>
    by_cases hend : ∃ t, Step disk concurrency s t
    · obtain ⟨t, hstep⟩ := hend
      obtain ⟨u, hrun, hu⟩ := ih t hstep
      exact ⟨u, hrun.head hstep, hu⟩
    · exact ⟨s, .refl, not_exists.1 hend⟩

/-! ### Reading exclude patterns -/

/-- Equal elements are read alike. Of texts this says nothing, as equal texts are the same. -/
def Exclusion.TakesEqualAlike (exclusion : Exclusion) : Prop :=
  ∀ vs ws, List.Forall₂ Setting.Equal vs ws → Matched Eq (exclusion vs) (exclusion ws)

namespace IgnorePattern

variable {v w : Setting}

lemma ofElement_eq_error (h : ¬ ∃ t, v = .text t) : ofElement v = .error .patternNotText := by
  unfold ofElement
  split
  next s => exact absurd ⟨s, rfl⟩ h
  next => rfl

lemma ofElement_congr (h : Setting.Equal v w) : ofElement v = ofElement w := by
  by_cases htext : ∃ t, v = .text t
  · obtain ⟨t, rfl⟩ := htext
    rw [Setting.text_equal_iff.1 h]
  · have htext' : ¬ ∃ t, w = .text t := by
      rintro ⟨t, rfl⟩
      exact htext ⟨t, Setting.equal_text_iff.1 h⟩
    rw [ofElement_eq_error htext, ofElement_eq_error htext']

lemma takesEqualAlike_exclusion : Exclusion.TakesEqualAlike exclusion := by
  intro vs ws h
  have hpatterns : (vs.filter Setting.isTruthy).mapM ofElement =
      (ws.filter Setting.isTruthy).mapM ofElement := by
    induction h with
    | nil => rfl
    | cons h _ ih =>
      rw [List.filter_cons, List.filter_cons, h.isTruthy_eq]
      split
      · rw [List.mapM_cons, List.mapM_cons, ofElement_congr h, ih]
      · exact ih
  exact .of_eq (by rw [exclusion, exclusion, hpatterns])

end IgnorePattern

namespace Extraction

variable {exclusion : Exclusion} {disk : Disk} {root : Path} {s s' : Settings} {e : Extraction}

/-! ### Runs with a pool -/

/-- What a run may give when the files that it finds are dealt with by a pool of workers. -/
inductive MayGive (exclusion : Exclusion) (disk : Disk) (root : Path) (s : Settings) :
    Extraction → Prop
  | intro {found : Discovery} {n : Int} {pool : Pool}
      (hfound : discover exclusion disk root s = .ok found)
      (hn : concurrency s = .ok n) (hnull : ∀ p ∈ found.files, p.hasNull = false)
      (hrun : Relation.ReflTransGen (Pool.Step disk n) (Pool.start found.files) pool)
      (hend : ∀ pool', ¬ Pool.Step disk n pool pool') :
      MayGive exclusion disk root s
        (ofCorpus (.ofCompletions pool.collected) found.omitted (validates s))

/-- Of a corpus only the items and the outcomes show in an extraction. -/
lemma ofCorpus_congr {c c' : Corpus} (hitems : c.items = c'.items)
    (houtcomes : c.outcomes = c'.outcomes) (omitted : Nat) (validate : Bool) :
    ofCorpus c omitted validate = ofCorpus c' omitted validate := by
  simp only [ofCorpus, hitems, houtcomes]

/-- The workers make what a run gives, and nothing else. -/
lemma mayGive_iff_of_run {e' : Extraction} (hdisk : disk.top.isWellNamed = true)
    (hroot : root.IsNormal) (h : (run exclusion disk root s).result = .ok e) :
    MayGive exclusion disk root s e' ↔ e' = e := by
  obtain ⟨found, n, hfound, hn, hnull, rfl⟩ := result_run_eq_ok_iff.1 h
  obtain ⟨-, hnormal, shares, hcorpus⟩ := exists_isOf_discover hdisk hroot hfound
  have hpool : ∀ pool n, Relation.ReflTransGen (Pool.Step disk n) (Pool.start found.files) pool →
      (∀ pool', ¬ Pool.Step disk n pool pool') →
        ofCorpus (.ofCompletions pool.collected) found.omitted (validates s) = ofCorpus
          (.ofCompletions (found.files.map disk.completion)) found.omitted (validates s) := by
    intro pool n hrun hend
    obtain ⟨hitems, houtcomes⟩ := (hcorpus.makes hnormal n).collects pool hrun hend
    exact ofCorpus_congr hitems houtcomes _ _
  constructor
  · rintro ⟨hfound', hn', -, hrun, hend⟩
    cases hfound.symm.trans hfound'
    exact hpool _ _ hrun hend
  · rintro rfl
    obtain ⟨pool, hrun, hend⟩ := Pool.exists_end disk n (.start found.files)
    rw [← hpool pool n hrun hend]
    exact .intro hfound hn hnull hrun hend

/-! ### Settings that are gone by -/

lemma rel_getD {α : Type} {r : α → α → Prop} {x y : Option α} {a : α} (h : Option.Rel r x y)
    (ha : r a a) : r (x.getD a) (y.getD a) := by
  cases h with
  | some h => exact h
  | none => exact ha

lemma matched_suffixes
    (h : Option.Rel Setting.Equal (s.get? "extensions") (s'.get? "extensions")) :
    Matched List.Perm (suffixes s) (suffixes s') := by
  have hdefault : Setting.Equal (.list [.text ".scss"]) (.list [.text ".scss"]) :=
    .list (.cons (Setting.text_equal_iff.2 rfl) .nil)
  unfold suffixes
  rcases (rel_getD h hdefault).matched_texts.exists_or with
    ⟨ts, ts', hts, hts', hperm⟩ | ⟨f, g, hf, hg⟩
  · rw [hts, hts']
    exact .ok (hperm.map _)
  · rw [hf, hg]
    exact .error

lemma matched_excluded (hexclusion : exclusion.TakesEqualAlike)
    (h : Option.Rel Setting.EqualInOrder (s.get? "exclude") (s'.get? "exclude")) :
    Matched Eq (excluded exclusion s) (excluded exclusion s') := by
  have hdefault : Setting.EqualInOrder (.list []) (.list []) := .ok .nil
  unfold excluded
  rcases (rel_getD h hdefault).exists_or with ⟨vs, ws, hvs, hws, hequal⟩ | ⟨f, g, hf, hg⟩
  · rw [hvs, hws]
    exact hexclusion vs ws hequal
  · rw [hf, hg]
    exact .error

/-- The files that are found depend on two settings only. -/
lemma discover_eq_ok_iff (hexclusion : exclusion.TakesEqualAlike)
    (hextensions : Option.Rel Setting.Equal (s.get? "extensions") (s'.get? "extensions"))
    (hexclude : Option.Rel Setting.EqualInOrder (s.get? "exclude") (s'.get? "exclude"))
    {found : Discovery} :
    discover exclusion disk root s = .ok found ↔ discover exclusion disk root s' = .ok found := by
  unfold discover
  rcases (matched_suffixes hextensions).exists_or with
    ⟨suffixes, suffixes', hs, hs', hperm⟩ | ⟨f, g, hf, hg⟩
  · rcases (matched_excluded hexclusion hexclude).exists_or with
      ⟨test, _, ht, ht', rfl⟩ | ⟨f, g, hf, hg⟩
    · simp only [hs, hs', ht, ht', Discovery.ofDisk_perm hperm]
    · simp only [hs, hs', hf, hg]
      exact ⟨nofun, nofun⟩
  · simp only [hf, hg]
    exact ⟨nofun, nofun⟩

/-- Checking types and links adds to the diagnostics. -/
lemma diagnostics_ofCorpus_true (corpus : Corpus) (omitted : Nat) :
    (ofCorpus corpus omitted true).diagnostics = (ofCorpus corpus omitted false).diagnostics ++
      (Store.warnings (Store.ofItems corpus.items)).2 := by
  rw [ofCorpus_eq, ofCorpus_eq]
  simp [Store.reports]

/-- With equal extensions, and with equal exclude patterns in the same order, a run succeeds just if
another does, whatever the other settings are, and they give the same catalog and the same outcomes.
A run that does not check types and links misses only what this check reports at the end. -/
theorem run_independent (exclusion : Exclusion) (hexclusion : exclusion.TakesEqualAlike)
    (disk : Disk) (root : String) (s s' : Settings) (n n' : Int)
    (hextensions : Option.Rel Setting.Equal (s.get? "extensions") (s'.get? "extensions"))
    (hexclude : Option.Rel Setting.EqualInOrder (s.get? "exclude") (s'.get? "exclude"))
    (hn : concurrency s = .ok n) (hn' : concurrency s' = .ok n') :
    ((∃ e, (run exclusion disk (.ofText root) s).result = .ok e) ↔
      ∃ e', (run exclusion disk (.ofText root) s').result = .ok e') ∧
    ∀ e e', (run exclusion disk (.ofText root) s).result = .ok e →
      (run exclusion disk (.ofText root) s').result = .ok e' →
      e'.catalog = e.catalog ∧ e'.outcomes = e.outcomes ∧ e'.omitted = e.omitted ∧
      (validates s = validates s' → e'.diagnostics = e.diagnostics) ∧
      (validates s = true → validates s' = false →
        ∃ more, e.diagnostics = e'.diagnostics ++ more ∧
          ∀ d ∈ more, d.kind = .invalidType ∨ d.kind = .invalidLink) ∧
      (disk.top.isWellNamed = true →
        ∀ e'', MayGive exclusion disk (.ofText root) s' e'' ↔ e'' = e') := by
  have hdiscover : ∀ {found}, discover exclusion disk (.ofText root) s = .ok found ↔
      discover exclusion disk (.ofText root) s' = .ok found :=
    discover_eq_ok_iff hexclusion hextensions hexclude
  refine ⟨⟨?_, ?_⟩, ?_⟩
  · rintro ⟨e, h⟩
    obtain ⟨found, -, hfound, -, hnull, -⟩ := result_run_eq_ok_iff.1 h
    exact ⟨_, result_run_eq_ok_iff.2 ⟨found, n', hdiscover.1 hfound, hn', hnull, rfl⟩⟩
  · rintro ⟨e', h⟩
    obtain ⟨found, -, hfound, -, hnull, -⟩ := result_run_eq_ok_iff.1 h
    exact ⟨_, result_run_eq_ok_iff.2 ⟨found, n, hdiscover.2 hfound, hn, hnull, rfl⟩⟩
  · intro e e' h h'
    obtain ⟨found, -, hfound, -, -, rfl⟩ := result_run_eq_ok_iff.1 h
    obtain ⟨found', -, hfound', -, -, rfl⟩ := result_run_eq_ok_iff.1 h'
    cases (hdiscover.1 hfound).symm.trans hfound'
    refine ⟨?_, rfl, rfl, ?_, ?_, ?_⟩
    · rw [ofCorpus_eq, ofCorpus_eq]
    · intro hvalidates
      rw [hvalidates]
    · intro hs hs'
      rw [hs, hs']
      exact ⟨_, diagnostics_ofCorpus_true _ _, fun d => Store.kind_of_mem_warnings⟩
    · intro hdisk e''
      exact mayGive_iff_of_run hdisk (Path.isNormal_ofText root) h'

/-- Settings that leave out the same directory, check nothing and ask for two workers. -/
def quickSettings : Settings :=
  [(.text "warnings", .bool false), (.text "concurrency", .text "2"),
    (.text "exclude", .list [.text "lib/"]), (.text "output", .null)]

lemma reports_barDisk {found : Discovery}
    (hfound : discover IgnorePattern.exclusion barDisk (.ofText "") barSettings = .ok found)
    (hfiles : found.files.Perm [.ofText "bar.scss", .ofText "odd.scss"]) (validate : Bool) :
    (ofCorpus (.ofCompletions (found.files.map barDisk.completion)) found.omitted
      validate).diagnostics = .unresolvedRequirement "b" "c" ::
        if validate then [.invalidLink "a" "tone"] else [] := by
  obtain ⟨-, hnormal, shares, hcorpus⟩ :=
    exists_isOf_discover (by decide +kernel) (Path.isNormal_ofText "") hfound
  -- only one of the files has a share, so that there is nothing to sort
  have hitems := (hcorpus.ofCompletions_eq hnormal (hfiles.symm.map barDisk.completion)).1
  have hsorted : (Corpus.contributions ([.ofText "bar.scss", .ofText "odd.scss"].map
      barDisk.completion)).mergeSort (fun a b => a.1.notAfter b.1) = Corpus.contributions
        ([.ofText "bar.scss", .ofText "odd.scss"].map barDisk.completion) :=
    List.mergeSort_of_pairwise (by decide +kernel)
  rw [ofCorpus_eq, ← hitems, Corpus.ofCompletions, hsorted]
  dsimp only
  cases validate <;> decide +kernel

/-- What the check of links reports comes last, and is all that the quick run misses. -/
theorem run_independent_barDisk :
    Exclusion.TakesEqualAlike IgnorePattern.exclusion ∧
      Option.Rel Setting.Equal (barSettings.get? "extensions")
        (quickSettings.get? "extensions") ∧
      Option.Rel Setting.EqualInOrder (barSettings.get? "exclude")
        (quickSettings.get? "exclude") ∧
      concurrency barSettings = .ok 1 ∧ concurrency quickSettings = .ok 2 ∧
      ∃ e e', (run IgnorePattern.exclusion barDisk (.ofText "") barSettings).result = .ok e ∧
        (run IgnorePattern.exclusion barDisk (.ofText "") quickSettings).result = .ok e' ∧
        e'.catalog = e.catalog ∧ e'.outcomes = e.outcomes ∧ e'.omitted = e.omitted ∧
        e.diagnostics = [.unresolvedRequirement "b" "c", .invalidLink "a" "tone"] ∧
        e'.diagnostics <+: e.diagnostics ∧
        ∀ e'', MayGive IgnorePattern.exclusion barDisk (.ofText "") quickSettings e'' ↔
          e'' = e' := by
  have hexclusion := IgnorePattern.takesEqualAlike_exclusion
  have hextensions : Option.Rel Setting.Equal (barSettings.get? "extensions")
      (quickSettings.get? "extensions") := .none
  have hexclude : Option.Rel Setting.EqualInOrder (barSettings.get? "exclude")
      (quickSettings.get? "exclude") := by
    have hlist : Setting.Equal (.list [.text "lib/"]) (.list [.text "lib/"]) :=
      .list (.cons (Setting.text_equal_iff.2 rfl) .nil)
    exact .some (hlist.equalInOrder (by simp) (by simp))
  obtain ⟨found, hfound, hfiles, hnull⟩ := exists_discover_barDisk
  have hrun := result_run_eq_ok_iff.2 ⟨found, 1, hfound, rfl, hnull, rfl⟩
  obtain ⟨hiff, hequal⟩ := run_independent IgnorePattern.exclusion hexclusion barDisk ""
    barSettings quickSettings 1 2 hextensions hexclude rfl rfl
  obtain ⟨e', hrun'⟩ := hiff.1 ⟨_, hrun⟩
  obtain ⟨hcatalog, houtcomes, homitted, -, hmore, hmay⟩ := hequal _ _ hrun hrun'
  obtain ⟨more, hdiagnostics, -⟩ := hmore rfl rfl
  refine ⟨hexclusion, hextensions, hexclude, rfl, rfl, _, e', hrun, hrun', hcatalog, houtcomes,
    homitted, reports_barDisk hfound hfiles _, ⟨more, hdiagnostics.symm⟩, hmay (by decide +kernel)⟩

/-- The entry of one source. -/
def loneEntries : List (String × Tree) :=
  [("a.scss", .file "/// A\n$a: 1;\n".toUTF8.toList)]

/-- The disk with this entry. -/
def loneDisk : Disk :=
  { top := .directory loneEntries }

/-- Settings whose exclude patterns are the keys of a map: all sources are left out, and this one is
taken back. -/
def takenBackSettings : Settings :=
  [(.text "extensions", .list [.text ".scss"]),
    (.text "exclude", .map [(.text "*.scss", .null), (.text "!a.scss", .null)])]

/-- The same keys in the other order: this source is taken back, and then all are left out. -/
def leftOutSettings : Settings :=
  [(.text "extensions", .list [.text ".scss"]),
    (.text "exclude", .map [(.text "!a.scss", .null), (.text "*.scss", .null)])]

/-- The source is found unless it is excluded, and omitted if it is. -/
lemma ofEntries_loneEntries (test : String → Bool) :
    (Discovery.ofEntries [".scss".toList] test (.ofText "") loneEntries).files.Perm
        ((if test "a.scss" then [] else [["a.scss"]]).map (Path.ofText "").append) ∧
      (Discovery.ofEntries [".scss".toList] test (.ofText "") loneEntries).omitted =
        if test "a.scss" then 1 else 0 := by
  have hjoin : Path.join ["a.scss"] = "a.scss" := by decide +kernel
  have hsources : ((Discovery.reached test [] loneEntries).filter fun parts =>
      !test (Path.join parts)).filter (Discovery.isSource [".scss".toList]) =
        if test "a.scss" then [] else [["a.scss"]] := by
    change ([["a.scss"]].filter _).filter _ = _
    rw [List.filter_singleton, hjoin]
    cases test "a.scss" with
    | true => rfl
    | false => decide +kernel
  constructor
  · rw [← hsources]
    exact Path.sorted_perm _
  · rw [Discovery.ofEntries]
    dsimp only
    rw [hsources]
    cases test "a.scss" with
    | true => rfl
    | false => rfl

lemma exists_run_loneDisk {test : String → Bool} (hsuffixes : suffixes s = .ok [".scss".toList])
    (htest : excluded IgnorePattern.exclusion s = .ok test) (hn : concurrency s = .ok 1) :
    ∃ e, (run IgnorePattern.exclusion loneDisk (.ofText "") s).result = .ok e ∧
      e.outcomes.length = (if test "a.scss" then 0 else 1) ∧
      e.omitted = if test "a.scss" then 1 else 0 := by
  have hfound : discover IgnorePattern.exclusion loneDisk (.ofText "") s =
      .ok (.ofEntries [".scss".toList] test (.ofText "") loneEntries) :=
    discover_eq_ofEntries hsuffixes htest rfl
  obtain ⟨hfiles, homitted⟩ := ofEntries_loneEntries test
  refine ⟨_, result_run_eq_ok_iff.2 ⟨_, 1, hfound, hn, ?_, rfl⟩, ?_, homitted⟩
  · intro p hp
    have hp := hfiles.mem_iff.1 hp
    cases htest : test "a.scss" with
    | true => simp [htest] at hp
    | false =>
      rw [htest] at hp
      rw [List.mem_singleton.1 hp]
      decide +kernel
  · rw [ofCorpus, Corpus.ofCompletions]
    dsimp only
    rw [(Text.sortedBy_perm _ _).length_eq, List.length_map, List.length_map]
    refine hfiles.length_eq.trans ?_
    cases test "a.scss" with
    | true => rfl
    | false => rfl

/-- The order of exclude patterns counts, also where they are keys of equal maps. -/
theorem run_depends_on_exclude_order :
    Option.Rel Setting.Equal (takenBackSettings.get? "extensions")
        (leftOutSettings.get? "extensions") ∧
      Option.Rel Setting.Equal (takenBackSettings.get? "exclude")
        (leftOutSettings.get? "exclude") ∧
      ∃ e e',
        (run IgnorePattern.exclusion loneDisk (.ofText "") takenBackSettings).result = .ok e ∧
        (run IgnorePattern.exclusion loneDisk (.ofText "") leftOutSettings).result = .ok e' ∧
        e.outcomes.length = 1 ∧ e.omitted = 0 ∧ e'.outcomes.length = 0 ∧ e'.omitted = 1 := by
  have hextensions : Option.Rel Setting.Equal (takenBackSettings.get? "extensions")
      (leftOutSettings.get? "extensions") :=
    .some (.list (.cons (Setting.text_equal_iff.2 rfl) .nil))
  have hexclude : Option.Rel Setting.Equal (takenBackSettings.get? "exclude")
      (leftOutSettings.get? "exclude") := by
    refine .some (.map ?_ ?_ (.swap _ _ _))
    · exact List.forall₂_same.2 (by simp [Settings.keys, Atom.text_same_iff])
    · exact .cons (.atom rfl) (.cons (.atom rfl) .nil)
  obtain ⟨e, hrun, houtcomes, homitted⟩ := exists_run_loneDisk (s := takenBackSettings) rfl
    (excluded_eq_ok (by decide +kernel)) rfl
  obtain ⟨e', hrun', houtcomes', homitted'⟩ := exists_run_loneDisk (s := leftOutSettings) rfl
    (excluded_eq_ok (by decide +kernel)) rfl
  refine ⟨hextensions, hexclude, e, e', hrun, hrun', houtcomes.trans ?_, homitted.trans ?_,
    houtcomes'.trans ?_, homitted'.trans ?_⟩ <;> decide +kernel

end Extraction

end Stylebook
