import Mathlib
import Stylebook.Command
import Stylebook.Proofs.Catalog.Sections
import Stylebook.Proofs.Extraction.Run
import Stylebook.Proofs.Store.Operations

/-!
# No item is lost

From the files to the catalog no item is lost and none is there twice: reading gives only items with
a kind, different files have different shares, linking keeps the items in their places, and every
item with a kind stands in one section. So the numbers of a report agree with each other.
-/

namespace Stylebook

variable {disk : Disk} {p : Path} {paths : List Path} {shares : List (Path × List Item)}
  {c : Corpus}

/-! ### The items of a file -/

lemma Reading.isDocumented_of_mem {ending : Option ParseError} {ps : List (List Char)} {item : Item}
    (h : item ∈ (ofPassages ending ps).items) : item.isDocumented = true := by
  induction ps with
  | nil => cases h
  | cons p ps ih =>
    rw [ofPassages] at h
    split at h
    · cases h
    · dsimp only at h
      split at h
      · rename_i hdocumented
        rcases List.mem_cons.1 h with rfl | h
        · exact hdocumented
        · exact ih h
      · exact ih h

lemma kind_isSome_of_parseSource {source : List Char} {items : List Item} {item : Item}
    (h : parseSource source = .ok items) (hitem : item ∈ items) : item.kind.isSome = true := by
  unfold parseSource Reading.result at h
  split at h
  · cases h
    exact (Bool.and_eq_true_iff.1 (Reading.isDocumented_of_mem hitem)).1
  · cases h

lemma Disk.Gives.kind_isSome {items : List Item} {item : Item} (h : disk.Gives p (.ok items))
    (hitem : item ∈ items) : item.kind.isSome = true := by
  cases h with
  | parsed _ _ hparse => exact kind_isSome_of_parseSource hparse hitem

/-! ### The shares of different files -/

/-- The share of the file of a path, if it can be parsed. -/
def Disk.share? (disk : Disk) (p : Path) : Option (Path × List Item) :=
  (disk.completion p).result.toOption.map (p, ·)

lemma Disk.share?_eq_some_iff {share : Path × List Item} :
    disk.share? p = some share ↔ p = share.1 ∧ disk.Gives p (.ok share.2) := by
  obtain ⟨q, items⟩ := share
  rw [gives_iff, share?]
  cases (disk.completion p).result <;> simp [Except.toOption]

lemma Disk.items_outcome (disk : Disk) (p : Path) :
    (disk.completion p).outcome.items = ((disk.share? p).toList.flatMap (·.2)).length := by
  unfold Completion.outcome share?
  cases (disk.completion p).result <;> simp [Except.toOption]

namespace Corpus

lemma AreShares.perm (h : AreShares disk paths shares) (hnodup : paths.Nodup) :
    shares.Perm (paths.filterMap disk.share?) := by
  have hfound : (paths.filterMap disk.share?).Nodup := by
    refine hnodup.filterMap fun p q share hp hq => ?_
    exact (Disk.share?_eq_some_iff.1 hp).1.trans (Disk.share?_eq_some_iff.1 hq).1.symm
  rw [List.perm_ext_iff_of_nodup h.nodup hfound]
  rintro ⟨q, items⟩
  rw [h.mem_iff, List.mem_filterMap]
  constructor
  · rintro ⟨hq, hgives⟩
    exact ⟨q, hq, Disk.share?_eq_some_iff.2 ⟨rfl, hgives⟩⟩
  · rintro ⟨p, hp, hshare⟩
    obtain ⟨rfl, hgives⟩ := Disk.share?_eq_some_iff.1 hshare
    exact ⟨hp, hgives⟩

lemma sum_items_outcome (disk : Disk) (paths : List Path) :
    (paths.map fun p => (disk.completion p).outcome.items).sum =
      ((paths.filterMap disk.share?).flatMap (·.2)).length := by
  induction paths with
  | nil => rfl
  | cons p paths ih =>
    rw [List.map_cons, List.sum_cons, ih, Disk.items_outcome]
    cases hshare : disk.share? p <;> simp [hshare]

/-- The outcomes tell of as many items as there are. -/
lemma IsOf.sum_items (h : IsOf disk paths shares c) (hnodup : paths.Nodup) :
    (c.outcomes.map Outcome.items).sum = c.items.length := by
  have hperm := h.outcomes_perm.map Outcome.items
  rw [List.map_map] at hperm
  calc (c.outcomes.map Outcome.items).sum
      = (paths.map fun p => (disk.completion p).outcome.items).sum := hperm.sum_eq
    _ = ((paths.filterMap disk.share?).flatMap (·.2)).length := sum_items_outcome disk paths
    _ = c.items.length := by
      rw [h.items, ((h.areShares.perm hnodup).flatMap_right _).length_eq]

lemma IsOf.items_eq_zero {o : Outcome} (h : IsOf disk paths shares c) (ho : o ∈ c.outcomes)
    (hfailed : o.isOk = false) : o.items = 0 := by
  obtain ⟨p, -, rfl⟩ := List.mem_map.1 (h.outcomes_perm.mem_iff.1 ho)
  cases hresult : (disk.completion p).result with
  | ok items => simp [Completion.outcome, hresult, Outcome.isOk] at hfailed
  | error fault => simp [Completion.outcome, hresult]

lemma IsOf.kind_isSome {item : Item} (h : IsOf disk paths shares c) (hitem : item ∈ c.items) :
    item.kind.isSome = true := by
  rw [h.items] at hitem
  obtain ⟨⟨p, items⟩, hshare, hitem⟩ := List.mem_flatMap.1 hitem
  exact ((h.areShares.mem_iff p items).1 hshare).2.kind_isSome hitem

end Corpus

/-! ### Linked items -/

lemma Item.Becomes.kind_eq {a b : Item} (h : a.Becomes b) : b.kind = a.kind := by
  rw [← h.rest]

lemma Item.map_eq_of_becomes {α : Type} {g : Item → α} {items linked : List Item}
    (hg : ∀ a b, a.Becomes b → g b = g a) (h : List.Forall₂ Becomes items linked) :
    linked.map g = items.map g := by
  induction h with
  | nil => rfl
  | cons hab _ ih => rw [List.map_cons, List.map_cons, ih, hg _ _ hab]

lemma Store.forall₂_linked (s : Store) : List.Forall₂ Item.Becomes s.items s.linked.items :=
  s.forall₂_mapIndexed (fun item _ => .refl item) fun item _ => s.becomes_linkedItem item

/-- What items become stands in the catalog if the items have kinds. -/
lemma Catalog.items_ofItems_perm_of_becomes {items linked : List Item}
    (h : List.Forall₂ Item.Becomes items linked) (hkind : ∀ item ∈ items, item.kind.isSome = true) :
    (ofItems linked).items.Perm linked := by
  refine (items_ofItems_perm linked).trans (List.Perm.of_eq (List.filter_eq_self.2 ?_))
  intro b hb
  have hkinds : linked.map Item.kind = items.map Item.kind :=
    Item.map_eq_of_becomes (fun _ _ => Item.Becomes.kind_eq) h
  obtain ⟨a, ha, hab⟩ := List.mem_map.1 (hkinds ▸ List.mem_map_of_mem hb)
  rw [← hab]
  exact hkind a ha

/-! ### The numbers of a report -/

namespace Report

lemma sum_filter_ne_zero (entries : Assoc Nat) :
    ((entries.filter fun entry => entry.2 != 0).map (·.2)).sum = (entries.map (·.2)).sum := by
  induction entries with
  | nil => rfl
  | cons entry entries ih =>
    by_cases h : entry.2 = 0 <;> simp [h, ih]

lemma sum_countP_kind (ds : List Diagnostic) :
    (Diagnostic.Kind.all.map fun kind => ds.countP (·.kind == kind)).sum = ds.length := by
  induction ds with
  | nil => rfl
  | cons d ds ih =>
    cases hkind : d.kind <;> simp [Diagnostic.Kind.all, List.countP_cons, hkind] at ih ⊢ <;> omega

/-- Every diagnostic is counted once. -/
lemma sum_diagnosticCounts (r : Report) :
    (r.diagnosticCounts.map (·.2)).sum = r.diagnostics.length := by
  rw [diagnosticCounts, sum_filter_ne_zero, List.map_map]
  calc _ = (Diagnostic.Kind.all.map fun kind => r.diagnostics.countP (·.kind == kind)).sum :=
        ((Text.sortedBy_perm _ _).map _).sum_eq
    _ = r.diagnostics.length := sum_countP_kind r.diagnostics

end Report

/-! ### Whole runs -/

namespace Extraction

variable {s : Settings} {e : Extraction}

/-- An extraction keeps what is in the files of some paths: its catalog holds the items of the
shares, each once and as linking made it, and it has one outcome for each path. -/
structure Keeps (disk : Disk) (paths : List Path) (shares : List (Path × List Item))
    (e : Extraction) : Prop where
  areShares : Corpus.AreShares disk paths shares
  items : ∃ linked, List.Forall₂ Item.Becomes (shares.flatMap (·.2)) linked ∧
    e.catalog.items.Perm linked
  names : (e.catalog.items.map Item.name).Perm ((shares.flatMap (·.2)).map Item.name)
  outcome : ∀ p ∈ paths, ∃ o, Outcome.Tells disk p o ∧
    e.outcomes.filter (·.path = p.text) = [o]
  length_outcomes : e.outcomes.length = paths.length
  items_eq_zero : ∀ o ∈ e.outcomes, o.isOk = false → o.items = 0
  sum_items : (e.catalog.functions.length + e.catalog.mixins.length + e.catalog.vars.length : Int) =
    (e.outcomes.map Outcome.items).sum

lemma keeps_ofCorpus (h : Corpus.IsOf disk paths shares c) (hnodup : paths.Nodup)
    (hnormal : ∀ p ∈ paths, p.IsNormal) (omitted : Nat) (validate : Bool) :
    Keeps disk paths shares (ofCorpus c omitted validate) := by
  have hbecomes := (Store.ofItems c.items).forall₂_linked
  rw [Store.items_ofItems] at hbecomes
  have hperm := Catalog.items_ofItems_perm_of_becomes hbecomes fun item => h.kind_isSome
  rw [ofCorpus_eq]
  refine ⟨h.areShares, ⟨_, h.items ▸ hbecomes, hperm⟩, ?_, ?_, ?_, fun o => h.items_eq_zero, ?_⟩
  · rw [← h.items, ← Item.map_eq_of_becomes (fun _ _ => Item.Becomes.name_eq) hbecomes]
    exact hperm.map Item.name
  · intro p hp
    refine ⟨_, Disk.tells_iff.2 rfl, (h.filter_outcomes hnormal hp).trans ?_⟩
    rw [List.count_eq_one_of_mem hnodup hp, List.replicate_one]
  · rw [h.outcomes_perm.length_eq, List.length_map]
  · rw [h.sum_items hnodup, hbecomes.length_eq, ← hperm.length_eq, Catalog.items_eq]
    simp [add_assoc]

/-- The report of an extraction has its outcomes, its diagnostics and the sizes of its sections. -/
lemma eq_of_reportOf {r : Report} (h : Command.reportOf s e = .ok r) :
    r.outcomes = e.outcomes ∧ r.diagnostics = e.diagnostics ∧
      r.categoryCounts = e.catalog.counts.map fun c => (c.1, Int.ofNat c.2) := by
  unfold Command.reportOf at h
  cases hfingerprint : s.fingerprint with
  | error failure =>
    rw [hfingerprint] at h
    cases h
  | ok fingerprint =>
    rw [hfingerprint] at h
    cases h
    exact ⟨rfl, rfl, rfl⟩

lemma sum_categoryCounts {r : Report} (h : Command.reportOf s e = .ok r) :
    (r.categoryCounts.map (·.2)).sum = e.catalog.items.length := by
  rw [(eq_of_reportOf h).2.2, Catalog.items_eq]
  simp [Catalog.counts, Catalog.sections]

lemma Keeps.totalItems_eq {r : Report} (h : Keeps disk paths shares e)
    (hr : Command.reportOf s e = .ok r) :
    r.totalItems = (r.categoryCounts.map (·.2)).sum := by
  obtain ⟨houtcomes, -, -⟩ := eq_of_reportOf hr
  calc r.totalItems = (e.outcomes.map Outcome.items).sum := by
        rw [← houtcomes]
        rfl
    _ = e.catalog.functions.length + e.catalog.mixins.length + e.catalog.vars.length :=
        h.sum_items.symm
    _ = e.catalog.items.length := by simp [Catalog.items_eq, add_assoc]
    _ = (r.categoryCounts.map (·.2)).sum := (sum_categoryCounts hr).symm

/-- No item is lost or doubled by a run on any disk and with any settings, however exclude patterns
are read: what it gives keeps the items of the files that it has found, and the numbers of its
report agree. -/
theorem run_conserves_items (exclusion : Exclusion) (disk : Disk)
    (hdisk : disk.top.isWellNamed = true) (root : String) (s : Settings) (e : Extraction)
    (h : (run exclusion disk (.ofText root) s).result = .ok e) :
    ∃ found shares, discover exclusion disk (.ofText root) s = .ok found ∧
      Keeps disk found.files shares e ∧
      ∀ r, Command.reportOf s e = .ok r →
        r.totalItems = (r.categoryCounts.map (·.2)).sum ∧ r.failedFiles = e.failed.length ∧
        (r.diagnosticCounts.map (·.2)).sum = e.diagnostics.length := by
  obtain ⟨found, n, hfound, -, -, rfl⟩ := result_run_eq_ok_iff.1 h
  obtain ⟨hnodup, hnormal, shares, hcorpus⟩ :=
    exists_isOf_discover hdisk (Path.isNormal_ofText root) hfound
  have hkeeps := keeps_ofCorpus hcorpus hnodup hnormal found.omitted (validates s)
  refine ⟨found, shares, hfound, hkeeps, fun r hr => ?_⟩
  obtain ⟨houtcomes, hdiagnostics, -⟩ := eq_of_reportOf hr
  refine ⟨hkeeps.totalItems_eq hr, ?_, ?_⟩
  · rw [Report.failedFiles, houtcomes, List.countP_eq_length_filter]
    rfl
  · rw [r.sum_diagnosticCounts, hdiagnostics]

lemma exists_fingerprint_barSettings : ∃ text, barSettings.fingerprint = .ok text := by
  let entries := Setting.recordEntries (Settings.fingerprintKeys.map fun key =>
    (.text key, (barSettings.get? key).getD .null))
  have hsort : Atom.sortBy (·.1) entries = .ok entries :=
    congrArg Except.ok (List.mergeSort_of_pairwise (by decide +kernel))
  rw [Settings.fingerprint, Settings.fingerprinted, Setting.canonical, Setting.record, hsort]
  exact ⟨_, rfl⟩

/-- Both items of one name are in the catalog, and the file that fails has an outcome. -/
theorem run_conserves_items_barDisk :
    barDisk.top.isWellNamed = true ∧ ∃ e r,
      (run IgnorePattern.exclusion barDisk (.ofText "") barSettings).result = .ok e ∧
      Command.reportOf barSettings e = .ok r ∧
      (e.catalog.items.map Item.name).Perm ["a", "b", "b"] ∧ e.outcomes.length = 2 ∧
      r.totalItems = 3 ∧ r.totalItems = (r.categoryCounts.map (·.2)).sum ∧
      r.failedFiles = e.failed.length ∧
      (r.diagnosticCounts.map (·.2)).sum = e.diagnostics.length := by
  have hnamed : barDisk.top.isWellNamed = true := by decide +kernel
  obtain ⟨found, hfound, hfiles, hnull⟩ := exists_discover_barDisk
  have hrun := result_run_eq_ok_iff.2 ⟨found, 1, hfound, rfl, hnull, rfl⟩
  obtain ⟨fingerprint, hfingerprint⟩ := exists_fingerprint_barSettings
  obtain ⟨found', shares, hfound', hkeeps, hreport⟩ :=
    run_conserves_items IgnorePattern.exclusion barDisk hnamed "" barSettings _ hrun
  cases hfound.symm.trans hfound'
  have hshares := hkeeps.areShares.perm (hfiles.nodup_iff.2 (by decide +kernel))
  have hnames : ((shares.flatMap (·.2)).map Item.name).Perm ["a", "b", "b"] := by
    refine (((hshares.trans (hfiles.filterMap _)).flatMap_right _).map _).trans ?_
    decide +kernel
  have hcatalog := hkeeps.names.trans hnames
  obtain ⟨r, hr⟩ : ∃ r, Command.reportOf barSettings (ofCorpus
      (.ofCompletions (found.files.map barDisk.completion)) found.omitted
        (validates barSettings)) = .ok r := by
    rw [Command.reportOf, hfingerprint]
    exact ⟨_, rfl⟩
  obtain ⟨htotal, hfailed, hdiagnostics⟩ := hreport r hr
  refine ⟨hnamed, _, r, hrun, hr, hcatalog, ?_, ?_, htotal, hfailed, hdiagnostics⟩
  · exact hkeeps.length_outcomes.trans hfiles.length_eq
  · rw [htotal, sum_categoryCounts hr, ← List.length_map Item.name, hcatalog.length_eq]
    rfl

end Extraction

end Stylebook
