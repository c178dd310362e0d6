import Mathlib
import Stylebook.Extraction
import Stylebook.IgnorePattern
import Stylebook.Proofs.Corpus.Pool
import Stylebook.Proofs.Discovery.Files
import Stylebook.Proofs.Linking.Inverse

/-!
# Runs of an extraction

What a run gives, said once: when it gives an extraction at all, and of which corpus. The results
about whole runs start from here. They hold for every way to read exclude patterns; the samples take
ignore patterns.
-/

namespace Stylebook.Extraction

variable {exclusion : Exclusion} {disk : Disk} {root : Path} {s : Settings} {e : Extraction}
  {found : Discovery}

/-- A run gives an extraction if sources can be looked for, the concurrency is a number and no path
has a null character; then the extraction is that of the completed files. -/
lemma result_run_eq_ok_iff :
    (run exclusion disk root s).result = .ok e ↔
      ∃ found n, discover exclusion disk root s = .ok found ∧
      concurrency s = .ok n ∧ (∀ p ∈ found.files, p.hasNull = false) ∧
      e = ofCorpus (.ofCompletions (found.files.map disk.completion)) found.omitted
        (validates s) := by
  unfold run
  constructor
  · intro h
    split at h
    · cases h
    · rename_i found hfound
      dsimp only at h
      split at h
      · cases h
      · rename_i n hn
        split at h
        · cases h
        · rename_i corpus hcorpus
          obtain ⟨hnull, rfl⟩ := Corpus.ofPaths_eq_ok_iff.1 hcorpus
          cases h
          exact ⟨found, n, hfound, hn, hnull, rfl⟩
  · rintro ⟨found, n, hfound, hn, hnull, rfl⟩
    simp only [hfound, hn, Corpus.ofPaths_eq_ok_iff.2 ⟨hnull, rfl⟩]

/-- The files that a run finds are different, and their completions make the corpus of them. -/
lemma exists_isOf_discover (hdisk : disk.top.isWellNamed = true) (hroot : root.IsNormal)
    (h : discover exclusion disk root s = .ok found) :
    found.files.Nodup ∧ (∀ p ∈ found.files, p.IsNormal) ∧ ∃ shares,
      Corpus.IsOf disk found.files shares (.ofCompletions (found.files.map disk.completion)) := by
  unfold discover at h
  split at h
  · cases h
  · split at h
    · cases h
    · obtain ⟨hnodup, hnormal⟩ := Discovery.files_ofDisk hdisk hroot h
      exact ⟨hnodup, hnormal, Corpus.exists_isOf_ofCompletions hnormal (List.Perm.refl _)⟩

/-- An extraction is linked as the store of the items of its corpus is. -/
lemma ofCorpus_eq (corpus : Corpus) (omitted : Nat) (validate : Bool) :
    ofCorpus corpus omitted validate =
      { catalog := .ofItems (Store.ofItems corpus.items).linked.items
        diagnostics := (Store.ofItems corpus.items).reports validate
        outcomes := corpus.outcomes
        omitted := omitted } := by
  rw [ofCorpus, Store.link_eq (Store.isIndexed_ofItems corpus.items)]

/-- A file with an unknown annotation, a directory, a file of three items, two of them of one name,
and a file that is no source. -/
def barEntries : List (String × Tree) :=
  [("odd.scss", .file "/// @sincee 1\n$odd: 1;\n".toUTF8.toList),
    ("lib", .directory [("c.scss", .file "/// C\n@function c\n".toUTF8.toList)]),
    ("bar.scss", .file ("/// A\n/// @link tone\n$a: 1;\n/// B\n@mixin b\n"
      ++ "/// B\n/// @require c\n@mixin b\n").toUTF8.toList),
    ("read.me", .file [])]

/-- The disk with these entries. -/
def barDisk : Disk :=
  { top := .directory barEntries }

/-- Settings that leave the directory out. -/
def barSettings : Settings :=
  [(.text "exclude", .list [.text "lib/"])]

lemma discover_eq_ofEntries {suffixes : List (List Char)} {test : String → Bool}
    {entries : List (String × Tree)} (hsuffixes : Extraction.suffixes s = .ok suffixes)
    (hexcluded : excluded exclusion s = .ok test)
    (hfind : disk.find root = .ok (.directory entries)) :
    discover exclusion disk root s = .ok (.ofEntries suffixes test root entries) := by
  rw [discover, hsuffixes]
  simp only [hexcluded, Discovery.ofDisk, hfind]

lemma excluded_eq_ok (h : (excluded exclusion s).toOption.isSome = true) :
    excluded exclusion s = .ok ((excluded exclusion s).toOption.getD fun _ => false) := by
  cases htest : excluded exclusion s with
  | error failure => simp [htest, Except.toOption] at h
  | ok test => rfl

lemma exists_discover_barDisk :
    ∃ found, discover IgnorePattern.exclusion barDisk (.ofText "") barSettings = .ok found ∧
      found.files.Perm [.ofText "bar.scss", .ofText "odd.scss"] ∧
      ∀ p ∈ found.files, p.hasNull = false := by
  suffices ∃ found,
      discover IgnorePattern.exclusion barDisk (.ofText "") barSettings = .ok found ∧
        found.files.Perm [.ofText "bar.scss", .ofText "odd.scss"] by
    obtain ⟨found, hfound, hfiles⟩ := this
    refine ⟨found, hfound, hfiles, fun p hp => ?_⟩
    have hp := hfiles.mem_iff.1 hp
    simp only [List.mem_cons, List.not_mem_nil, or_false] at hp
    rcases hp with rfl | rfl <;> decide +kernel
  refine ⟨_, discover_eq_ofEntries rfl (excluded_eq_ok (by decide +kernel)) rfl, ?_⟩
  -- nothing here hangs on the order in which the files are sorted
  refine (Path.sorted_perm _).trans ?_
  decide +kernel

end Stylebook.Extraction
