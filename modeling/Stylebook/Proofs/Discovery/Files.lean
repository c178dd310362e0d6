import Mathlib
import Stylebook.Discovery
import Stylebook.Proofs.Disk.Replacing
import Stylebook.Proofs.Path.Normal

/-!
# Discovered files

On a disk the entries of a directory have different names, and each name is one component of a path.
A walk over such a tree reaches every file once, so that the files that are discovered are different
and their paths are as texts write them.
-/

namespace Stylebook

instance (part : String) : Decidable (Path.IsComponent part) :=
  inferInstanceAs (Decidable (part ≠ "" ∧ part ≠ "." ∧ '/' ∉ part.toList))

/-! ### Trees as they are on disks -/

namespace Tree

mutual

/-- Whether the entries of each directory have different names, which are components of paths. -/
def isWellNamed : Tree → Bool
  | .file _ => true
  | .directory entries => decide (Assoc.keys entries).Nodup && areWellNamed entries

/-- Whether this holds of what some entries are and of their names. -/
def areWellNamed : List (String × Tree) → Bool
  | [] => true
  | (name, t) :: entries =>
    decide (Path.IsComponent name) && isWellNamed t && areWellNamed entries

end

variable {t below : Tree} {entries : List (String × Tree)} {names : List String} {name : String}

lemma isWellNamed_directory_iff :
    (directory entries).isWellNamed = true ↔
      (Assoc.keys entries).Nodup ∧ areWellNamed entries = true := by
  simp [isWellNamed]

lemma areWellNamed_cons_iff :
    areWellNamed ((name, t) :: entries) = true ↔
      Path.IsComponent name ∧ t.isWellNamed = true ∧ areWellNamed entries = true := by
  simp [areWellNamed, and_assoc]

lemma isWellNamed_of_get? (h : areWellNamed entries = true)
    (hget : Assoc.get? entries name = some t) : t.isWellNamed = true := by
  induction entries with
  | nil => cases hget
  | cons entry entries ih =>
    obtain ⟨k, below⟩ := entry
    obtain ⟨-, hbelow, hentries⟩ := areWellNamed_cons_iff.1 h
    rw [Assoc.get?_cons] at hget
    split at hget
    · cases hget
      exact hbelow
    · exact ih hentries hget

lemma isWellNamed_get? (h : t.isWellNamed = true) (hget : t.get? names = some below) :
    below.isWellNamed = true := by
  induction names generalizing t with
  | nil =>
    cases hget
    exact h
  | cons name names ih =>
    cases t with
    | file bytes => cases hget
    | directory entries =>
      rw [get?] at hget
      split at hget
      · cases hget
      · rename_i next hnext
        exact ih (isWellNamed_of_get? (isWellNamed_directory_iff.1 h).2 hnext) hget

end Tree

lemma Disk.isWellNamed_find {disk : Disk} {p : Path} {t : Tree}
    (h : disk.top.isWellNamed = true) (hfind : disk.find p = .ok t) : t.isWellNamed = true := by
  unfold find at hfind
  split at hfind
  · cases hfind
  · split at hfind
    · cases hfind
    · rename_i hget
      cases hfind
      exact Tree.isWellNamed_get? h hget

namespace Path

lemma IsNormal.append {p : Path} {parts : List String} (h : p.IsNormal)
    (hparts : ∀ part ∈ parts, IsComponent part) : (p.append parts).IsNormal where
  root := h.root
  parts := by
    intro part hpart
    rcases List.mem_append.1 hpart with hpart | hpart
    · exact h.parts part hpart
    · exact hparts part hpart

lemma sorted_perm (ps : List Path) : (sorted ps).Perm ps :=
  List.mergeSort_perm ps _

end Path

/-! ### Walks -/

namespace Discovery

variable {excluded : String → Bool}

mutual

lemma exists_of_mem_reachedAt {place parts : List String} {t : Tree} (h : t.isWellNamed = true)
    (hparts : parts ∈ reachedAt excluded place t) :
    ∃ rest, parts = place ++ rest ∧ ∀ name ∈ rest, Path.IsComponent name := by
  match t with
  | .file _ => exact ⟨[], by simpa [reachedAt] using hparts, by simp⟩
  | .directory entries =>
    rw [reachedAt] at hparts
    split at hparts
    · cases hparts
    · obtain ⟨name, -, rest, rfl, hrest⟩ :=
        exists_of_mem_reached (Tree.isWellNamed_directory_iff.1 h).2 hparts
      exact ⟨name :: rest, rfl, hrest⟩

/-- What is reached in a directory lies below one of its entries. -/
lemma exists_of_mem_reached {place parts : List String} {entries : List (String × Tree)}
    (h : Tree.areWellNamed entries = true)
    (hparts : parts ∈ reached excluded place entries) :
    ∃ name ∈ Assoc.keys entries, ∃ rest, parts = place ++ name :: rest ∧
      ∀ part ∈ name :: rest, Path.IsComponent part := by
  match entries with
  | [] => cases hparts
  | (name, t) :: entries =>
    obtain ⟨hname, ht, hentries⟩ := Tree.areWellNamed_cons_iff.1 h
    rw [reached, List.mem_append] at hparts
    rcases hparts with hparts | hparts
    · obtain ⟨rest, rfl, hrest⟩ := exists_of_mem_reachedAt ht hparts
      exact ⟨name, List.mem_cons_self, rest, by simp, List.forall_mem_cons.2 ⟨hname, hrest⟩⟩
    · obtain ⟨other, hother, rest, rfl, hrest⟩ := exists_of_mem_reached hentries hparts
      exact ⟨other, List.mem_cons_of_mem _ hother, rest, rfl, hrest⟩

end

mutual

lemma nodup_reachedAt {t : Tree} (h : t.isWellNamed = true) (place : List String) :
    (reachedAt excluded place t).Nodup := by
  match t with
  | .file _ => exact List.nodup_singleton place
  | .directory entries =>
    obtain ⟨hnodup, hentries⟩ := Tree.isWellNamed_directory_iff.1 h
    rw [reachedAt]
    split
    · exact List.nodup_nil
    · exact nodup_reached hentries hnodup place

/-- No file is reached twice, as entries of one directory have different names. -/
lemma nodup_reached {entries : List (String × Tree)} (h : Tree.areWellNamed entries = true)
    (hnodup : (Assoc.keys entries).Nodup) (place : List String) :
    (reached excluded place entries).Nodup := by
  match entries with
  | [] => exact List.nodup_nil
  | (name, t) :: entries =>
    obtain ⟨-, ht, hentries⟩ := Tree.areWellNamed_cons_iff.1 h
    obtain ⟨hname, hnodup⟩ := List.nodup_cons.1 hnodup
    rw [reached, List.nodup_append]
    refine ⟨nodup_reachedAt ht _, nodup_reached hentries hnodup place, ?_⟩
    rintro parts hparts _ hparts' rfl
    obtain ⟨rest, rfl, -⟩ := exists_of_mem_reachedAt ht hparts
    obtain ⟨other, hother, rest', heq, -⟩ := exists_of_mem_reached hentries hparts'
    rw [List.append_assoc, List.singleton_append, List.append_cancel_left_eq] at heq
    cases heq
    exact hname hother

end

/-! ### Files -/

variable {root : Path} {entries : List (String × Tree)}
  {suffixes : List (List Char)}

lemma files_ofEntries (hroot : root.IsNormal) (hnodup : (Assoc.keys entries).Nodup)
    (h : Tree.areWellNamed entries = true) :
    (ofEntries suffixes excluded root entries).files.Nodup ∧
      ∀ p ∈ (ofEntries suffixes excluded root entries).files, p.IsNormal := by
  rw [ofEntries, (Path.sorted_perm _).nodup_iff]
  constructor
  · refine (((nodup_reached h hnodup []).filter _).filter _).map fun parts parts' heq => ?_
    simpa [Path.append] using heq
  · intro p hp
    obtain ⟨parts, hparts, rfl⟩ := List.mem_map.1 ((Path.sorted_perm _).mem_iff.1 hp)
    have hreached := List.mem_of_mem_filter (List.mem_of_mem_filter hparts)
    obtain ⟨name, -, rest, rfl, hrest⟩ := exists_of_mem_reached h hreached
    exact hroot.append hrest

/-- The files that are discovered on a disk are different, and their paths are as texts write
them. -/
theorem files_ofDisk {disk : Disk} {found : Discovery} (hdisk : disk.top.isWellNamed = true)
    (hroot : root.IsNormal) (hfound : ofDisk suffixes excluded disk root = .ok found) :
    found.files.Nodup ∧ ∀ p ∈ found.files, p.IsNormal := by
  unfold ofDisk at hfound
  split at hfound
  · rename_i hfind
    cases hfound
    obtain ⟨hnodup, hentries⟩ :=
      Tree.isWellNamed_directory_iff.1 (Disk.isWellNamed_find hdisk hfind)
    exact files_ofEntries hroot hnodup hentries
  · cases hfound
    simp
  · cases hfound
  · cases hfound
    simp

/-- The order of the suffixes does not count. -/
lemma ofDisk_perm {suffixes suffixes' : List (List Char)} (h : suffixes.Perm suffixes')
    (excluded : String → Bool) (disk : Disk) (root : Path) :
    ofDisk suffixes excluded disk root = ofDisk suffixes' excluded disk root := by
  have hsuffix : hasSuffix suffixes = hasSuffix suffixes' := by
    funext name
    rw [hasSuffix, hasSuffix, Bool.eq_iff_iff, List.contains_iff_mem, List.contains_iff_mem,
      h.mem_iff]
  have hsource : isSource suffixes = isSource suffixes' := by
    funext parts
    rw [isSource, isSource, hsuffix]
  simp only [ofDisk, ofEntries, hsource]

end Discovery

end Stylebook
