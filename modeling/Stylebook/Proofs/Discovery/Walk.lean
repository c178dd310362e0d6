import Mathlib
import Stylebook.Discovery
import Stylebook.Proofs.Discovery.Files

/-!
# What a walk finds

A walk does not enter excluded directories. What it finds can still be said without it, by looking
at each file of the tree alone: a source is a file that lies in no excluded directory, is not
excluded itself and has one of the wanted suffixes. The walk gives these files, each once and in
order, and counts the other files that lie in no excluded directory.
-/

namespace Stylebook

/-! ### Suffixes -/

namespace Path

variable {name stem ending : List Char}

/-- The last suffix of a name: a point that is neither the first nor the last character, with all
that follows, which has no other point. -/
structure HasSuffix (name stem ending : List Char) : Prop where
  name_eq : name = stem ++ '.' :: ending
  stem_ne_nil : stem ≠ []
  ending_ne_nil : ending ≠ []
  last : '.' ∉ ending

lemma ne_point_of_mem_reverse (h : '.' ∉ name) : ∀ c ∈ name.reverse, (c != '.') = true := by
  intro c hc
  rw [bne_iff_ne]
  rintro rfl
  exact h (List.mem_reverse.1 hc)

/-- What `suffix` gives for a name with a point, which is its last one. -/
lemma suffix_append_point (stem : List Char) (h : '.' ∉ ending) :
    suffix (stem ++ '.' :: ending) = if ending = [] ∨ stem = [] then [] else '.' :: ending := by
  have hafter : ((stem ++ '.' :: ending).reverse.takeWhile (· != '.')).reverse = ending := by
    rw [List.reverse_append, List.reverse_cons, List.append_assoc,
      List.takeWhile_append_of_pos (ne_point_of_mem_reverse h)]
    simp
  have hlength : (stem ++ '.' :: ending).length - ending.length - 1 = stem.length := by
    simp only [List.length_append, List.length_cons]
    omega
  have hshort : ¬ ending.length = stem.length + (ending.length + 1) := by
    omega
  simp only [suffix, hafter, hlength]
  simp [hshort]

lemma HasSuffix.suffix_eq (h : HasSuffix name stem ending) : suffix name = '.' :: ending := by
  rw [h.name_eq, suffix_append_point stem h.last, if_neg]
  simp [h.stem_ne_nil, h.ending_ne_nil]

lemma exists_last_point (h : '.' ∈ name) :
    ∃ stem ending, name = stem ++ '.' :: ending ∧ '.' ∉ ending := by
  obtain ⟨after, before, hname, hafter⟩ := List.eq_append_cons_of_mem (List.mem_reverse.2 h)
  refine ⟨before.reverse, after.reverse, ?_, by simpa using hafter⟩
  rw [← List.reverse_reverse name, hname]
  simp

lemma exists_hasSuffix (h : suffix name ≠ []) : ∃ stem ending, HasSuffix name stem ending := by
  have hpoint : '.' ∈ name := by
    by_contra hpoint
    apply h
    simp [suffix, List.takeWhile_eq_self_iff.2 (ne_point_of_mem_reverse hpoint)]
  obtain ⟨stem, ending, rfl, hending⟩ := exists_last_point hpoint
  rw [suffix_append_point stem hending] at h
  have hparts : ¬ (ending = [] ∨ stem = []) := by
    intro hempty
    exact h (if_pos hempty)
  rw [not_or] at hparts
  exact ⟨stem, ending, rfl, hparts.2, hparts.1, hending⟩

end Path

namespace Text

lemma lowerCase_cons_ne_nil (c : Char) (s : List Char) : lowerCase (c :: s) ≠ [] := by
  rw [lowerCase, lowerCaseAfter]
  split_ifs <;> simp

end Text

namespace Discovery

/-- Whether a name has one of some extensions: its last suffix and the extension, with a point in
front, are the same in small letters. -/
def HasExtension (extensions : List String) (name : String) : Prop :=
  ∃ stem ending, Path.HasSuffix name.toList stem ending ∧
    ∃ extension ∈ extensions, Text.lowerCase ('.' :: ending) =
      if extension.toList.head? = some '.' then Text.lowerCase extension.toList
      else '.' :: Text.lowerCase extension.toList

lemma suffixOf_eq (extension : String) :
    suffixOf extension = if extension.toList.head? = some '.' then Text.lowerCase extension.toList
      else '.' :: Text.lowerCase extension.toList := by
  simp [suffixOf]

lemma suffixOf_ne_nil (extension : String) : suffixOf extension ≠ [] := by
  rw [suffixOf_eq]
  split
  next hhead =>
    obtain ⟨s, hs⟩ := List.head?_eq_some_iff.1 hhead
    rw [hs]
    exact Text.lowerCase_cons_ne_nil '.' s
  next => exact List.cons_ne_nil _ _

lemma hasSuffix_iff {extensions : List String} {name : String} :
    hasSuffix (extensions.map suffixOf) name = true ↔ HasExtension extensions name := by
  simp only [hasSuffix, List.contains_iff_mem, List.mem_map, HasExtension, ← suffixOf_eq]
  constructor
  · rintro ⟨extension, hmem, heq⟩
    have hsome : Path.suffix name.toList ≠ [] := by
      intro hnone
      rw [hnone] at heq
      exact suffixOf_ne_nil extension heq
    obtain ⟨stem, ending, hname⟩ := Path.exists_hasSuffix hsome
    rw [hname.suffix_eq] at heq
    exact ⟨stem, ending, hname, extension, hmem, heq.symm⟩
  · rintro ⟨stem, ending, hname, extension, hmem, heq⟩
    exact ⟨extension, hmem, by rw [hname.suffix_eq, heq]⟩

/-! ### Files of a tree -/

variable {excluded : String → Bool} {place parts : List String} {entries : List (String × Tree)}

/-- No directory on the way from a place down to a file is excluded, the one at the place included.
Directories are tested with a slash at the end. -/
def IsOpen (excluded : String → Bool) (place rest : List String) : Prop :=
  ∀ above below, rest = above ++ below → below ≠ [] →
    excluded (Path.join (place ++ above) ++ "/") = false

/-- A file below a directory with some entries that lies in no excluded directory. The directory
itself is not tested. -/
structure IsReached (excluded : String → Bool) (entries : List (String × Tree))
    (parts : List String) : Prop where
  file : ∃ bytes, (Tree.directory entries).get? parts = some (.file bytes)
  isOpen : ∀ above below, parts = above ++ below → above ≠ [] → below ≠ [] →
    excluded (Path.join above ++ "/") = false

/-- A source below a directory with some entries. -/
structure IsFound (excluded : String → Bool) (extensions : List String)
    (entries : List (String × Tree)) (parts : List String) : Prop
    extends IsReached excluded entries parts where
  included : excluded (Path.join parts) = false
  extension : ∃ name, parts.getLast? = some name ∧ HasExtension extensions name

lemma isOpen_nil : IsOpen excluded place [] := by
  intro above below heq hbelow
  exact absurd (List.append_eq_nil_iff.1 heq.symm).2 hbelow

lemma isOpen_cons_iff {name : String} {rest : List String} :
    IsOpen excluded place (name :: rest) ↔
      excluded (Path.join place ++ "/") = false ∧ IsOpen excluded (place ++ [name]) rest := by
  constructor
  · intro h
    refine ⟨by simpa using h [] (name :: rest) rfl (List.cons_ne_nil _ _), ?_⟩
    rintro above below rfl hbelow
    simpa using h (name :: above) below rfl hbelow
  · rintro ⟨hplace, h⟩ above below heq hbelow
    cases above with
    | nil => simpa using hplace
    | cons other above =>
      obtain ⟨rfl, rfl⟩ := List.cons.inj heq
      simpa using h above below rfl hbelow

lemma isReached_iff :
    IsReached excluded entries parts ↔ ∃ name rest, parts = name :: rest ∧
      (∃ bytes, (Tree.directory entries).get? (name :: rest) = some (.file bytes)) ∧
      IsOpen excluded [name] rest := by
  constructor
  · rintro ⟨⟨bytes, hfile⟩, hopen⟩
    cases parts with
    | nil => simp at hfile
    | cons name rest =>
      refine ⟨name, rest, rfl, ⟨bytes, hfile⟩, ?_⟩
      rintro above below rfl hbelow
      exact hopen (name :: above) below rfl (List.cons_ne_nil _ _) hbelow
  · rintro ⟨name, rest, rfl, hfile, hopen⟩
    refine ⟨hfile, ?_⟩
    intro above below heq habove hbelow
    obtain ⟨other, above, rfl⟩ := List.exists_cons_of_ne_nil habove
    obtain ⟨rfl, rfl⟩ := List.cons.inj heq
    exact hopen above below rfl hbelow

/-! ### The walk -/

lemma get?_directory_cons {name other : String} {t : Tree} {rest : List String} :
    (Tree.directory ((name, t) :: entries)).get? (other :: rest) =
      if other = name then t.get? rest else (Tree.directory entries).get? (other :: rest) := by
  rw [Tree.get?, Tree.get?, Assoc.get?_cons]
  by_cases h : other = name <;> simp [h]

mutual

/-- What is reached at a place is what lies there below open directories. -/
lemma mem_reachedAt_iff {place parts : List String} {t : Tree} (h : t.isWellNamed = true) :
    parts ∈ reachedAt excluded place t ↔ ∃ rest, parts = place ++ rest ∧
      (∃ bytes, t.get? rest = some (.file bytes)) ∧ IsOpen excluded place rest := by
  match t with
  | .file bytes =>
    rw [reachedAt, List.mem_singleton]
    constructor
    · rintro rfl
      exact ⟨[], by simp, ⟨bytes, Tree.get?_nil _⟩, isOpen_nil⟩
    · rintro ⟨rest, rfl, ⟨bytes', hrest⟩, -⟩
      cases rest with
      | nil => simp
      | cons name rest => simp [Tree.get?] at hrest
  | .directory entries =>
    obtain ⟨hnodup, hentries⟩ := Tree.isWellNamed_directory_iff.1 h
    rw [reachedAt]
    split
    next hplace =>
      constructor
      · intro hparts
        cases hparts
      · rintro ⟨rest, -, ⟨bytes, hrest⟩, hopen⟩
        cases rest with
        | nil => simp at hrest
        | cons name rest => simp [(isOpen_cons_iff.1 hopen).1] at hplace
    next hplace =>
      rw [Bool.not_eq_true] at hplace
      rw [mem_reached_iff hentries hnodup]
      constructor
      · rintro ⟨name, rest, rfl, hfile, hopen⟩
        exact ⟨name :: rest, rfl, hfile, isOpen_cons_iff.2 ⟨hplace, hopen⟩⟩
      · rintro ⟨rest, rfl, ⟨bytes, hfile⟩, hopen⟩
        cases rest with
        | nil => simp at hfile
        | cons name rest => exact ⟨name, rest, rfl, ⟨bytes, hfile⟩, (isOpen_cons_iff.1 hopen).2⟩

/-- What is reached in a directory is what lies there below open directories; the directory itself
has been entered. -/
lemma mem_reached_iff {place parts : List String} {entries : List (String × Tree)}
    (h : Tree.areWellNamed entries = true) (hnodup : (Assoc.keys entries).Nodup) :
    parts ∈ reached excluded place entries ↔ ∃ name rest, parts = place ++ name :: rest ∧
      (∃ bytes, (Tree.directory entries).get? (name :: rest) = some (.file bytes)) ∧
      IsOpen excluded (place ++ [name]) rest := by
  match entries with
  | [] => simp [reached, Tree.get?, Assoc.get?]
  | (name, t) :: entries =>
    obtain ⟨-, ht, hentries⟩ := Tree.areWellNamed_cons_iff.1 h
    obtain ⟨hname, hnodup⟩ := List.nodup_cons.1 hnodup
    rw [reached, List.mem_append, mem_reachedAt_iff ht, mem_reached_iff hentries hnodup]
    simp only [get?_directory_cons]
    constructor
    · rintro (⟨rest, rfl, hfile, hopen⟩ | ⟨other, rest, rfl, hfile, hopen⟩)
      · exact ⟨name, rest, by simp, by simpa using hfile, hopen⟩
      · refine ⟨other, rest, rfl, ?_, hopen⟩
        -- another entry of the same name would hide this file
        have hother : other ≠ name := by
          rintro rfl
          obtain ⟨bytes, hfile⟩ := hfile
          rw [Tree.get?, Assoc.get?_eq_none_iff.2 hname] at hfile
          cases hfile
        simpa [hother] using hfile
    · rintro ⟨other, rest, rfl, hfile, hopen⟩
      by_cases hother : other = name
      · subst hother
        exact .inl ⟨rest, by simp, by simpa using hfile, hopen⟩
      · exact .inr ⟨other, rest, rfl, by simpa [hother] using hfile, hopen⟩

end

lemma mem_reached_iff_isReached (h : (Tree.directory entries).isWellNamed = true) :
    parts ∈ reached excluded [] entries ↔ IsReached excluded entries parts := by
  obtain ⟨hnodup, hentries⟩ := Tree.isWellNamed_directory_iff.1 h
  rw [mem_reached_iff hentries hnodup, isReached_iff]
  simp

/-- The number of files in no excluded directory. -/
lemma ncard_isReached (h : (Tree.directory entries).isWellNamed = true) :
    {parts | IsReached excluded entries parts}.ncard = (reached excluded [] entries).length := by
  obtain ⟨hnodup, hentries⟩ := Tree.isWellNamed_directory_iff.1 h
  have hset : {parts | IsReached excluded entries parts} =
      ((reached excluded [] entries).toFinset : Set (List String)) := by
    ext parts
    simp [mem_reached_iff_isReached h]
  rw [hset, Set.ncard_coe_finset, List.toFinset_card_of_nodup (nodup_reached hentries hnodup [])]

/-! ### Sources -/

variable {root : Path} {extensions : List String}

/-- The files that a walk keeps, before they are put in order. -/
lemma mem_sources_iff (h : (Tree.directory entries).isWellNamed = true) :
    parts ∈ ((reached excluded [] entries).filter fun parts => !excluded (Path.join parts)).filter
      (isSource (extensions.map suffixOf)) ↔ IsFound excluded extensions entries parts := by
  have hsource : isSource (extensions.map suffixOf) parts = true ↔
      ∃ name, parts.getLast? = some name ∧ HasExtension extensions name := by
    rw [isSource, Option.any_eq_true]
    simp only [hasSuffix_iff]
  rw [List.mem_filter, List.mem_filter, mem_reached_iff_isReached h, hsource, Bool.not_eq_true']
  constructor
  · rintro ⟨⟨hreached, hincluded⟩, hextension⟩
    exact ⟨hreached, hincluded, hextension⟩
  · rintro ⟨hreached, hincluded, hextension⟩
    exact ⟨⟨hreached, hincluded⟩, hextension⟩

lemma key_append (root : Path) (parts : List String) :
    (root.append parts).key = root.key ++ parts := by
  rw [Path.key, Path.key, Path.append]
  split <;> rfl

/-- Different files below one path are in order if their components are. -/
lemma pairwise_sorted_append {sources : List (List String)} (h : sources.Nodup) :
    (Path.sorted (sources.map root.append)).Pairwise fun p q => p.key < q.key := by
  have hnodup : ((Path.sorted (sources.map root.append)).map Path.key).Nodup := by
    rw [((Path.sorted_perm _).map Path.key).nodup_iff, List.map_map]
    refine h.map fun parts parts' heq => ?_
    simpa [key_append] using heq
  have hsorted : (Path.sorted (sources.map root.append)).Pairwise fun p q => p.notAfter q = true :=
    List.pairwise_mergeSort Path.notAfter_trans Path.notAfter_total _
  refine (hsorted.and (List.pairwise_map.1 hnodup)).imp ?_
  rintro p q ⟨hle, hne⟩
  exact lt_of_le_of_ne (not_lt.1 (Path.notAfter_iff.1 hle)) hne

/-- A walk below a directory finds exactly the files in no excluded directory that are not excluded
and have one of the extensions, each once, in the order of their components. All other files in no
excluded directory are omitted. The entries of each directory may come in any order. -/
theorem ofDisk_finds_sources {disk : Disk} (excluded : String → Bool) (extensions : List String)
    (hroot : disk.find root = .ok (.directory entries))
    (hentries : (Tree.directory entries).isWellNamed = true) :
    ∃ found, ofDisk (extensions.map suffixOf) excluded disk root = .ok found ∧
      (∀ p, p ∈ found.files ↔
        ∃ parts, p = root.append parts ∧ IsFound excluded extensions entries parts) ∧
      found.files.Pairwise (fun p q => p.key < q.key) ∧
      found.omitted + found.files.length = {parts | IsReached excluded entries parts}.ncard := by
  obtain ⟨hnodup, hnames⟩ := Tree.isWellNamed_directory_iff.1 hentries
  refine ⟨ofEntries (extensions.map suffixOf) excluded root entries, ?_, ?_, ?_, ?_⟩
  · rw [ofDisk, hroot]
  · intro p
    rw [ofEntries, (Path.sorted_perm _).mem_iff, List.mem_map]
    constructor
    · rintro ⟨parts, hparts, rfl⟩
      exact ⟨parts, rfl, (mem_sources_iff hentries).1 hparts⟩
    · rintro ⟨parts, rfl, hparts⟩
      exact ⟨parts, (mem_sources_iff hentries).2 hparts, rfl⟩
  · exact pairwise_sorted_append (((nodup_reached hnames hnodup []).filter _).filter _)
  · rw [ncard_isReached hentries, ofEntries, (Path.sorted_perm _).length_eq, List.length_map]
    apply Nat.sub_add_cancel
    exact (List.length_filter_le _ _).trans (List.length_filter_le _ _)

/-- A directory with an excluded directory, an excluded file and a suffix in capitals. -/
def themeEntries : List (String × Tree) :=
  [("vendor", .directory [("lib.scss", .file [])]), ("tone.SCSS", .file []),
    ("parts", .directory [("draft.scss", .file []), ("notes.txt", .file [])])]

/-- The disk with this directory. -/
def themeDisk : Disk where
  top := .directory [("src", .directory themeEntries)]

/-- What is excluded in this directory. -/
def isVendored (s : String) : Bool :=
  s == "vendor/" || s == "parts/draft.scss"

/-- Of the three files that are reached, the one with the suffix in capitals is found. -/
theorem ofDisk_finds_sources_themeEntries :
    (themeDisk.find ⟨"", ["src"]⟩ = .ok (.directory themeEntries) ∧
        (Tree.directory themeEntries).isWellNamed = true) ∧
      ∃ found, ofDisk (["scss"].map suffixOf) isVendored themeDisk ⟨"", ["src"]⟩ = .ok found ∧
        (found.files = [⟨"", ["src", "tone.SCSS"]⟩] ∧ found.omitted = 2) ∧
        (∀ p, p = ⟨"", ["src", "tone.SCSS"]⟩ ↔
          ∃ parts, p = (⟨"", ["src"]⟩ : Path).append parts ∧
            IsFound isVendored ["scss"] themeEntries parts) ∧
        {parts | IsReached isVendored themeEntries parts}.ncard = 3 := by
  have hroot : themeDisk.find ⟨"", ["src"]⟩ = .ok (.directory themeEntries) := by
    rfl
  have hentries : (Tree.directory themeEntries).isWellNamed = true := by
    decide
  refine ⟨⟨hroot, hentries⟩, ?_⟩
  obtain ⟨found, hfound, hmem, -, hcount⟩ :=
    ofDisk_finds_sources isVendored ["scss"] hroot hentries
  have hofEntries : found = ofEntries (["scss"].map suffixOf) isVendored ⟨"", ["src"]⟩
      themeEntries := by
    rw [ofDisk, hroot] at hfound
    exact (Except.ok.inj hfound).symm
  have hfiles : found.files = [⟨"", ["src", "tone.SCSS"]⟩] := by
    rw [hofEntries]
    decide +kernel
  have homitted : found.omitted = 2 := by
    rw [hofEntries]
    decide +kernel
  rw [hfiles, homitted] at hcount
  simp only [hfiles, List.mem_singleton] at hmem
  exact ⟨found, hfound, ⟨hfiles, homitted⟩, hmem, hcount.symm⟩

end Discovery

end Stylebook
