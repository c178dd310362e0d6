import Mathlib
import Stylebook.Disk
import Stylebook.Proofs.Store.Index

/-!
# Other bytes in a file

Writing to a file that is there replaces its bytes. Every path leads where it led before, and what is
read at any other place stays as it was.
-/

namespace Stylebook

namespace Tree

variable {t : Tree} {names place : List String} {old bytes : List UInt8}

@[simp] lemma get?_nil (t : Tree) : t.get? [] = some t := by
  simp [get?]

lemma get?_append (t : Tree) (names more : List String) :
    t.get? (names ++ more) = (t.get? names).bind fun below => below.get? more := by
  induction names generalizing t with
  | nil => simp
  | cons name names ih =>
    cases t with
    | file bytes => simp [get?]
    | directory entries =>
      rw [List.cons_append, get?, get?]
      cases Assoc.get? entries name with
      | none => rfl
      | some below => exact ih below

lemma get?_concat {entries : List (String × Tree)} (h : t.get? names = some (.directory entries))
    (name : String) : t.get? (names ++ [name]) = Assoc.get? entries name := by
  rw [get?_append, h, Option.bind_some, get?]
  cases Assoc.get? entries name <;> simp

/-- After other bytes were put in a file, every directory above it has been put together anew, and
all else is as it was. -/
lemma get?_put_file (h : t.get? place = some (.file old)) (names : List String) :
    (t.put (.file bytes) place).get? names = (t.get? names).map fun below =>
      if names <+: place then below.put (.file bytes) (place.drop names.length) else below := by
  induction place generalizing t names with
  | nil =>
    obtain rfl : t = .file old := by simpa using h
    cases names <;> simp [put, get?]
  | cons name place ih =>
    cases t with
    | file bytes => simp [get?] at h
    | directory entries =>
      cases names with
      | nil => simp [put]
      | cons other names =>
        rw [put, get?, get?, Assoc.get?_put]
        by_cases hother : other = name
        · subst hother
          rw [get?] at h
          cases hbelow : Assoc.get? entries other with
          | none => simp [hbelow] at h
          | some below =>
            rw [hbelow] at h
            simpa [hbelow, List.cons_prefix_cons] using ih h names
        · cases Assoc.get? entries other <;> simp [hother, List.cons_prefix_cons]

lemma isDirectory_put_cons (t new : Tree) (name : String) (names : List String) :
    (t.put new (name :: names)).isDirectory = t.isDirectory := by
  cases t <;> rfl

/-- The directories are where they were. -/
lemma map_isDirectory_get?_put (h : t.get? place = some (.file old)) (names : List String) :
    ((t.put (.file bytes) place).get? names).map isDirectory = (t.get? names).map isDirectory := by
  rw [get?_put_file h, Option.map_map]
  by_cases habove : names <+: place
  · obtain ⟨rest, rfl⟩ := habove
    cases rest with
    | nil =>
      rw [List.append_nil] at h
      simp [h, put, isDirectory]
    | cons name rest => simp [Function.comp_def, isDirectory_put_cons]
  · simp [habove, Function.comp_def]

/-- The other files are what they were. -/
lemma get?_put_of_ne {other : List UInt8} (h : t.get? place = some (.file old)) (hne : names ≠ place)
    (hother : t.get? names = some (.file other)) :
    (t.put (.file bytes) place).get? names = some (.file other) := by
  rw [get?_put_file h, hother, Option.map_some]
  by_cases habove : names <+: place
  · obtain ⟨rest, rfl⟩ := habove
    cases rest with
    | nil => simp at hne
    | cons name rest => simp [put]
  · rw [if_neg habove]

end Tree

namespace Disk

variable {d d' : Disk} {p q : Path} {t t' : Tree} {names place : List String}
  {old bytes : List UInt8}

/-! ### Following a path -/

lemma follow_append (t : Tree) (names parts more : List String) :
    follow t names (parts ++ more) = (follow t names parts).bind fun names =>
      follow t names more := by
  induction parts generalizing names with
  | nil => rfl
  | cons part parts ih =>
    rw [List.cons_append, follow, follow]
    split
    · rfl
    · rfl
    · split
      · exact ih _
      · split
        · rfl
        · split
          · rfl
          · exact ih _

/-- One step of following a path, by what is at a place and at the next one: nothing, a file or a
directory. -/
lemma follow_cons (t : Tree) (names : List String) (part : String) (parts : List String) :
    follow t names (part :: parts) =
      match (t.get? names).map Tree.isDirectory with
      | none => .error .missing
      | some false => .error .notDirectory
      | some true =>
        if part = ".." then follow t names.dropLast parts
        else if part.utf8ByteSize > maxName then .error .tooLong
        else if ((t.get? (names ++ [part])).map Tree.isDirectory).isNone then .error .missing
        else follow t (names ++ [part]) parts := by
  rw [follow]
  cases hnames : t.get? names with
  | none => rfl
  | some below =>
    cases below with
    | file bytes => rfl
    | directory entries =>
      simp only [Option.map_some, Tree.isDirectory, Tree.get?_concat hnames, Option.isNone_map]

/-- Where a path leads depends only on where directories and files are. -/
lemma follow_congr
    (h : ∀ names, (t'.get? names).map Tree.isDirectory = (t.get? names).map Tree.isDirectory)
    (names parts : List String) : follow t' names parts = follow t names parts := by
  induction parts generalizing names with
  | nil => rfl
  | cons part parts ih => simp only [follow_cons, h, ih]

/-! ### Writing to a file -/

lemma fileBytes_eq_ok_iff :
    d.fileBytes p = .ok bytes ↔
      ∃ names, d.locate p = .ok names ∧ d.top.get? names = some (.file bytes) := by
  unfold fileBytes find
  constructor
  · intro h
    split at h
    · cases h
    · cases h
    next hfind =>
      cases h
      split at hfind
      · cases hfind
      next names hlocate =>
        split at hfind
        · cases hfind
        next hget =>
          cases hfind
          exact ⟨names, hlocate, hget⟩
  · rintro ⟨names, hlocate, hget⟩
    simp [hlocate, hget]

lemma follow_of_locate (h : d.locate p = .ok names) :
    follow d.top (if p.root.isEmpty then d.here else []) p.parts = .ok names := by
  unfold locate at h
  split at h
  · cases h
  · split at h
    · cases h
    · exact h

lemma place_eq_ok {entries : List (String × Tree)} {last : Option String}
    (h : d.place p = .ok (names, entries, last)) :
    d.locate p.parent = .ok names ∧ d.top.get? names = some (.directory entries) ∧
      p.parts.getLast? = last := by
  unfold place at h
  split at h
  · cases h
  split at h
  · cases h
  split at h
  · cases h
  next hlocate =>
    split at h
    · cases h
    · cases h
    next hget =>
      split at h
      · cases h
      · cases h
        exact ⟨hlocate, hget, rfl⟩

/-- Bytes that are written go to the file that is read. -/
lemma exists_of_setFile (hfile : d.fileBytes p = .ok old) (hset : d.setFile p bytes = .ok d') :
    ∃ place, d.locate p = .ok place ∧ d.top.get? place = some (.file old) ∧
      d' = { d with top := d.top.put (.file bytes) place } := by
  obtain ⟨place, hlocate, hget⟩ := fileBytes_eq_ok_iff.1 hfile
  refine ⟨place, hlocate, hget, ?_⟩
  unfold setFile at hset
  split at hset
  · cases hset
  · cases hset
  next names entries name hplace =>
    split at hset
    · cases hset
    · cases hset
    next hname _ =>
      cases hset
      obtain ⟨hparent, hentries, hlast⟩ := place_eq_ok hplace
      have hparts : p.parts = p.parent.parts ++ [name] :=
        (List.dropLast_append_getLast? name hlast).symm
      -- the file is the entry `name` of the directory that the path lies in
      have hfollow : follow d.top names [name] = .ok place := by
        have hwhole := follow_of_locate hlocate
        rw [hparts, follow_append] at hwhole
        rw [show p.root = p.parent.root from rfl, follow_of_locate hparent] at hwhole
        exact hwhole
      rw [follow_cons, hentries, Option.map_some, Tree.isDirectory] at hfollow
      split_ifs at hfollow with hup
      · simp [hup] at hname
      · cases hfollow
        rfl

/-- What is read at another place does not change when bytes are written to a file. -/
lemma fileBytes_of_setFile (hfile : d.fileBytes p = .ok old) (hset : d.setFile p bytes = .ok d')
    (hother : d.locate q ≠ d.locate p) : d'.fileBytes q = d.fileBytes q := by
  obtain ⟨place, hplace, hget, rfl⟩ := exists_of_setFile hfile hset
  have hshape : ∀ names, ((d.top.put (.file bytes) place).get? names).map Tree.isDirectory =
      (d.top.get? names).map Tree.isDirectory := Tree.map_isDirectory_get?_put hget
  have hlocate : ({ d with top := d.top.put (.file bytes) place } : Disk).locate q = d.locate q := by
    simp only [locate, follow_congr hshape]
  unfold fileBytes find
  rw [hlocate]
  cases hq : d.locate q with
  | error cause => rfl
  | ok names =>
    have hne : names ≠ place := fun heq => hother (by rw [hq, hplace, heq])
    have hnames := hshape names
    simp only
    cases ht : d.top.get? names with
    | none =>
      rw [ht] at hnames
      rw [Option.map_eq_none_iff.1 hnames]
    | some below =>
      cases below with
      | file other => rw [Tree.get?_put_of_ne hget hne ht]
      | directory entries =>
        rw [ht] at hnames
        obtain ⟨below, hbelow, hdirectory⟩ := Option.map_eq_some_iff.1 hnames
        rw [hbelow]
        cases below with
        | file other => cases hdirectory
        | directory entries => rfl

end Disk

end Stylebook
