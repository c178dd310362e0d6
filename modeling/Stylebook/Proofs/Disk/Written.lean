import Mathlib
import Stylebook.Proofs.Disk.Replacing

/-!
# Reading a file that was written

A file can be written where there is a directory for it, whatever its bytes are. Reading the same
path afterwards gives these bytes.
-/

namespace Stylebook

namespace Tree

variable {t new : Tree} {names : List String} {name : String} {entries : List (String × Tree)}
  {bytes : List UInt8}

/-- What was put in a directory is there. -/
lemma get?_put_concat (h : t.get? names = some (.directory entries)) :
    (t.put new (names ++ [name])).get? (names ++ [name]) = some new := by
  induction names generalizing t with
  | nil =>
    obtain rfl : t = .directory entries := by simpa using h
    simp [put, get?, Assoc.get?_put]
  | cons first names ih =>
    cases t with
    | file bytes => simp [get?] at h
    | directory others =>
      rw [get?] at h
      cases hbelow : Assoc.get? others first with
      | none => simp [hbelow] at h
      | some below =>
        rw [hbelow] at h
        simpa [put, get?, Assoc.get?_put, hbelow] using ih h

/-- When a file is put where no directory is, what is there stays a file or a directory. -/
lemma isDirectory_get?_put_concat (h : t.get? names = some (.directory entries))
    (hnew : ∀ below, Assoc.get? entries name = some below → below.isDirectory = false)
    {place : List String} {b : Bool} (hplace : (t.get? place).map isDirectory = some b) :
    ((t.put (.file bytes) (names ++ [name])).get? place).map isDirectory = some b := by
  induction names generalizing t place with
  | nil =>
    obtain rfl : t = .directory entries := by simpa using h
    cases place with
    | nil => simpa [put, isDirectory] using hplace
    | cons other place =>
      rw [List.nil_append, put, get?, Assoc.get?_put]
      rw [get?] at hplace
      by_cases hother : other = name
      · subst hother
        cases hbelow : Assoc.get? entries other with
        | none => simp [hbelow] at hplace
        | some below =>
          rw [hbelow] at hplace
          cases below with
          | directory others => simpa [isDirectory] using hnew _ hbelow
          | file old => cases place <;> simp_all [put, get?, isDirectory]
      · simpa [hother] using hplace
  | cons first names ih =>
    cases t with
    | file bytes => simp [get?] at h
    | directory others =>
      rw [get?] at h
      cases hbelow : Assoc.get? others first with
      | none => simp [hbelow] at h
      | some below =>
        rw [hbelow] at h
        cases place with
        | nil => simpa [put, isDirectory] using hplace
        | cons other place =>
          rw [List.cons_append, put, get?, Assoc.get?_put]
          rw [get?] at hplace
          by_cases hother : other = first
          · subst hother
            rw [hbelow] at hplace
            simpa [hbelow] using ih h hplace
          · simpa [hother] using hplace

end Tree

namespace Disk

variable {d d' : Disk} {p : Path} {t t' : Tree} {names place parts : List String}
  {bytes : List UInt8}

/-- A path that leads somewhere leads there also when there is more. -/
lemma follow_mono
    (h : ∀ names b, (t.get? names).map Tree.isDirectory = some b →
      (t'.get? names).map Tree.isDirectory = some b)
    (hfollow : follow t names parts = .ok place) : follow t' names parts = .ok place := by
  induction parts generalizing names with
  | nil => exact hfollow
  | cons part parts ih =>
    rw [follow_cons] at hfollow ⊢
    cases hnames : (t.get? names).map Tree.isDirectory with
    | none => simp [hnames] at hfollow
    | some b =>
      rw [hnames] at hfollow
      rw [h names b hnames]
      cases b with
      | false => cases hfollow
      | true =>
        simp only at hfollow ⊢
        split_ifs at hfollow ⊢ with hup hlong hgone hnone
        · exact ih hfollow
        · obtain ⟨b, hb⟩ := Option.ne_none_iff_exists'.1 (mt Option.isNone_iff_eq_none.2 hnone)
          rw [h _ b hb] at hgone
          cases hgone
        · exact ih hfollow

/-- What a place must pass for a file to be written there. -/
lemma place_limits {entries : List (String × Tree)} {last : Option String}
    (h : d.place p = .ok (names, entries, last)) :
    p.hasNull = false ∧ ¬ p.text.utf8ByteSize > maxPath ∧
      ¬ p.parts.getLast?.any (·.utf8ByteSize > maxName) = true := by
  unfold place at h
  split at h
  · cases h
  next hnull =>
    split at h
    · cases h
    next hlong =>
      refine ⟨by simpa using hnull, hlong, ?_⟩
      intro hname
      split at h
      · cases h
      · split at h
        · cases h
        · cases h
        · rw [if_pos hname] at h
          cases h

/-- Where a file is written: in a directory, under a name that no directory has. -/
lemma setFile_eq_ok_iff :
    d.setFile p bytes = .ok d' ↔
      ∃ names entries name, d.place p = .ok (names, entries, some name) ∧ name ≠ ".." ∧
        (∀ below, Assoc.get? entries name = some below → below.isDirectory = false) ∧
        d' = { d with top := d.top.put (.file bytes) (names ++ [name]) } := by
  unfold setFile
  constructor
  · intro h
    split at h
    · cases h
    · cases h
    next names entries name hplace =>
      split at h
      · cases h
      · cases h
      next hup hnew =>
        cases h
        refine ⟨names, entries, name, hplace, by simpa using hup, ?_, rfl⟩
        intro below hbelow
        cases below with
        | file old => rfl
        | directory others => exact absurd hbelow (hnew others)
  · rintro ⟨names, entries, name, hplace, hup, hnew, rfl⟩
    rw [hplace]
    simp only [beq_false_of_ne hup]
    cases hbelow : Assoc.get? entries name with
    | none => rfl
    | some below =>
      cases below with
      | file old => rfl
      | directory others => cases hnew _ hbelow

/-- Whether a file can be written does not depend on its bytes. -/
lemma exists_setFile_of_setFile (h : d.setFile p bytes = .ok d') (other : List UInt8) :
    ∃ d'', d.setFile p other = .ok d'' := by
  obtain ⟨names, entries, name, hplace, hup, hnew, -⟩ := setFile_eq_ok_iff.1 h
  exact ⟨_, setFile_eq_ok_iff.2 ⟨names, entries, name, hplace, hup, hnew, rfl⟩⟩

/-- The bytes of a file that was written. -/
theorem fileBytes_setFile (h : d.setFile p bytes = .ok d') : d'.fileBytes p = .ok bytes := by
  obtain ⟨names, entries, name, hplace, hup, hnew, rfl⟩ := setFile_eq_ok_iff.1 h
  obtain ⟨hparent, hentries, hlast⟩ := place_eq_ok hplace
  obtain ⟨hnull, hpath, hname⟩ := place_limits hplace
  have hparts : p.parts = p.parent.parts ++ [name] :=
    (List.dropLast_append_getLast? name hlast).symm
  have hmono : ∀ place b, (d.top.get? place).map Tree.isDirectory = some b →
      ((d.top.put (.file bytes) (names ++ [name])).get? place).map Tree.isDirectory = some b :=
    fun _ _ hplace => Tree.isDirectory_get?_put_concat hentries hnew hplace
  have hthere : (d.top.put (.file bytes) (names ++ [name])).get? (names ++ [name]) =
      some (.file bytes) := Tree.get?_put_concat hentries
  refine fileBytes_eq_ok_iff.2 ⟨names ++ [name], ?_, hthere⟩
  rw [locate, if_neg (by simp [hnull]), if_neg hpath, hparts, follow_append]
  -- the directory is found as before, and the name leads to the file in it
  rw [show p.root = p.parent.root from rfl, follow_mono hmono (follow_of_locate hparent)]
  have hdirectory := hmono names true (by rw [hentries]; rfl)
  have hshort : ¬ name.utf8ByteSize > maxName := by simpa [hlast] using hname
  change follow _ names [name] = .ok (names ++ [name])
  rw [follow_cons, hdirectory]
  simp [hup, hshort, hthere, follow]

end Disk

end Stylebook
