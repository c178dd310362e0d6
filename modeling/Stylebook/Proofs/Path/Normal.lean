import Mathlib
import Stylebook.Path
import Stylebook.Proofs.Text.Collapsed

/-!
# Paths and their texts

A path that was read from a text is read back from its own text, so that its text names no other
such path. Neither does its key: the slashes at the start of a path are never a component of one.
-/

namespace Stylebook

namespace Text

lemma splitOn_eq (separator : Char) (s : List Char) : splitOn separator s = s.splitOn separator := by
  induction s with
  | nil => rfl
  | cons c s ih =>
    rw [splitOn, List.splitOn_cons_eq_if_modifyHead, ih]
    cases hs : s.splitOn separator with
    | nil => exact absurd hs (List.splitOn_ne_nil _ _)
    | cons l ls => rfl

lemma not_mem_of_mem_splitOn (separator : Char) (s : List Char) :
    ∀ l ∈ splitOn separator s, separator ∉ l := by
  induction s with
  | nil => simp [splitOn]
  | cons c s ih =>
    rw [splitOn]
    split
    · exact List.forall_mem_cons.2 ⟨List.not_mem_nil, ih⟩
    next hc =>
      have hne : separator ≠ c := fun heq => hc (beq_iff_eq.2 heq.symm)
      refine extendFirst_forall (by simpa using hne) (fun l hl => ?_) ih
      exact List.not_mem_cons_of_ne_of_not_mem hne (ih l hl)

end Text

namespace Path

variable {p q : Path} {parts : List String} {s : List Char}

/-- A component that cutting a text at its slashes can give and that is not dropped. -/
def IsComponent (part : String) : Prop :=
  part ≠ "" ∧ part ≠ "." ∧ '/' ∉ part.toList

/-- A path as texts write it. -/
structure IsNormal (p : Path) : Prop where
  root : p.root = "" ∨ p.root = "/" ∨ p.root = "//"
  parts : ∀ part ∈ p.parts, IsComponent part

lemma isNormal_ofText (text : String) : (ofText text).IsNormal where
  root := by
    simp only [ofText]
    unfold rootOf
    split <;> simp
  parts := by
    intro part hpart
    simp only [ofText, List.mem_filter, List.mem_map, Bool.and_eq_true, bne_iff_ne] at hpart
    obtain ⟨⟨cs, hcs, rfl⟩, hempty, hpoint⟩ := hpart
    refine ⟨hempty, hpoint, ?_⟩
    rw [String.toList_ofList]
    exact Text.not_mem_of_mem_splitOn '/' text.toList cs hcs

/-! ### Reading a written path -/

/-- The components that a text writes. -/
def components (s : List Char) : List String :=
  ((Text.splitOn '/' s).map String.ofList).filter fun p => p != "" && p != "."

lemma components_slash (s : List Char) : components ('/' :: s) = components s := by
  simp [components, Text.splitOn]

lemma components_join (h : ∀ part ∈ parts, IsComponent part) :
    components (join parts).toList = parts := by
  by_cases hparts : parts = []
  · subst hparts
    decide
  · have hsplit : Text.splitOn '/' (join parts).toList = parts.map String.toList := by
      rw [Text.splitOn_eq, join, String.toList_intercalate]
      refine List.splitOn_intercalate '/' ?_ (by simpa using hparts)
      rintro l hl
      obtain ⟨part, hpart, rfl⟩ := List.mem_map.1 hl
      exact (h part hpart).2.2
    rw [components, hsplit, List.map_map]
    have hid : String.ofList ∘ String.toList = id := funext fun s => String.ofList_toList
    rw [hid, List.map_id, List.filter_eq_self]
    intro part hpart
    have hcomponent := h part hpart
    simp [hcomponent.1, hcomponent.2.1]

/-- What is written of components does not start with a slash. -/
lemma head?_join_ne (h : ∀ part ∈ parts, IsComponent part) : (join parts).toList.head? ≠ some '/' := by
  cases parts with
  | nil => decide
  | cons part parts =>
    obtain ⟨hempty, -, hslash⟩ := h part List.mem_cons_self
    have hpart : part.toList ≠ [] := by simpa using hempty
    obtain ⟨c, cs, hcs⟩ := List.exists_cons_of_ne_nil hpart
    have hc : c ≠ '/' := by
      rintro rfl
      simp [hcs] at hslash
    rw [join, String.toList_intercalate, List.map_cons, hcs]
    cases parts <;> simpa [List.intercalate] using hc

lemma IsNormal.rootOf_append (h : p.IsNormal) (hs : s.head? ≠ some '/') :
    rootOf (p.root.toList ++ s) = p.root := by
  rcases h.root with hroot | hroot | hroot <;> rw [hroot] <;> cases s with
  | nil => decide
  | cons c s =>
    have hc : c ≠ '/' := by simpa using hs
    simp [rootOf, hc]

lemma IsNormal.components_append (h : p.IsNormal) (s : List Char) :
    components (p.root.toList ++ s) = components s := by
  rcases h.root with hroot | hroot | hroot <;> rw [hroot]
  · rfl
  · exact components_slash s
  · exact (components_slash _).trans (components_slash s)

/-- A path as texts write it is read back from its text. -/
lemma IsNormal.ofText_text (h : p.IsNormal) : ofText p.text = p := by
  by_cases hempty : p.root.isEmpty && p.parts.isEmpty
  · obtain ⟨root, parts⟩ := p
    obtain ⟨hroot, hparts⟩ : root = "" ∧ parts = [] := by simpa using hempty
    subst hroot hparts
    decide
  · have hroot : rootOf p.text.toList = p.root := by
      rw [text, if_neg hempty, String.toList_append, h.rootOf_append (head?_join_ne h.parts)]
    have hparts : components p.text.toList = p.parts := by
      rw [text, if_neg hempty, String.toList_append, h.components_append, components_join h.parts]
    calc ofText p.text = ⟨rootOf p.text.toList, components p.text.toList⟩ := rfl
      _ = p := by rw [hroot, hparts]

lemma IsNormal.text_inj (hp : p.IsNormal) (hq : q.IsNormal) (h : p.text = q.text) : p = q := by
  rw [← hp.ofText_text, h, hq.ofText_text]

/-! ### The order of paths -/

/-- The start of a path is no component. -/
lemma IsNormal.root_not_mem (hp : p.IsNormal) (hq : q.IsNormal) (h : p.root.isEmpty = false) :
    p.root ∉ q.parts := by
  intro hmem
  have hslash := (hq.parts _ hmem).2.2
  rcases hp.root with hroot | hroot | hroot <;> simp [hroot] at h hslash

lemma IsNormal.key_inj (hp : p.IsNormal) (hq : q.IsNormal) (h : p.key = q.key) : p = q := by
  have hmem : ∀ {r r' : Path}, r.root :: r.parts = r'.parts → r.root ∈ r'.parts :=
    fun hparts => hparts ▸ List.mem_cons_self
  suffices p.root = q.root ∧ p.parts = q.parts by
    cases p
    cases q
    simp_all
  cases hproot : p.root.isEmpty <;> cases hqroot : q.root.isEmpty <;>
    simp only [key, hproot, hqroot, if_true, Bool.false_eq_true, if_false] at h
  · exact List.cons.inj h
  · exact absurd (hmem h) (hp.root_not_mem hq hproot)
  · exact absurd (hmem h.symm) (hq.root_not_mem hp hqroot)
  · exact ⟨(String.isEmpty_iff.1 hproot).trans (String.isEmpty_iff.1 hqroot).symm, h⟩

lemma notAfter_iff : p.notAfter q = true ↔ ¬ q.key < p.key := by
  simp [notAfter]

lemma notAfter_trans (p q r : Path) (hpq : p.notAfter q = true) (hqr : q.notAfter r = true) :
    p.notAfter r = true := by
  rw [notAfter_iff] at hpq hqr ⊢
  exact fun h => hpq (lt_of_le_of_lt (not_lt.1 hqr) h)

lemma notAfter_total (p q : Path) : (p.notAfter q || q.notAfter p) = true := by
  rw [Bool.or_eq_true, notAfter_iff, notAfter_iff, not_lt, not_lt]
  exact le_total p.key q.key

end Path

end Stylebook
