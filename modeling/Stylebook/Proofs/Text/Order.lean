import Mathlib
import Stylebook.Text.Order

/-!
# Sorting by keys

Sorting by a key gives the same list in whatever order the elements come, as long as elements of one
key are equal. A change of the elements that keeps their keys can be made before or after sorting.
Where elements of one key differ, they keep their order, and this fixes the sorted list.
-/

namespace Stylebook.Text

variable {α β : Type} {xs ys : List α}

/-- A sorted list does not show in which order its elements came, if no two of them are tied. -/
lemma mergeSort_eq_of_perm {le : α → α → Bool}
    (htrans : ∀ a b c, le a b = true → le b c = true → le a c = true)
    (htotal : ∀ a b, (le a b || le b a) = true)
    (htie : ∀ a ∈ xs, ∀ b ∈ xs, le a b = true → le b a = true → a = b) (h : xs.Perm ys) :
    xs.mergeSort le = ys.mergeSort le := by
  have hx : (xs.mergeSort le).Perm xs := List.mergeSort_perm xs le
  have hy : (ys.mergeSort le).Perm ys := List.mergeSort_perm ys le
  apply @List.Perm.eq_of_pairwise α fun a b => le a b = true
  · intro a b ha hb hab hba
    exact htie a (hx.mem_iff.1 ha) b (h.mem_iff.2 (hy.mem_iff.1 hb)) hab hba
  · exact List.pairwise_mergeSort htrans htotal xs
  · exact List.pairwise_mergeSort htrans htotal ys
  · exact hx.trans (h.trans hy.symm)

/-! ### Keys that are texts -/

variable {key : α → String}

lemma notAfter_iff {a b : String} : notAfter a b = true ↔ a ≤ b := by
  rw [notAfter, Bool.not_eq_true', decide_eq_false_iff_not]
  exact String.not_lt

lemma notAfter_trans (a b c : String) (hab : notAfter a b = true) (hbc : notAfter b c = true) :
    notAfter a c = true := by
  rw [notAfter_iff] at hab hbc ⊢
  exact String.le_trans hab hbc

lemma notAfter_total (a b : String) : (notAfter a b || notAfter b a) = true := by
  rw [Bool.or_eq_true, notAfter_iff, notAfter_iff]
  exact String.le_total a b

lemma sortedBy_perm (key : α → String) (xs : List α) : (sortedBy key xs).Perm xs :=
  List.mergeSort_perm xs _

lemma pairwise_sortedBy (key : α → String) (xs : List α) :
    (sortedBy key xs).Pairwise fun a b => key a ≤ key b := by
  refine (List.pairwise_mergeSort ?_ ?_ xs).imp fun h => notAfter_iff.1 h
  · intro a b c
    exact notAfter_trans (key a) (key b) (key c)
  · intro a b
    exact notAfter_total (key a) (key b)

lemma sortedBy_eq_of_perm (hkey : ∀ a ∈ xs, ∀ b ∈ xs, key a = key b → a = b) (h : xs.Perm ys) :
    sortedBy key xs = sortedBy key ys := by
  apply mergeSort_eq_of_perm _ _ _ h
  · intro a b c
    exact notAfter_trans (key a) (key b) (key c)
  · intro a b
    exact notAfter_total (key a) (key b)
  · intro a ha b hb hab hba
    exact hkey a ha b hb (String.le_antisymm (notAfter_iff.1 hab) (notAfter_iff.1 hba))

lemma sortedBy_map {key' : β → String} {f : α → β} (hf : ∀ a ∈ xs, key' (f a) = key a) :
    sortedBy key' (xs.map f) = (sortedBy key xs).map f := by
  refine (List.map_mergeSort ?_).symm
  intro a ha b hb
  rw [hf a ha, hf b hb]

/-! ### Ties -/

/-- The code points of a text. -/
def codePoints (s : String) : List Nat :=
  s.toList.map Char.toNat

lemma map_toNat_lt_iff (s t : List Char) : s.map Char.toNat < t.map Char.toNat ↔ s < t := by
  induction s generalizing t with
  | nil => cases t <;> simp
  | cons c s ih =>
    cases t with
    | nil => simp
    | cons d t =>
      simp only [List.map_cons, List.cons_lt_cons_iff, ih, Char.toNat_inj]
      rfl

/-- Texts are ordered by their code points. -/
lemma codePoints_le_iff {a b : String} : codePoints a ≤ codePoints b ↔ a ≤ b := by
  rw [← not_lt, codePoints, codePoints, map_toNat_lt_iff, ← String.lt_iff_toList_lt, String.not_lt]

/-- `ys` holds the elements of `xs` in ascending order of their keys, and those of one key in the
order that they have in `xs`. -/
structure IsStableSort (key : α → String) (xs ys : List α) : Prop where
  perm : ys.Perm xs
  ascending : ys.Pairwise fun a b => codePoints (key a) ≤ codePoints (key b)
  stable : ∀ name, ys.filter (key · = name) = xs.filter (key · = name)

lemma filter_sortedBy (key : α → String) (xs : List α) (name : String) :
    (sortedBy key xs).filter (key · = name) = xs.filter (key · = name) := by
  -- Elements of one key are in order as they come, so that sorting keeps them as a sublist.
  have hties : (xs.filter (key · = name)).Pairwise fun a b => notAfter (key a) (key b) = true := by
    refine List.pairwise_of_forall_mem_list ?_
    intro a ha b hb
    simp only [List.mem_filter, decide_eq_true_eq] at ha hb
    rw [ha.2, hb.2, notAfter_iff]
  have hsub : (xs.filter (key · = name)).Sublist (sortedBy key xs) := by
    refine List.sublist_mergeSort ?_ ?_ hties List.filter_sublist
    · intro a b c
      exact notAfter_trans (key a) (key b) (key c)
    · intro a b
      exact notAfter_total (key a) (key b)
  have hsub' : (xs.filter (key · = name)).Sublist ((sortedBy key xs).filter (key · = name)) := by
    simpa using hsub.filter (key · = name)
  have hperm : ((sortedBy key xs).filter (key · = name)).Perm (xs.filter (key · = name)) :=
    (sortedBy_perm key xs).filter _
  exact (hsub'.eq_of_length hperm.length_eq.symm).symm

lemma isStableSort_sortedBy (key : α → String) (xs : List α) :
    IsStableSort key xs (sortedBy key xs) where
  perm := sortedBy_perm key xs
  ascending := (pairwise_sortedBy key xs).imp codePoints_le_iff.2
  stable := filter_sortedBy key xs

lemma mem_iff_of_filter_eq (h : ∀ name, xs.filter (key · = name) = ys.filter (key · = name))
    (a : α) : a ∈ xs ↔ a ∈ ys := by
  have hkey : a ∈ xs.filter (key · = key a) ↔ a ∈ ys.filter (key · = key a) := by rw [h]
  simpa using hkey

lemma key_le_of_mem {a b : α} (h : (a :: xs).Pairwise fun a b => key a ≤ key b)
    (hb : b ∈ a :: xs) : key a ≤ key b := by
  rcases List.mem_cons.1 hb with rfl | hb
  · exact String.le_refl _
  · exact List.rel_of_pairwise_cons h hb

/-- Lists in ascending order are equal if they have the same elements of each key, in the same
order. -/
lemma eq_of_filter_eq (hxs : xs.Pairwise fun a b => key a ≤ key b)
    (hys : ys.Pairwise fun a b => key a ≤ key b)
    (h : ∀ name, xs.filter (key · = name) = ys.filter (key · = name)) : xs = ys := by
  induction xs generalizing ys with
  | nil =>
    refine (List.eq_nil_iff_forall_not_mem.2 ?_).symm
    intro b hb
    cases (mem_iff_of_filter_eq h b).2 hb
  | cons a xs ih =>
    cases ys with
    | nil => cases (mem_iff_of_filter_eq h a).1 List.mem_cons_self
    | cons b ys =>
      have hkey : key a = key b := by
        apply String.le_antisymm
        · exact key_le_of_mem hxs ((mem_iff_of_filter_eq h b).2 List.mem_cons_self)
        · exact key_le_of_mem hys ((mem_iff_of_filter_eq h a).1 List.mem_cons_self)
      -- The first elements are the first ones of their common key.
      obtain rfl : a = b := by
        have hfirst := h (key a)
        rw [List.filter_cons_of_pos (by simp), List.filter_cons_of_pos (by simp [hkey])] at hfirst
        exact (List.cons.inj hfirst).1
      have htail : ∀ name, xs.filter (key · = name) = ys.filter (key · = name) := by
        intro name
        have hname := h name
        simp only [List.filter_cons] at hname
        split at hname
        · exact (List.cons.inj hname).2
        · exact hname
      rw [ih hxs.of_cons hys.of_cons htail]

lemma isStableSort_iff : IsStableSort key xs ys ↔ ys = sortedBy key xs := by
  constructor
  · intro h
    refine eq_of_filter_eq (h.ascending.imp codePoints_le_iff.1) (pairwise_sortedBy key xs) ?_
    intro name
    rw [h.stable, filter_sortedBy]
  · rintro rfl
    exact isStableSort_sortedBy key xs

lemma IsStableSort.filter (h : IsStableSort key xs ys) (p : α → Bool) :
    IsStableSort key (xs.filter p) (ys.filter p) where
  perm := h.perm.filter p
  ascending := h.ascending.filter p
  stable := by
    intro name
    rw [List.filter_comm, h.stable, List.filter_comm]

lemma sortedBy_filter (key : α → String) (p : α → Bool) (xs : List α) :
    sortedBy key (xs.filter p) = (sortedBy key xs).filter p :=
  (isStableSort_iff.1 ((isStableSort_sortedBy key xs).filter p)).symm

lemma sortedBy_of_pairwise (h : xs.Pairwise fun a b => key a ≤ key b) : sortedBy key xs = xs :=
  List.mergeSort_of_pairwise (h.imp notAfter_iff.2)

end Stylebook.Text
