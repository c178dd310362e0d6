import Mathlib
import Stylebook.Store

/-!
# The index of a store

The index of a store that was built from items holds each name once, and gives for a name an item
of that name. In such a store, a change of the items that the index gives is a map over the items:
each item is changed or kept by itself, and items that the index does not give are kept.
-/

namespace Stylebook

namespace Assoc

variable {α : Type}

lemma get?_cons (k : String) (v : α) (entries : Assoc α) (name : String) :
    get? ((k, v) :: entries) name = if name = k then some v else get? entries name := by
  unfold get?
  by_cases h : name = k
  · simp [h]
  · simp [List.lookup_cons, beq_false_of_ne h, h]

lemma get?_put (entries : Assoc α) (key name : String) (value : α) :
    get? (put entries key value) name = if name = key then some value else get? entries name := by
  induction entries with
  | nil => exact get?_cons key value [] name
  | cons entry entries ih =>
    obtain ⟨k, v⟩ := entry
    rw [put]
    by_cases hk : k = key
    · rw [if_pos hk, get?_cons, get?_cons, hk]
      by_cases h : name = key <;> simp [h]
    · rw [if_neg hk, get?_cons, get?_cons, ih]
      by_cases h : name = k
      · simp [h, hk]
      · simp [h]

lemma keys_put (entries : Assoc α) (key : String) (value : α) :
    keys (put entries key value) =
      if key ∈ keys entries then keys entries else keys entries ++ [key] := by
  unfold keys
  induction entries with
  | nil => rfl
  | cons entry entries ih =>
    obtain ⟨k, v⟩ := entry
    rw [put]
    by_cases hk : k = key
    · simp [hk]
    · simp only [hk, if_false, List.map_cons, ih, List.mem_cons, Ne.symm hk, false_or]
      split <;> rfl

lemma get?_eq_none_iff {entries : Assoc α} {name : String} :
    get? entries name = none ↔ name ∉ keys entries := by
  simp only [get?, keys, List.lookup_eq_none_iff, List.mem_map, not_exists, not_and, bne_iff_ne]
  exact forall₂_congr fun _ _ => ne_comm

end Assoc

namespace Store

variable {s : Store} {item : Item} {name : String} {i : Nat}

/-! ### Stores of items -/

/-- Each name stands in the index once, and leads to the last item of that name. -/
structure IsIndexed (s : Store) : Prop where
  nodup : s.names.Nodup
  named : ∀ {name i}, s.place? name = some i → ∃ item, s.items[i]? = some item ∧ item.name = name
  last : ∀ {name i j item}, s.place? name = some i → s.items[j]? = some item → item.name = name →
    j ≤ i

lemma isIndexed_empty : IsIndexed {} where
  nodup := List.nodup_nil
  named h := nomatch h
  last h := nomatch h

lemma place?_push (s : Store) (item : Item) (name : String) :
    (s.push item).place? name = if name = item.name then some s.items.length else s.place? name :=
  Assoc.get?_put _ _ _ _

lemma names_push (s : Store) (item : Item) :
    (s.push item).names = if item.name ∈ s.names then s.names else s.names ++ [item.name] :=
  Assoc.keys_put _ _ _

lemma IsIndexed.push (h : s.IsIndexed) (item : Item) : (s.push item).IsIndexed where
  nodup := by
    have hnodup := h.nodup
    unfold names at hnodup ⊢
    rw [Store.push, Assoc.keys_put]
    split
    · exact hnodup
    · rename_i hnew
      exact List.nodup_append.2 ⟨hnodup, List.nodup_singleton _, by
        rintro a ha b hb rfl
        rw [List.mem_singleton] at hb
        exact hnew (hb ▸ ha)⟩
  named := by
    intro name i hplace
    rw [place?_push] at hplace
    split at hplace
    · rename_i hname
      cases hplace
      exact ⟨item, by simp [Store.push], hname.symm⟩
    · obtain ⟨other, hother, hname⟩ := h.named hplace
      have hi : i < s.items.length := (List.getElem?_eq_some_iff.1 hother).1
      exact ⟨other, by rw [Store.push, List.getElem?_append_left hi, hother], hname⟩
  last := by
    intro name i j other hplace hother hname
    have hj : j < (s.items ++ [item]).length := (List.getElem?_eq_some_iff.1 hother).1
    rw [List.length_append, List.length_singleton] at hj
    rw [place?_push] at hplace
    split at hplace
    · cases hplace
      omega
    · rename_i hne
      by_cases hlast : j = s.items.length
      · subst hlast
        simp only [Store.push, List.getElem?_concat_length, Option.some.injEq] at hother
        exact absurd (hother ▸ hname).symm hne
      · rw [Store.push, List.getElem?_append_left (by omega)] at hother
        exact h.last hplace hother hname

lemma foldl_push (h : s.IsIndexed) (items : List Item) :
    (items.foldl push s).IsIndexed ∧ (items.foldl push s).items = s.items ++ items ∧
      (items.foldl push s).resolved = s.resolved := by
  induction items generalizing s with
  | nil => exact ⟨h, by simp, rfl⟩
  | cons item items ih =>
    obtain ⟨hindexed, hitems, hresolved⟩ := ih (h.push item)
    refine ⟨hindexed, ?_, hresolved⟩
    rw [List.foldl_cons, hitems, push, List.append_assoc, List.singleton_append]

lemma isIndexed_ofItems (items : List Item) : (ofItems items).IsIndexed :=
  (foldl_push isIndexed_empty items).1

@[simp] lemma items_ofItems (items : List Item) : (ofItems items).items = items :=
  (foldl_push isIndexed_empty items).2.1

@[simp] lemma resolved_ofItems (items : List Item) : (ofItems items).resolved = false :=
  (foldl_push isIndexed_empty items).2.2

/-! ### Looking up names -/

lemma IsIndexed.exists_of_mem (h : s.IsIndexed) (hname : name ∈ s.names) :
    ∃ i item, s.place? name = some i ∧ s.items[i]? = some item ∧ s.get? name = some item := by
  cases hplace : s.place? name with
  | none => exact absurd hname (Assoc.get?_eq_none_iff.1 hplace)
  | some i =>
    obtain ⟨item, hitem, -⟩ := h.named hplace
    exact ⟨i, item, rfl, hitem, by simp [get?, hplace, hitem]⟩

lemma IsIndexed.get?_eq_none_iff (h : s.IsIndexed) : s.get? name = none ↔ name ∉ s.names := by
  constructor
  · intro hget hname
    obtain ⟨i, item, -, -, hitem⟩ := h.exists_of_mem hname
    simp [hget] at hitem
  · intro hname
    simp [get?, place?, Assoc.get?_eq_none_iff.2 hname]

lemma IsIndexed.name_eq (h : s.IsIndexed) (hget : s.get? name = some item) : item.name = name := by
  obtain ⟨i, hplace, hitem⟩ := Option.bind_eq_some_iff.1 hget
  obtain ⟨other, hother, hname⟩ := h.named hplace
  rw [hitem] at hother
  cases hother
  exact hname

lemma IsIndexed.mem_names (h : s.IsIndexed) (hget : s.get? name = some item) : name ∈ s.names := by
  by_contra hname
  simp [h.get?_eq_none_iff.2 hname] at hget

/-- The index gives no item that a later one of the same name shadows. -/
lemma IsIndexed.place?_ne_of_shadowed (h : s.IsIndexed) {j : Nat} {later : Item} (hij : i < j)
    (hitem : s.items[i]? = some item) (hlater : s.items[j]? = some later)
    (hname : item.name = later.name) (name : String) : s.place? name ≠ some i := by
  intro hplace
  obtain ⟨other, hother, hnamed⟩ := h.named hplace
  rw [hitem] at hother
  cases hother
  have hji : j ≤ i := h.last hplace hlater (hname.symm.trans hnamed)
  omega

lemma mem_items_of_get? (hget : s.get? name = some item) : item ∈ s.items := by
  obtain ⟨i, -, hitem⟩ := Option.bind_eq_some_iff.1 hget
  exact List.mem_of_getElem? hitem

lemma eq_of_getElem? {t : Store} (hindex : s.index = t.index) (hresolved : s.resolved = t.resolved)
    (hitems : ∀ i : Nat, s.items[i]? = t.items[i]?) : s = t := by
  obtain ⟨items, index, resolved⟩ := s
  cases hindex
  cases hresolved
  cases List.ext_getElem? hitems
  rfl

/-! ### Changing the items of the index -/

variable {f g : Item → Item}

/-- Change all items that the index gives. -/
def mapIndexed (s : Store) (f : Item → Item) : Store :=
  { s with
    items := s.items.mapIdx fun i item => if s.place? item.name = some i then f item else item }

@[simp] lemma place?_mapIndexed (s : Store) (f : Item → Item) (name : String) :
    (s.mapIndexed f).place? name = s.place? name :=
  rfl

@[simp] lemma names_mapIndexed (s : Store) (f : Item → Item) : (s.mapIndexed f).names = s.names :=
  rfl

lemma getElem?_mapIndexed (s : Store) (f : Item → Item) (i : Nat) :
    (s.mapIndexed f).items[i]? =
      s.items[i]?.map fun item => if s.place? item.name = some i then f item else item := by
  simp [mapIndexed]

/-- An item that the index does not give is kept. -/
lemma getElem?_mapIndexed_of_forall_ne (h : ∀ name, s.place? name ≠ some i) :
    (s.mapIndexed f).items[i]? = s.items[i]? := by
  rw [getElem?_mapIndexed]
  simp [h]

lemma IsIndexed.get?_mapIndexed (h : s.IsIndexed) (f : Item → Item) (name : String) :
    (s.mapIndexed f).get? name = (s.get? name).map f := by
  unfold get?
  cases hplace : s.place? name with
  | none => simp [hplace]
  | some i =>
    obtain ⟨item, hitem, hname⟩ := h.named hplace
    simp [hplace, getElem?_mapIndexed, hitem, hname]

lemma IsIndexed.mapIndexed (h : s.IsIndexed) (hf : ∀ item, (f item).name = item.name) :
    (s.mapIndexed f).IsIndexed where
  nodup := h.nodup
  named := by
    intro name i hplace
    obtain ⟨item, hitem, hname⟩ := h.named hplace
    refine ⟨f item, ?_, (hf item).trans hname⟩
    rw [place?_mapIndexed] at hplace
    simp [getElem?_mapIndexed, hitem, hname, hplace]
  last := by
    intro name i j item hplace hitem hname
    rw [getElem?_mapIndexed] at hitem
    obtain ⟨old, hold, rfl⟩ := Option.map_eq_some_iff.1 hitem
    refine h.last hplace hold ?_
    split at hname
    · exact (hf old).symm.trans hname
    · exact hname

lemma mapIndexed_congr (h : ∀ item, s.get? item.name = some item → f item = g item) :
    s.mapIndexed f = s.mapIndexed g := by
  refine eq_of_getElem? rfl rfl fun i => ?_
  rw [getElem?_mapIndexed, getElem?_mapIndexed]
  refine Option.map_congr fun item hitem => ?_
  split
  · rename_i hplace
    exact h item (by simp [get?, hplace, hitem])
  · rfl

/-- A change that changes no item of the index changes nothing. -/
lemma mapIndexed_eq_self (h : ∀ item, s.get? item.name = some item → f item = item) :
    s.mapIndexed f = s := by
  refine (mapIndexed_congr h).trans (eq_of_getElem? rfl rfl fun i => ?_)
  simp [getElem?_mapIndexed]

lemma mapIndexed_mapIndexed (hf : ∀ item, (f item).name = item.name) (s : Store)
    (g : Item → Item) : (s.mapIndexed f).mapIndexed g = s.mapIndexed fun item => g (f item) := by
  refine eq_of_getElem? rfl rfl fun i => ?_
  simp only [getElem?_mapIndexed, place?_mapIndexed, Option.map_map]
  refine Option.map_congr fun item _ => ?_
  by_cases hplace : s.place? item.name = some i <;> simp [hplace, hf]

/-- Changing the item of one name changes the items of the index that have it. -/
lemma IsIndexed.modify_eq (h : s.IsIndexed) (name : String) (f : Item → Item) :
    s.modify name f = s.mapIndexed fun item => if item.name = name then f item else item := by
  unfold modify
  cases hplace : s.place? name with
  | none =>
    refine (mapIndexed_eq_self fun item hitem => if_neg ?_).symm
    rintro rfl
    simp [get?, hplace] at hitem
  | some i =>
    obtain ⟨item, hitem, hname⟩ := h.named hplace
    refine eq_of_getElem? rfl rfl fun j => ?_
    simp only [getElem?_mapIndexed, List.getElem?_modify]
    by_cases hij : i = j
    · subst hij
      simp [hitem, hname, hplace]
    · simp only [hij, if_false, Option.map_eq_map]
      refine Option.map_congr fun other _ => ?_
      by_cases hother : other.name = name <;> simp [hij, hother, hplace]

end Store

end Stylebook
