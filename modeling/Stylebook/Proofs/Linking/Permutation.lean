import Mathlib
import Stylebook.Catalog
import Stylebook.Proofs.Linking.Inverse
import Stylebook.Proofs.Text.Order

/-!
# Linking in any order

Items of different names can come in any order: linking them and sorting them into a catalog gives
the same items at the same places. Only the lists of names that linking records on an item follow
the order in which the items came, and so do the diagnostics.
-/

namespace Stylebook

/-! ### Results up to order -/

/-- Items that differ at most in the order of the names that linking has recorded on them. -/
structure Item.Resembles (a b : Item) : Prop where
  aliased : a.aliased.Perm b.aliased
  usedBy : a.usedBy.Perm b.usedBy
  rest : { a with aliased := b.aliased, usedBy := b.usedBy } = b

/-- Catalogs whose sections hold, one by one, items that resemble each other. -/
structure Catalog.Resembles (c d : Catalog) : Prop where
  functions : List.Forall₂ Item.Resembles c.functions d.functions
  mixins : List.Forall₂ Item.Resembles c.mixins d.mixins
  vars : List.Forall₂ Item.Resembles c.vars d.vars

lemma Item.Resembles.kind_eq {a b : Item} (h : a.Resembles b) : a.kind = b.kind := by
  rw [← h.rest]

/-- Sections of items that were changed alike, in two ways, resemble each other. -/
lemma Catalog.forall₂_ofKind {f g : Item → Item} {items items' : List Item}
    (hperm : items.Perm items') (hnames : (items.map Item.name).Nodup)
    (hf : ∀ item, (f item).name = item.name) (hg : ∀ item, (g item).name = item.name)
    (h : ∀ item ∈ items, (f item).Resembles (g item)) (kind : Kind) :
    List.Forall₂ Item.Resembles (ofKind kind (items.map f)) (ofKind kind (items'.map g)) := by
  have htie : ∀ a ∈ items, ∀ b ∈ items, a.name = b.name → a = b := fun a ha b hb =>
    List.inj_on_of_nodup_map hnames ha hb
  have hsorted : Text.sortedBy Item.name items' = Text.sortedBy Item.name items :=
    (Text.sortedBy_eq_of_perm htie hperm).symm
  rw [ofKind, ofKind, Text.sortedBy_map fun item _ => hf item,
    Text.sortedBy_map fun item _ => hg item, hsorted]
  have hmap : List.Forall₂ Item.Resembles ((Text.sortedBy Item.name items).map f)
      ((Text.sortedBy Item.name items).map g) := by
    rw [List.forall₂_map_left_iff, List.forall₂_map_right_iff, List.forall₂_same]
    exact fun item hitem => h item ((Text.sortedBy_perm _ _).mem_iff.1 hitem)
  refine List.rel_filter (fun a b hab => ?_) hmap
  simp only [hab.kind_eq]

namespace Store

variable {s s' : Store} {items items' : List Item} {name : String} {item : Item}

/-! ### Different names -/

lemma names_foldl_push (h : (s.names ++ items.map Item.name).Nodup) :
    (items.foldl push s).names = s.names ++ items.map Item.name := by
  induction items generalizing s with
  | nil => simp
  | cons item items ih =>
    rw [List.map_cons, List.append_cons] at h
    have hnew : item.name ∉ s.names := by
      have hpush := (List.nodup_append.1 h).1
      exact fun hmem => (List.nodup_append.1 hpush).2.2 _ hmem _ (List.mem_singleton_self _) rfl
    have hnames : (s.push item).names = s.names ++ [item.name] := by
      rw [names_push, if_neg hnew]
    rw [List.foldl_cons, ih (hnames ▸ h), hnames, List.map_cons, ← List.append_cons]

/-- Items of different names are all in the index, in their order. -/
lemma names_ofItems (h : (items.map Item.name).Nodup) :
    (ofItems items).names = items.map Item.name := by
  rw [ofItems, names_foldl_push (by simpa [names, Assoc.keys] using h)]
  rfl

lemma get?_ofItems_eq_some_iff (h : (items.map Item.name).Nodup) :
    (ofItems items).get? name = some item ↔ item ∈ items ∧ item.name = name := by
  have hs := isIndexed_ofItems items
  constructor
  · intro hget
    exact ⟨items_ofItems items ▸ mem_items_of_get? hget, hs.name_eq hget⟩
  · rintro ⟨hitem, rfl⟩
    have hname : item.name ∈ (ofItems items).names := by
      rw [names_ofItems h]
      exact List.mem_map_of_mem hitem
    obtain ⟨i, other, -, -, hother⟩ := hs.exists_of_mem hname
    have hmem : other ∈ items := items_ofItems items ▸ mem_items_of_get? hother
    rw [hother, List.inj_on_of_nodup_map h hmem hitem (hs.name_eq hother)]

/-- A change of the items of the index reaches all items of different names. -/
lemma items_mapIndexed_ofItems (h : (items.map Item.name).Nodup) (f : Item → Item) :
    ((ofItems items).mapIndexed f).items = items.map f := by
  have hs := isIndexed_ofItems items
  refine List.ext_getElem? fun i => ?_
  rw [getElem?_mapIndexed, items_ofItems, List.getElem?_map]
  refine Option.map_congr fun item hitem => if_pos ?_
  have hget : (ofItems items).get? item.name = some item :=
    (get?_ofItems_eq_some_iff h).2 ⟨List.mem_of_getElem? hitem, rfl⟩
  obtain ⟨j, hplace, hj⟩ := Option.bind_eq_some_iff.1 hget
  rw [items_ofItems] at hj
  -- The item stands at the place `j` of the index too, and only once in the list.
  have hij : i = j :=
    (List.getElem?_inj (List.getElem?_eq_some_iff.1 hitem).1 h.of_map).1 (hitem.trans hj.symm)
  rw [hplace, hij]

/-! ### Stores that agree -/

/-- Stores that give the same item for each name, and differ at most in the order of the names. -/
structure Agree (s s' : Store) : Prop where
  names : s.names.Perm s'.names
  get?_eq : s.get? = s'.get?

lemma agree_ofItems (hperm : items.Perm items') (hnames : (items.map Item.name).Nodup) :
    Agree (ofItems items) (ofItems items') where
  names := by
    have hnames' : (items'.map Item.name).Nodup := (hperm.map Item.name).nodup_iff.1 hnames
    rw [names_ofItems hnames, names_ofItems hnames']
    exact hperm.map Item.name
  get?_eq := by
    have hnames' : (items'.map Item.name).Nodup := (hperm.map Item.name).nodup_iff.1 hnames
    funext name
    refine Option.ext fun item => ?_
    rw [get?_ofItems_eq_some_iff hnames, get?_ofItems_eq_some_iff hnames', hperm.mem_iff]

namespace Agree

lemma aliasTarget?_eq (h : Agree s s') : s.aliasTarget? = s'.aliasTarget? := by
  funext name
  rw [aliasTarget?, aliasTarget?, h.get?_eq]

lemma needs_eq (h : Agree s s') : s.needs = s'.needs := by
  funext name
  rw [needs, needs, h.get?_eq]

lemma usage_eq (h : Agree s s') : s.usage = s'.usage := by
  funext name
  rw [usage, usage, h.get?_eq]

lemma completeRequirement_eq (h : Agree s s') :
    s.completeRequirement = s'.completeRequirement := by
  funext r
  rw [Store.completeRequirement_eq, Store.completeRequirement_eq, h.get?_eq]

lemma aliasReport_eq (h : Agree s s') : s.aliasReport = s'.aliasReport := by
  funext name
  simp only [aliasReport, h.aliasTarget?_eq, h.names.mem_iff]

lemma needReport_eq (h : Agree s s') : s.needReport = s'.needReport := by
  funext name targets
  simp only [needReport, h.names.mem_iff]

end Agree

/-! ### Linking stores that agree -/

section AddAll

variable {α : Type} [DecidableEq α] {xs xs' ys ys' : List α}

lemma addNew_perm (h : xs.Perm xs') (x : α) : (addNew xs x).Perm (addNew xs' x) := by
  unfold addNew
  by_cases hx : x ∈ xs
  · rw [if_pos hx, if_pos (h.mem_iff.1 hx)]
    exact h
  · rw [if_neg hx, if_neg fun hx' => hx (h.mem_iff.2 hx')]
    exact h.append_right [x]

lemma addNew_comm_perm (xs : List α) (x y : α) :
    (addNew (addNew xs x) y).Perm (addNew (addNew xs y) x) := by
  unfold addNew
  by_cases hxy : x = y
  · rw [hxy]
  · by_cases hx : x ∈ xs <;> by_cases hy : y ∈ xs <;> simp [hx, hy, hxy, Ne.symm hxy]
    exact (List.Perm.swap y x []).append_left xs

lemma addAll_perm_left (h : xs.Perm xs') (ys : List α) : (addAll xs ys).Perm (addAll xs' ys) := by
  induction ys generalizing xs xs' with
  | nil => exact h
  | cons y ys ih => exact ih (addNew_perm h y)

/-- The order in which elements are added shows only in the order of the result. -/
lemma addAll_perm_right (xs : List α) (h : ys.Perm ys') : (addAll xs ys).Perm (addAll xs ys') := by
  induction h generalizing xs with
  | nil => exact List.Perm.refl _
  | cons y _ ih => exact ih (addNew xs y)
  | swap y z ys => exact addAll_perm_left (addNew_comm_perm xs z y) ys
  | trans _ _ ih₁ ih₂ => exact (ih₁ xs).trans (ih₂ xs)

end AddAll

lemma Agree.linkedItem_resembles (h : Agree s s') (t : Item) :
    (s.linkedItem t).Resembles (s'.linkedItem t) where
  aliased := by
    simp only [linkedItem, h.aliasTarget?_eq]
    exact addAll_perm_right _ (h.names.filter _)
  usedBy := by
    simp only [linkedItem, h.needs_eq, h.usage_eq]
    exact addAll_perm_right _ ((h.names.filter _).map _)
  rest := by
    simp only [linkedItem, h.completeRequirement_eq]

lemma Agree.warnings_perm (h : Agree s s') : (warnings s).2.Perm (warnings s').2 := by
  simp only [warnings, h.get?_eq]
  exact h.names.flatMap_right _

lemma Agree.reports_perm (h : Agree s s') (validate : Bool) :
    (s.reports validate).Perm (s'.reports validate) := by
  have haliases : s.aliasReports.Perm s'.aliasReports := by
    rw [aliasReports, aliasReports, h.aliasReport_eq]
    exact h.names.flatMap_right _
  have hneeds : s.needReports.Perm s'.needReports := by
    rw [needReports, needReports, h.needReport_eq, h.needs_eq]
    exact h.names.flatMap_right _
  refine (haliases.append hneeds).append ?_
  cases validate with
  | false => exact List.Perm.refl _
  | true => exact h.warnings_perm

lemma items_linked_ofItems (h : (items.map Item.name).Nodup) :
    (ofItems items).linked.items = items.map (ofItems items).linkedItem :=
  items_mapIndexed_ofItems h _

/-- Linking items of different names and sorting them into a catalog gives resembling items at the
same places in whatever order the items come, and the diagnostics differ only in their order. -/
theorem resolve_perm (items items' : List Item) (hperm : items.Perm items')
    (hnames : (items.map Item.name).Nodup) (validate : Bool) :
    ∃ t ds t' ds', (ofItems items).resolve validate = .ok (t, ds) ∧
      (ofItems items').resolve validate = .ok (t', ds') ∧
      (Catalog.ofItems t.items).Resembles (Catalog.ofItems t'.items) ∧ ds.Perm ds' := by
  have hnames' : (items'.map Item.name).Nodup := (hperm.map Item.name).nodup_iff.1 hnames
  have hagree : Agree (ofItems items) (ofItems items') := agree_ofItems hperm hnames
  have hsection : ∀ kind, List.Forall₂ Item.Resembles
      (Catalog.ofKind kind (ofItems items).linked.items)
      (Catalog.ofKind kind (ofItems items').linked.items) := by
    intro kind
    rw [items_linked_ofItems hnames, items_linked_ofItems hnames']
    exact Catalog.forall₂_ofKind (f := (ofItems items).linkedItem)
      (g := (ofItems items').linkedItem) hperm hnames (fun _ => rfl) (fun _ => rfl)
      (fun item _ => hagree.linkedItem_resembles item) kind
  exact ⟨_, _, _, _, resolve_ofItems items validate, resolve_ofItems items' validate,
    ⟨hsection .function, hsection .mixin, hsection .var⟩, hagree.reports_perm validate⟩

/-- Three items that name each other and an unknown one, and the same items in reverse: the aliases
of `half` are recorded in another order, and all else is at the same place. -/
theorem resolve_perm_columnItems :
    let items := columnItems.drop 1
    items.Perm items.reverse ∧ (items.map Item.name).Nodup ∧
      ∃ t ds t' ds', (ofItems items).resolve true = .ok (t, ds) ∧
        (ofItems items.reverse).resolve true = .ok (t', ds') ∧
        (Catalog.ofItems t.items).Resembles (Catalog.ofItems t'.items) ∧ ds.Perm ds' ∧
        (t.get? "half").map Item.aliased = some ["grid", "size"] ∧
        (t'.get? "half").map Item.aliased = some ["size", "grid"] ∧ ds ≠ ds' := by
  intro items
  have hperm : items.Perm items.reverse := (List.reverse_perm items).symm
  have hnames : (items.map Item.name).Nodup := by decide
  obtain ⟨t, ds, t', ds', hresolve, hresolve', hcatalog, hds⟩ :=
    resolve_perm items items.reverse hperm hnames true
  refine ⟨hperm, hnames, t, ds, t', ds', hresolve, hresolve', hcatalog, hds, ?_⟩
  rw [resolve_ofItems, Except.ok.injEq, Prod.mk.injEq] at hresolve hresolve'
  obtain ⟨rfl, rfl⟩ := hresolve
  obtain ⟨rfl, rfl⟩ := hresolve'
  decide +kernel

end Store

end Stylebook
