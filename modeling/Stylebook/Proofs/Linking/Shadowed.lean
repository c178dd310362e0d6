import Mathlib
import Stylebook.Proofs.Catalog.Sections
import Stylebook.Proofs.Linking.Inverse

/-!
# Requirements of shadowed items

The catalog shows all items, but linking reaches only those that the index gives, the last of each
name. The requirements of these are completed wherever their targets exist. An item that a later one
of its name shadows is shown as it was, whatever exists.
-/

namespace Stylebook

/-- Every requirement of an item for one of some names has a kind. -/
def Item.IsComplete (names : List String) (item : Item) : Prop :=
  ∀ r ∈ item.requires, r.target ∈ names → r.kind.isSome = true

instance (names : List String) (item : Item) : Decidable (item.IsComplete names) :=
  inferInstanceAs (Decidable (∀ r ∈ item.requires, r.target ∈ names → r.kind.isSome = true))

namespace Store

variable {s : Store} {items : List Item} {item : Item} {name : String} {i : Nat}

/-! ### Shadowed items -/

/-- An item of a list that a later one of its name shadows. -/
def IsShadowed (items : List Item) (item : Item) : Prop :=
  ∃ (i j : Nat) (later : Item), i < j ∧ items[i]? = some item ∧ items[j]? = some later ∧
    item.name = later.name

lemma mem_names_push : name ∈ (s.push item).names ↔ name ∈ s.names ∨ name = item.name := by
  rw [names_push]
  by_cases hold : item.name ∈ s.names
  · rw [if_pos hold]
    exact ⟨Or.inl, fun h => h.elim id fun heq => heq ▸ hold⟩
  · rw [if_neg hold, List.mem_append, List.mem_singleton]

lemma mem_names_foldl_push :
    name ∈ (items.foldl push s).names ↔ name ∈ s.names ∨ name ∈ items.map Item.name := by
  induction items generalizing s with
  | nil => simp
  | cons item items ih =>
    rw [List.foldl_cons, ih, mem_names_push, List.map_cons, List.mem_cons, or_assoc]

/-- All items have their names in the index. -/
lemma mem_names_ofItems : name ∈ (ofItems items).names ↔ name ∈ items.map Item.name := by
  rw [ofItems, mem_names_foldl_push]
  simp [names, Assoc.keys]

/-- The index gives every item that is not shadowed. -/
lemma place?_or_isShadowed (hitem : items[i]? = some item) :
    (ofItems items).place? item.name = some i ∨ IsShadowed items item := by
  have hs := isIndexed_ofItems items
  have hname : item.name ∈ (ofItems items).names :=
    mem_names_ofItems.2 (List.mem_map_of_mem (List.mem_of_getElem? hitem))
  obtain ⟨j, later, hplace, hlater, hget⟩ := hs.exists_of_mem hname
  rw [items_ofItems] at hlater
  have hij : i ≤ j := hs.last hplace (by rwa [items_ofItems]) rfl
  rcases hij.eq_or_lt with rfl | hlt
  · exact Or.inl hplace
  · exact Or.inr ⟨i, j, later, hlt, hitem, hlater, (hs.name_eq hget).symm⟩

lemma IsShadowed.mem_linked (h : IsShadowed items item) : item ∈ (ofItems items).linked.items := by
  obtain ⟨i, j, later, hij, hitem, hlater, hname⟩ := h
  rw [← items_ofItems items] at hitem hlater
  have hkept := getElem?_linked ((isIndexed_ofItems items).place?_ne_of_shadowed hij hitem hlater hname)
  exact List.mem_of_getElem? (hkept.trans hitem)

/-! ### Linked items in the catalog -/

/-- Linking completes the requirements of an item for all items that have a kind. -/
lemma isComplete_linkedItem (hkind : ∀ item ∈ items, item.kind.isSome = true) (t : Item) :
    ((ofItems items).linkedItem t).IsComplete (items.map Item.name) := by
  intro r hr htarget
  obtain ⟨r₀, -, rfl⟩ := List.mem_map.1 hr
  rw [completeRequirement_eq] at htarget ⊢
  obtain ⟨-, target, -, -, hget⟩ :=
    (isIndexed_ofItems items).exists_of_mem (mem_names_ofItems.2 htarget)
  have hmem : target ∈ items := items_ofItems items ▸ mem_items_of_get? hget
  obtain ⟨kind, hkind⟩ := Option.isSome_iff_exists.1 (hkind target hmem)
  cases hdeclared : r₀.kind <;> simp [hget, hkind]

/-- A linked item is an item of the index that was linked, or one that was kept. -/
lemma exists_of_mem_linked (h : item ∈ (ofItems items).linked.items) :
    ∃ i old, items[i]? = some old ∧
      ((ofItems items).place? old.name = some i ∧ item = (ofItems items).linkedItem old ∨
        (ofItems items).place? old.name ≠ some i ∧ item = old) := by
  obtain ⟨i, hi⟩ := List.mem_iff_getElem?.1 h
  change ((ofItems items).mapIndexed (ofItems items).linkedItem).items[i]? = some item at hi
  rw [getElem?_mapIndexed, items_ofItems] at hi
  obtain ⟨old, hold, rfl⟩ := Option.map_eq_some_iff.1 hi
  refine ⟨i, old, hold, ?_⟩
  split
  · rename_i hplace
    exact Or.inl ⟨hplace, rfl⟩
  · rename_i hplace
    exact Or.inr ⟨hplace, rfl⟩

lemma isComplete_or_isShadowed (hkind : ∀ item ∈ items, item.kind.isSome = true)
    (h : item ∈ (ofItems items).linked.items) :
    item.IsComplete (items.map Item.name) ∨ IsShadowed items item := by
  obtain ⟨i, old, hold, ⟨-, rfl⟩ | ⟨hplace, rfl⟩⟩ := exists_of_mem_linked h
  · exact Or.inl (isComplete_linkedItem hkind old)
  · exact Or.inr ((place?_or_isShadowed hold).resolve_left hplace)

/-- The catalog shows all linked items if they have kinds. -/
lemma mem_catalog_linked_iff (hkind : ∀ item ∈ items, item.kind.isSome = true) :
    item ∈ (Catalog.ofItems (ofItems items).linked.items).items ↔
      item ∈ (ofItems items).linked.items := by
  rw [(Catalog.items_ofItems_perm _).mem_iff, List.mem_filter, and_iff_left_iff_imp]
  intro h
  obtain ⟨i, old, hold, ⟨-, rfl⟩ | ⟨-, rfl⟩⟩ := exists_of_mem_linked h
  · exact hkind old (List.mem_of_getElem? hold)
  · exact hkind item (List.mem_of_getElem? hold)

/-- In the catalog of linked items, all of which have a kind, an item has all kinds of requirements
that there are, or it is shadowed and is shown as it was. So all requirements for items that exist
are complete just if those of shadowed items were complete before. -/
theorem resolve_completes_requirements (items : List Item)
    (hkind : ∀ item ∈ items, item.kind.isSome = true) (validate : Bool) :
    let names := items.map Item.name
    ∃ t ds, (ofItems items).resolve validate = .ok (t, ds) ∧
      (∀ item ∈ (Catalog.ofItems t.items).items, item.IsComplete names ∨ IsShadowed items item) ∧
      ((∀ item ∈ (Catalog.ofItems t.items).items, item.IsComplete names) ↔
        ∀ item, IsShadowed items item → item.IsComplete names) := by
  intro names
  refine ⟨_, _, resolve_ofItems items validate, ?_, ?_, ?_⟩
  · intro item hitem
    exact isComplete_or_isShadowed hkind ((mem_catalog_linked_iff hkind).1 hitem)
  · intro h item hshadowed
    exact h item ((mem_catalog_linked_iff hkind).2 hshadowed.mem_linked)
  · intro h item hitem
    rcases isComplete_or_isShadowed hkind ((mem_catalog_linked_iff hkind).1 hitem) with
      hcomplete | hshadowed
    · exact hcomplete
    · exact h item hshadowed

/-- The first `half` needs `size`, which is there, but the second one shadows it. -/
theorem resolve_completes_requirements_columnItems :
    let names := columnItems.map Item.name
    (∀ item ∈ columnItems, item.kind.isSome = true) ∧
      ∃ t ds, (ofItems columnItems).resolve true = .ok (t, ds) ∧
        (∀ item ∈ (Catalog.ofItems t.items).items,
          item.IsComplete names ∨ IsShadowed columnItems item) ∧
        ¬ ∀ item ∈ (Catalog.ofItems t.items).items, item.IsComplete names := by
  intro names
  have hkind : ∀ item ∈ columnItems, item.kind.isSome = true := by decide
  obtain ⟨t, ds, hresolve, hitems, hall⟩ := resolve_completes_requirements columnItems hkind true
  refine ⟨hkind, t, ds, hresolve, hitems, fun hcomplete => ?_⟩
  have hhalf := hall.1 hcomplete _ ⟨0, 2, _, by decide, rfl, rfl, rfl⟩
  exact absurd hhalf (by decide)

/-- A function and a mixin of one name, of which the function needs another one. -/
def tintItems : List Item :=
  [{ name := "tint", kind := some .function, requires := [⟨"shade", none⟩] },
   { name := "tint", kind := some .mixin },
   { name := "shade", kind := some .function }]

/-- All items have a kind, and still the catalog shows a requirement without one for an item that is
there. -/
theorem resolve_tintItems_leaves_requirement_open :
    (∀ item ∈ tintItems, item.kind.isSome = true) ∧
      ∃ t ds, (ofItems tintItems).resolve true = .ok (t, ds) ∧
        ∃ item ∈ (Catalog.ofItems t.items).items, ∃ r ∈ item.requires,
          r.target ∈ tintItems.map Item.name ∧ r.kind = none := by
  have hkind : ∀ item ∈ tintItems, item.kind.isSome = true := by decide
  have hshadowed : IsShadowed tintItems
      { name := "tint", kind := some .function, requires := [⟨"shade", none⟩] } :=
    ⟨0, 1, _, by decide, rfl, rfl, rfl⟩
  exact ⟨hkind, _, _, resolve_ofItems tintItems true, _,
    (mem_catalog_linked_iff hkind).2 hshadowed.mem_linked, ⟨"shade", none⟩, by decide, by decide, rfl⟩

end Store

end Stylebook
