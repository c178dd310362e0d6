import Mathlib
import Stylebook.Catalog
import Stylebook.Proofs.Text.Order

/-!
# The sections of a catalog

Every item that has a kind stands in one section, that of its kind, as often as it was given. A
section is in order of names, and items of one name stand in the order in which they were given, so
a catalog of the items of a catalog is the catalog again.
-/

namespace Stylebook.Catalog

/-- The items of all sections. -/
def items (c : Catalog) : List Item :=
  c.sections.flatMap (·.2)

lemma items_eq (c : Catalog) : c.items = c.functions ++ (c.mixins ++ c.vars) := by
  simp [items, sections]

/-- Items by kind are the items that have one. -/
lemma perm_filter_kind (items : List Item) :
    (items.filter (·.kind == some .function) ++ (items.filter (·.kind == some .mixin) ++
      items.filter (·.kind == some .var))).Perm (items.filter (·.kind.isSome)) := by
  induction items with
  | nil => exact List.Perm.refl _
  | cons item items ih =>
    cases hkind : item.kind with
    | none => simpa [hkind] using ih
    | some kind =>
      cases kind with
      | function => simpa [hkind] using ih
      | mixin =>
        simp only [List.filter_cons, hkind]
        exact List.perm_middle.trans (ih.cons item)
      | var =>
        simp only [List.filter_cons, hkind]
        rw [← List.append_assoc]
        refine List.perm_middle.trans (List.Perm.cons item ?_)
        rwa [List.append_assoc]

theorem items_ofItems_perm (items : List Item) :
    (ofItems items).items.Perm (items.filter (·.kind.isSome)) := by
  rw [items_eq]
  exact (perm_filter_kind _).trans ((Text.sortedBy_perm Item.name items).filter _)

/-! ### Order of a section -/

lemma ofKind_eq_sortedBy (kind : Kind) (items : List Item) :
    ofKind kind items = Text.sortedBy Item.name (items.filter (·.kind == some kind)) := by
  rw [Text.sortedBy_filter, ofKind]

lemma get?_sections_ofItems (kind : Kind) (items : List Item) :
    Assoc.get? (ofItems items).sections (kind.name ++ "s") = some (ofKind kind items) := by
  cases kind <;> rfl

lemma filter_ofKind (kind other : Kind) (items : List Item) :
    (ofKind kind items).filter (·.kind == some other) =
      if kind = other then ofKind kind items else [] := by
  split
  · rename_i h
    rw [← h, ofKind, List.filter_filter]
    simp
  · rename_i h
    rw [List.filter_eq_nil_iff]
    intro item hitem
    have hkind : item.kind = some kind := by simpa using (List.mem_filter.1 hitem).2
    simp [hkind, h]

lemma filter_items_ofItems (kind : Kind) (items : List Item) :
    (ofItems items).items.filter (·.kind == some kind) = ofKind kind items := by
  rw [items_eq, ofItems]
  simp only [List.filter_append, filter_ofKind]
  cases kind <;> simp

lemma ofKind_items_ofItems (kind : Kind) (items : List Item) :
    ofKind kind (ofItems items).items = ofKind kind items := by
  have hsorted : (ofKind kind items).Pairwise fun a b => a.name ≤ b.name :=
    (Text.pairwise_sortedBy Item.name items).filter _
  rw [ofKind_eq_sortedBy, filter_items_ofItems, Text.sortedBy_of_pairwise hsorted]

lemma ofItems_congr {xs ys : List Item} (h : ∀ kind, ofKind kind xs = ofKind kind ys) :
    ofItems xs = ofItems ys := by
  simp only [ofItems, h]

/-- A section holds the items of its kind in order of names, and items of one name as they came. All
sections together hold the items that have a kind, and sorting them again changes nothing. -/
theorem sections_ofItems_stable (items : List Item) :
    (∀ kind ys, Assoc.get? (ofItems items).sections (kind.name ++ "s") = some ys ↔
      Text.IsStableSort Item.name (items.filter (·.kind == some kind)) ys) ∧
      (ofItems items).items.Perm (items.filter (·.kind.isSome)) ∧
      ofItems (ofItems items).items = ofItems items := by
  refine ⟨?_, items_ofItems_perm items, ?_⟩
  · intro kind ys
    rw [get?_sections_ofItems, ofKind_eq_sortedBy, Text.isStableSort_iff, Option.some.injEq, eq_comm]
  · exact ofItems_congr fun kind => ofKind_items_ofItems kind items

end Stylebook.Catalog
