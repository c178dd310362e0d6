import Mathlib
import Stylebook.Proofs.Linking.Passes

/-!
# Linking inverts requirements and aliases

Linking a store is one change of the items that the index gives, stated on the store before it: on
each item it records the names that require it and the names that are an alias of it, in the order
of the index and each once. What names no item is reported.
-/

namespace Stylebook

/-! ### Linking in one change -/

namespace Store

variable {s : Store} {name : String}

/-- An item of the index after linking. -/
def linkedItem (s : Store) (t : Item) : Item :=
  { t with
    aliased := addAll t.aliased (s.names.filter (s.aliasTarget? · = some t.name))
    requires := t.requires.map s.completeRequirement
    usedBy := addAll t.usedBy ((s.names.filter (t.name ∈ s.needs ·)).map s.usage) }

/-- What linking reports about requirements. -/
def needReports (s : Store) : List Diagnostic :=
  s.names.flatMap fun name => s.needReport name (s.needs name)

/-- What linking reports about aliases. -/
def aliasReports (s : Store) : List Diagnostic :=
  s.names.flatMap s.aliasReport

/-- Both linking passes, for the store that they are given. -/
lemma linkAliases_andThen_linkAllRequirements (hs : s.IsIndexed) :
    Pass.andThen linkAliases linkAllRequirements s =
      (s.mapIndexed s.linkedItem, s.aliasReports ++ s.needReports) := by
  rw [Pass.andThen, linkAliases_eq hs]
  generalize hf : (fun t : Item => { t with
    aliased := addAll t.aliased (s.names.filter (s.aliasTarget? · = some t.name)) }) = f
  have hname : ∀ t, (f t).name = t.name := fun t => by rw [← hf]
  have hkind : ∀ t, (f t).kind = t.kind := fun t => by rw [← hf]
  have hneeds : (s.mapIndexed f).needs = s.needs := by
    funext name
    exact needs_mapIndexed hs fun t _ => by rw [← hf]
  simp only [linkAllRequirements_eq (hs.mapIndexed hname), mapIndexed_mapIndexed hname,
    names_mapIndexed, needReport_mapIndexed, hneeds, usage_mapIndexed hs hkind,
    completeRequirement_mapIndexed hs hkind]
  subst hf
  rfl

lemma warnings_mapIndexed_linkedItem (hs : s.IsIndexed) :
    warnings (s.mapIndexed s.linkedItem) = (s.mapIndexed s.linkedItem, (warnings s).2) := by
  unfold warnings
  simp only [names_mapIndexed, hs.get?_mapIndexed]
  congr 2
  funext name
  cases s.get? name <;> rfl

lemma linkPass_eq (hs : s.IsIndexed) (validate : Bool) :
    linkPass validate s =
      (s.mapIndexed s.linkedItem,
        s.aliasReports ++ s.needReports ++ if validate then (warnings s).2 else []) := by
  rw [linkPass, Pass.andThen, linkAliases_andThen_linkAllRequirements hs]
  cases validate with
  | false => rfl
  | true => simp only [if_true, warnings_mapIndexed_linkedItem hs]

/-- A store after linking. -/
def linked (s : Store) : Store :=
  { s.mapIndexed s.linkedItem with resolved := true }

/-- All that linking reports. -/
def reports (s : Store) (validate : Bool) : List Diagnostic :=
  s.aliasReports ++ s.needReports ++ if validate then (warnings s).2 else []

theorem link_eq (hs : s.IsIndexed) (validate : Bool) :
    s.link validate = (s.linked, s.reports validate) := by
  have hmarked : IsIndexed { s with resolved := true } := ⟨hs.nodup, hs.named, hs.last⟩
  rw [link, linkPass_eq hmarked]
  rfl

lemma resolve_ofItems (items : List Item) (validate : Bool) :
    (ofItems items).resolve validate =
      .ok ((ofItems items).linked, (ofItems items).reports validate) := by
  rw [resolve, resolved_ofItems, link_eq (isIndexed_ofItems items)]
  rfl

lemma get?_linked (hs : s.IsIndexed) (name : String) :
    s.linked.get? name = (s.get? name).map s.linkedItem :=
  hs.get?_mapIndexed s.linkedItem name

/-- An item that the index does not give is not linked. -/
lemma getElem?_linked {i : Nat} (h : ∀ name, s.place? name ≠ some i) :
    s.linked.items[i]? = s.items[i]? :=
  getElem?_mapIndexed_of_forall_ne h

/-! ### Reports by their kind -/

lemma kind_of_mem_aliasReports {d : Diagnostic} (h : d ∈ s.aliasReports) :
    d.kind = .unresolvedAlias := by
  obtain ⟨name, -, hd⟩ := List.mem_flatMap.1 h
  obtain ⟨target, -, rfl⟩ := List.mem_map.1 hd
  rfl

lemma kind_of_mem_needReports {d : Diagnostic} (h : d ∈ s.needReports) :
    d.kind = .unresolvedRequirement := by
  obtain ⟨name, -, hd⟩ := List.mem_flatMap.1 h
  obtain ⟨target, -, rfl⟩ := List.mem_map.1 hd
  rfl

lemma kind_of_mem_itemWarnings {d : Diagnostic} {item : Item} (h : d ∈ itemWarnings name item) :
    d.kind = .invalidType ∨ d.kind = .invalidLink := by
  unfold itemWarnings at h
  simp only [List.mem_append, List.mem_flatMap, List.mem_map] at h
  rcases h with ((⟨p, -, tag, -, rfl⟩ | h) | ⟨tag, -, rfl⟩) | ⟨l, -, rfl⟩
  · exact Or.inl rfl
  · split at h
    · cases h
    · obtain ⟨tag, -, rfl⟩ := List.mem_map.1 h
      exact Or.inl rfl
  · exact Or.inl rfl
  · exact Or.inr rfl

lemma kind_of_mem_warnings {d : Diagnostic} (h : d ∈ (warnings s).2) :
    d.kind = .invalidType ∨ d.kind = .invalidLink := by
  obtain ⟨name, -, hd⟩ := List.mem_flatMap.1 h
  split at hd
  · cases hd
  · exact kind_of_mem_itemWarnings hd

lemma filter_kind_eq_self {ds : List Diagnostic} {kind : Diagnostic.Kind}
    (h : ∀ d ∈ ds, d.kind = kind) : ds.filter (·.kind = kind) = ds :=
  List.filter_eq_self.2 fun d hd => decide_eq_true (h d hd)

lemma filter_kind_eq_nil {ds : List Diagnostic} {kind : Diagnostic.Kind}
    (h : ∀ d ∈ ds, d.kind ≠ kind) : ds.filter (·.kind = kind) = [] :=
  List.filter_eq_nil_iff.2 fun d hd => by simpa using h d hd

lemma filter_kind_warnings {kind : Diagnostic.Kind} (htype : kind ≠ .invalidType)
    (hlink : kind ≠ .invalidLink) (s : Store) (validate : Bool) :
    (if validate then (warnings s).2 else []).filter (·.kind = kind) = [] := by
  refine filter_kind_eq_nil fun d hd => ?_
  cases validate with
  | false => cases hd
  | true =>
    rcases kind_of_mem_warnings hd with hkind | hkind <;> rw [hkind]
    · exact htype.symm
    · exact hlink.symm

lemma filter_reports_unresolvedRequirement (s : Store) (validate : Bool) :
    (s.reports validate).filter (·.kind = .unresolvedRequirement) = s.needReports := by
  rw [reports, List.filter_append, List.filter_append,
    filter_kind_warnings (by decide) (by decide),
    filter_kind_eq_self fun d hd => kind_of_mem_needReports hd,
    filter_kind_eq_nil fun d hd => by simp [kind_of_mem_aliasReports hd]]
  simp

lemma filter_reports_unresolvedAlias (s : Store) (validate : Bool) :
    (s.reports validate).filter (·.kind = .unresolvedAlias) = s.aliasReports := by
  rw [reports, List.filter_append, List.filter_append,
    filter_kind_warnings (by decide) (by decide),
    filter_kind_eq_self fun d hd => kind_of_mem_aliasReports hd,
    filter_kind_eq_nil fun d hd => by simp [kind_of_mem_needReports hd]]
  simp

/-- Items with a shadowed name, requirements that are repeated, of the item itself or of no item,
and aliases of an item and of none. -/
def columnItems : List Item :=
  [{ name := "half", kind := some .mixin, requires := [⟨"size", none⟩] },
   { name := "grid", kind := some .mixin, aliasOf := some "half",
     requires := [⟨"half", none⟩, ⟨"size", some .mixin⟩, ⟨"lost", none⟩, ⟨"half", none⟩] },
   { name := "half", kind := some .function, aliasOf := some "gone",
     requires := [⟨"half", none⟩, ⟨"lost", none⟩] },
   { name := "size", kind := some .var, aliasOf := some "half" }]

/-! ### Requirements -/

lemma completeRequirement_eq (s : Store) (r : Requirement) :
    s.completeRequirement r = ⟨r.target, r.kind <|> (s.get? r.target).bind Item.kind⟩ := by
  unfold completeRequirement
  obtain ⟨target, _ | kind⟩ := r <;> rfl

lemma nodup_usages (hs : s.IsIndexed) (p : String → Bool) :
    ((s.names.filter p).map s.usage).Nodup := by
  refine (hs.nodup.filter p).map fun a b hab => ?_
  exact congrArg Usage.name hab

lemma usedBy_linkedItem (hs : s.IsIndexed) {item : Item} (hitem : s.get? name = some item)
    (hempty : item.usedBy = []) :
    (s.linkedItem item).usedBy = (s.names.filter (name ∈ s.needs ·)).map s.usage := by
  rw [linkedItem, hempty, hs.name_eq hitem]
  exact addAll_eq_append (nodup_usages hs _)

/-- Linking completes requirements without a kind, and records on each item of the index exactly
the items that have one for it. -/
theorem resolve_inverts_requirements (items : List Item) (h : ∀ item ∈ items, item.usedBy = [])
    (validate : Bool) :
    let s := ofItems items
    ∃ t ds, s.resolve validate = .ok (t, ds) ∧ t.index = s.index ∧
      (∀ name ∈ s.names, ∃ before after, s.get? name = some before ∧ t.get? name = some after ∧
        after.requires = before.requires.map (fun r =>
          ⟨r.target, r.kind <|> (s.get? r.target).bind Item.kind⟩) ∧
        after.usedBy = (s.names.filter (name ∈ s.needs ·)).map s.usage ∧ after.usedBy.Nodup) ∧
      ds.filter (·.kind = .unresolvedRequirement) =
        s.names.flatMap (fun name =>
          ((s.needs name).filter (· ∉ s.names)).map (.unresolvedRequirement name)) ∧
      ∀ i : Nat, (∀ name, s.place? name ≠ some i) → t.items[i]? = s.items[i]? := by
  intro s
  have hs : s.IsIndexed := isIndexed_ofItems items
  refine ⟨_, _, resolve_ofItems items validate, rfl, ?_,
    filter_reports_unresolvedRequirement s validate, fun i hi => getElem?_linked hi⟩
  intro name hname
  obtain ⟨i, item, -, -, hitem⟩ := hs.exists_of_mem hname
  have hempty : item.usedBy = [] := h item (items_ofItems items ▸ mem_items_of_get? hitem)
  have husedBy := usedBy_linkedItem hs hitem hempty
  refine ⟨item, s.linkedItem item, hitem, ?_, ?_, husedBy, husedBy ▸ nodup_usages hs _⟩
  · rw [get?_linked hs, hitem, Option.map_some]
  · exact List.map_congr_left fun r _ => completeRequirement_eq s r

theorem resolve_inverts_requirements_columnItems :
    (∀ item ∈ columnItems, item.usedBy = []) ∧
      ∃ t ds, (ofItems columnItems).resolve true = .ok (t, ds) ∧
        (t.get? "grid").map Item.requires = some [⟨"half", some .function⟩, ⟨"size", some .mixin⟩,
          ⟨"lost", none⟩, ⟨"half", some .function⟩] ∧
        (t.get? "half").map Item.usedBy =
          some [⟨"half", some .function⟩, ⟨"grid", some .mixin⟩] ∧
        (t.get? "size").map Item.usedBy = some [] ∧
        ds.filter (·.kind = .unresolvedRequirement) =
          [.unresolvedRequirement "half" "lost", .unresolvedRequirement "grid" "lost"] ∧
        t.items[0]? = columnItems[0]? := by
  have hempty : ∀ item ∈ columnItems, item.usedBy = [] := by decide
  obtain ⟨t, ds, hresolve, -, hitems, hds, hkept⟩ :=
    resolve_inverts_requirements columnItems hempty true
  obtain ⟨_, half, -, hhalf, -, husedBy, -⟩ := hitems "half" (by decide)
  obtain ⟨_, size, -, hsize, -, hunused, -⟩ := hitems "size" (by decide)
  obtain ⟨_, grid, hbefore, hgrid, hrequires, -⟩ := hitems "grid" (by decide)
  cases hbefore
  refine ⟨hempty, t, ds, hresolve, ?_, ?_, ?_, ?_, ?_⟩
  · rw [hgrid, Option.map_some, hrequires]
    decide +kernel
  · rw [hhalf, Option.map_some, husedBy]
    decide +kernel
  · rw [hsize, Option.map_some, hunused]
    decide +kernel
  · rw [hds]
    decide +kernel
  · have hshadowed := (isIndexed_ofItems columnItems).place?_ne_of_shadowed
      (i := 0) (j := 2) (by decide) rfl rfl rfl
    rw [hkept 0 hshadowed, items_ofItems]

/-! ### Aliases -/

lemma aliased_linkedItem (hs : s.IsIndexed) {item : Item} (hitem : s.get? name = some item)
    (hempty : item.aliased = []) :
    (s.linkedItem item).aliased = s.names.filter (s.aliasTarget? · = some name) := by
  rw [linkedItem, hempty, hs.name_eq hitem]
  exact addAll_eq_append (hs.nodup.filter _)

/-- Linking records on each item of the index exactly the names of the index that are an alias of
it. -/
theorem resolve_inverts_aliases (items : List Item) (h : ∀ item ∈ items, item.aliased = [])
    (validate : Bool) :
    let s := ofItems items
    ∃ t ds, s.resolve validate = .ok (t, ds) ∧ t.index = s.index ∧
      (∀ name ∈ s.names, ∃ item, t.get? name = some item ∧
        item.aliased = s.names.filter (s.aliasTarget? · = some name) ∧ item.aliased.Nodup) ∧
      (∀ (i j : Nat) item later, i < j → items[i]? = some item → items[j]? = some later →
        item.name = later.name → t.items[i]? = some item ∧ item.aliased = []) ∧
      ds.filter (·.kind = .unresolvedAlias) =
        s.names.flatMap fun name =>
          ((s.aliasTarget? name).filter (· ∉ s.names)).toList.map (.unresolvedAlias name) := by
  intro s
  have hs : s.IsIndexed := isIndexed_ofItems items
  refine ⟨_, _, resolve_ofItems items validate, rfl, ?_, ?_,
    filter_reports_unresolvedAlias s validate⟩
  · intro name hname
    obtain ⟨i, item, -, -, hitem⟩ := hs.exists_of_mem hname
    have hempty : item.aliased = [] := h item (items_ofItems items ▸ mem_items_of_get? hitem)
    have haliased := aliased_linkedItem hs hitem hempty
    refine ⟨s.linkedItem item, ?_, haliased, haliased ▸ hs.nodup.filter _⟩
    rw [get?_linked hs, hitem, Option.map_some]
  · intro i j item later hij hitem hlater hname
    rw [← items_ofItems items] at hitem hlater
    have hshadowed := hs.place?_ne_of_shadowed hij hitem hlater hname
    refine ⟨(getElem?_linked hshadowed).trans hitem, ?_⟩
    exact h item (items_ofItems items ▸ List.mem_of_getElem? hitem)

theorem resolve_inverts_aliases_columnItems :
    (∀ item ∈ columnItems, item.aliased = []) ∧
      ∃ t ds, (ofItems columnItems).resolve false = .ok (t, ds) ∧
        (t.get? "half").map Item.aliased = some ["grid", "size"] ∧
        t.items[0]?.map Item.aliased = some [] ∧
        ds.filter (·.kind = .unresolvedAlias) = [.unresolvedAlias "half" "gone"] := by
  have hempty : ∀ item ∈ columnItems, item.aliased = [] := by decide
  obtain ⟨t, ds, hresolve, -, hitems, hshadowed, hds⟩ :=
    resolve_inverts_aliases columnItems hempty false
  obtain ⟨half, hhalf, haliased, -⟩ := hitems "half" (by decide)
  obtain ⟨hkept, -⟩ := hshadowed 0 2 _ _ (by decide) rfl rfl rfl
  refine ⟨hempty, t, ds, hresolve, ?_, ?_, ?_⟩
  · rw [hhalf, Option.map_some, haliased]
    decide +kernel
  · rw [hkept]
    rfl
  · rw [hds]
    decide +kernel

end Store

end Stylebook
