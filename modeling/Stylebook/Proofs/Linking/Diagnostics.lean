import Mathlib
import Stylebook.Proofs.Linking.Inverse

/-!
# What linking reports

Each diagnostic is about an item of the index, and for each item there are as many diagnostics of a
kind as the item gives reason for: names that no item has, unknown types and bad addresses, each as
often as it occurs. So linking reports nothing exactly if no item of the index gives a reason.
-/

namespace Stylebook

open Text

/-- All types that an item names: of its parameters, of its result and of its value. -/
def Item.typeTags (item : Item) : List String :=
  item.parameters.flatMap (·.types) ++ item.returns.toList.flatMap (·.types) ++ item.datatype

namespace Store

variable {s : Store} {name : String} {item : Item} {d : Diagnostic} {kind : Diagnostic.Kind}

/-! ### Reasons for diagnostics -/

/-- An item that gives no reason for a diagnostic, among the names of a store. -/
structure IsFaultless (s : Store) (item : Item) : Prop where
  aliasOf : ∀ target ∈ item.aliasOf, target = "" ∨ target ∈ s.names
  requires : ∀ r ∈ item.requires, r.kind = none → r.target ∈ s.names
  types : ∀ tag ∈ item.typeTags, String.ofList (lowerCase (trim tag.toList)) ∈ TypeName.known
  links : ∀ l ∈ item.links, Url.isValid l.url.toList = true

instance (s : Store) (item : Item) : Decidable (s.IsFaultless item) :=
  decidable_of_iff
    ((∀ target ∈ item.aliasOf, target = "" ∨ target ∈ s.names) ∧
      (∀ r ∈ item.requires, r.kind = none → r.target ∈ s.names) ∧
      (∀ tag ∈ item.typeTags, String.ofList (lowerCase (trim tag.toList)) ∈ TypeName.known) ∧
      ∀ l ∈ item.links, Url.isValid l.url.toList = true)
    ⟨fun ⟨h₁, h₂, h₃, h₄⟩ => ⟨h₁, h₂, h₃, h₄⟩, fun ⟨h₁, h₂, h₃, h₄⟩ => ⟨h₁, h₂, h₃, h₄⟩⟩

/-- How many reasons an item gives for diagnostics of a kind. -/
def reasons (s : Store) (item : Item) : Diagnostic.Kind → Nat
  | .unresolvedAlias => item.aliasOf.toList.countP fun target => target ≠ "" ∧ target ∉ s.names
  | .unresolvedRequirement =>
    item.requires.countP fun r => r.kind = none ∧ r.target ∉ s.names
  | .invalidType => item.typeTags.countP fun tag => !TypeName.isValid tag
  | .invalidLink => item.links.countP fun l => !Url.isValid l.url.toList

lemma reasons_eq_zero_iff : (∀ kind, s.reasons item kind = 0) ↔ s.IsFaultless item := by
  have halias : s.reasons item .unresolvedAlias = 0 ↔
      ∀ target ∈ item.aliasOf, target = "" ∨ target ∈ s.names := by
    simp [reasons, List.countP_eq_zero, or_iff_not_imp_left]
  have hrequires : s.reasons item .unresolvedRequirement = 0 ↔
      ∀ r ∈ item.requires, r.kind = none → r.target ∈ s.names := by
    simp [reasons, List.countP_eq_zero]
  have htypes : s.reasons item .invalidType = 0 ↔ ∀ tag ∈ item.typeTags,
      String.ofList (lowerCase (trim tag.toList)) ∈ TypeName.known := by
    simp [reasons, List.countP_eq_zero, TypeName.isValid]
  have hlinks : s.reasons item .invalidLink = 0 ↔
      ∀ l ∈ item.links, Url.isValid l.url.toList = true := by
    simp [reasons, List.countP_eq_zero]
  constructor
  · intro h
    exact ⟨halias.1 (h _), hrequires.1 (h _), htypes.1 (h _), hlinks.1 (h _)⟩
  · intro h kind
    cases kind with
    | unresolvedAlias => exact halias.2 h.aliasOf
    | unresolvedRequirement => exact hrequires.2 h.requires
    | invalidType => exact htypes.2 h.types
    | invalidLink => exact hlinks.2 h.links

/-! ### Diagnostics of one item -/

/-- What is reported about the types and links of the item of a name. -/
def warningReport (s : Store) (name : String) : List Diagnostic :=
  (s.get? name).elim [] (itemWarnings name)

lemma warnings_eq (s : Store) : (warnings s).2 = s.names.flatMap s.warningReport := by
  unfold warnings
  refine List.flatMap_congr fun name _ => ?_
  unfold warningReport
  cases s.get? name <;> rfl

lemma item_of_mem_aliasReport (h : d ∈ s.aliasReport name) : d.item = name := by
  obtain ⟨target, -, rfl⟩ := List.mem_map.1 h
  rfl

lemma item_of_mem_needReport {targets : List String} (h : d ∈ s.needReport name targets) :
    d.item = name := by
  obtain ⟨target, -, rfl⟩ := List.mem_map.1 h
  rfl

/-- Reports about types give the item's own name, which is the one that it is found under. -/
lemma item_of_mem_warningReport (hs : s.IsIndexed) (h : d ∈ s.warningReport name) :
    d.item = name := by
  unfold warningReport at h
  cases hget : s.get? name with
  | none => simp [hget] at h
  | some item =>
    have hname : item.name = name := hs.name_eq hget
    simp only [hget, Option.elim_some, itemWarnings, List.mem_append, List.mem_flatMap,
      List.mem_map] at h
    rcases h with ((⟨p, -, tag, -, rfl⟩ | h) | ⟨tag, -, rfl⟩) | ⟨l, -, rfl⟩
    · exact hname
    · split at h
      · cases h
      · obtain ⟨tag, -, rfl⟩ := List.mem_map.1 h
        exact hname
    · exact hname
    · rfl

/-- Of the diagnostics about those elements that satisfy `p`, all or none are of a kind. -/
lemma count_filter_map {α : Type} (make : α → Diagnostic) (made : Diagnostic.Kind)
    (hmake : ∀ x, (make x).kind = made) (p : α → Bool) (xs : List α) :
    ((xs.filter p).map make).countP (·.kind = kind) = if kind = made then xs.countP p else 0 := by
  rw [List.countP_map, List.countP_eq_length_filter (p := p)]
  by_cases hkind : kind = made
  · simp [Function.comp_def, hmake, hkind]
  · simp [Function.comp_def, hmake, hkind, Ne.symm hkind]

lemma count_aliasReport (hget : s.get? name = some item) (kind : Diagnostic.Kind) :
    (s.aliasReport name).countP (·.kind = kind) =
      if kind = .unresolvedAlias then s.reasons item .unresolvedAlias else 0 := by
  have htargets : ((s.aliasTarget? name).filter (· ∉ s.names)).toList =
      item.aliasOf.toList.filter fun target => target ≠ "" ∧ target ∉ s.names := by
    rw [aliasTarget?, hget, Option.bind_some]
    cases item.aliasOf with
    | none => rfl
    | some target =>
      by_cases hempty : target = "" <;> by_cases hmem : target ∈ s.names <;>
        simp [Option.filter, hempty, hmem]
  rw [aliasReport, htargets]
  exact count_filter_map _ .unresolvedAlias (fun _ => rfl) _ _

lemma count_needReport (hget : s.get? name = some item) (kind : Diagnostic.Kind) :
    (s.needReport name (s.needs name)).countP (·.kind = kind) =
      if kind = .unresolvedRequirement then s.reasons item .unresolvedRequirement else 0 := by
  have hneeds : s.needs name = (item.requires.filter (·.kind.isNone)).map (·.target) := by
    rw [needs, hget]
    rfl
  rw [needReport, count_filter_map _ .unresolvedRequirement fun _ => rfl, hneeds, List.countP_map,
    List.countP_filter]
  refine congrArg (if kind = .unresolvedRequirement then · else 0) (List.countP_congr fun r _ => ?_)
  simp [and_comm]

lemma count_parameterTypes (own name : String) (ps : List Parameter) :
    (ps.flatMap fun p => (p.types.filter (!TypeName.isValid ·)).map
      (Diagnostic.invalidParameterType own name p.name)).countP (·.kind = kind) =
      if kind = .invalidType then (ps.flatMap (·.types)).countP (!TypeName.isValid ·) else 0 := by
  induction ps with
  | nil => simp
  | cons p ps ih =>
    rw [List.flatMap_cons, List.countP_append, ih, count_filter_map _ .invalidType fun _ => rfl,
      List.flatMap_cons, List.countP_append]
    split <;> rfl

lemma count_warningReport (hget : s.get? name = some item) (kind : Diagnostic.Kind) :
    (s.warningReport name).countP (·.kind = kind) =
      (if kind = .invalidType then s.reasons item .invalidType else 0) +
        if kind = .invalidLink then s.reasons item .invalidLink else 0 := by
  rw [warningReport, hget, Option.elim_some, itemWarnings]
  simp only [List.countP_append, count_parameterTypes, reasons, Item.typeTags]
  rw [count_filter_map _ .invalidType fun _ => rfl, count_filter_map _ .invalidLink fun _ => rfl]
  cases item.returns with
  | none => split <;> simp
  | some r =>
    dsimp only
    rw [count_filter_map _ .invalidType fun _ => rfl]
    split <;> simp

/-! ### Diagnostics of all items -/

/-- If each name is gone through once, what is reported about a name comes from its own report. -/
lemma count_flatMap_report {names : List String} {report : String → List Diagnostic}
    (hnames : names.Nodup) (hitem : ∀ n, ∀ d ∈ report n, d.item = n) (hname : name ∈ names) :
    (names.flatMap report).countP (fun d => d.kind = kind ∧ d.item = name) =
      (report name).countP (·.kind = kind) := by
  have hown : (report name).countP (fun d => d.kind = kind ∧ d.item = name) =
      (report name).countP (·.kind = kind) :=
    List.countP_congr fun d hd => by simp [hitem name d hd]
  have hother : ∀ ns : List String, name ∉ ns →
      (ns.flatMap report).countP (fun d => d.kind = kind ∧ d.item = name) = 0 := by
    intro ns hns
    refine List.countP_eq_zero.2 fun d hd => ?_
    obtain ⟨n, hn, hd⟩ := List.mem_flatMap.1 hd
    have hne : n ≠ name := fun heq => hns (heq ▸ hn)
    simp [hitem n d hd, hne]
  obtain ⟨before, after, rfl⟩ := List.append_of_mem hname
  have hrest : name ∉ before ++ after := (List.nodup_middle.1 hnames).notMem
  rw [List.mem_append, not_or] at hrest
  rw [List.flatMap_append, List.flatMap_cons, List.countP_append, List.countP_append, hown,
    hother before hrest.1, hother after hrest.2, Nat.zero_add, Nat.add_zero]

/-- There are as many diagnostics of a kind about an item as it gives reasons. -/
lemma count_reports (hs : s.IsIndexed) (hget : s.get? name = some item) (kind : Diagnostic.Kind) :
    (s.reports true).countP (fun d => d.kind = kind ∧ d.item = name) = s.reasons item kind := by
  have hname : name ∈ s.names := hs.mem_names hget
  rw [reports, if_pos rfl, warnings_eq, aliasReports, needReports, List.countP_append,
    List.countP_append, count_flatMap_report hs.nodup (fun n d => item_of_mem_aliasReport) hname,
    count_flatMap_report hs.nodup (fun n d => item_of_mem_needReport) hname,
    count_flatMap_report hs.nodup (fun n d => item_of_mem_warningReport hs) hname,
    count_aliasReport hget, count_needReport hget, count_warningReport hget]
  cases kind <;> simp

lemma item_mem_names_of_mem_reports (hs : s.IsIndexed) (h : d ∈ s.reports true) :
    d.item ∈ s.names := by
  rw [reports, if_pos rfl, warnings_eq, aliasReports, needReports] at h
  simp only [List.mem_append, List.mem_flatMap] at h
  rcases h with (⟨name, hname, hd⟩ | ⟨name, hname, hd⟩) | ⟨name, hname, hd⟩
  · rwa [item_of_mem_aliasReport hd]
  · rwa [item_of_mem_needReport hd]
  · rwa [item_of_mem_warningReport hs hd]

lemma reports_eq_nil_iff (hs : s.IsIndexed) :
    s.reports true = [] ↔ ∀ name item, s.get? name = some item → s.IsFaultless item := by
  constructor
  · intro h name item hget
    refine reasons_eq_zero_iff.1 fun kind => ?_
    rw [← count_reports hs hget, h, List.countP_nil]
  · intro h
    refine List.eq_nil_iff_forall_not_mem.2 fun d hd => ?_
    obtain ⟨_, item, -, -, hget⟩ := hs.exists_of_mem (item_mem_names_of_mem_reports hs hd)
    have hzero := reasons_eq_zero_iff.2 (h d.item item hget) d.kind
    rw [← count_reports hs hget, List.countP_eq_zero] at hzero
    simpa using hzero d hd

/-- Linking with validation reports nothing exactly if no item of the index gives a reason. In any
case each item of the index gets as many diagnostics of each kind as it gives reasons. -/
theorem resolve_reports_reasons (items : List Item) :
    let s := ofItems items
    ∃ t ds, s.resolve true = .ok (t, ds) ∧
      (ds = [] ↔ ∀ name item, s.get? name = some item → s.IsFaultless item) ∧
      ∀ name ∈ s.names, ∃ item, s.get? name = some item ∧
        ∀ kind, ds.countP (fun d => d.kind = kind ∧ d.item = name) = s.reasons item kind := by
  intro s
  have hs : s.IsIndexed := isIndexed_ofItems items
  refine ⟨_, _, resolve_ofItems items true, reports_eq_nil_iff hs, fun name hname => ?_⟩
  obtain ⟨_, item, -, -, hget⟩ := hs.exists_of_mem hname
  exact ⟨item, hget, count_reports hs hget⟩

/-- A variable with an alias of no item, shadowed by one without faults, and a function with faults
of all other kinds, some of them more than once. -/
def fadeItems : List Item :=
  [{ name := "tone", kind := some .var, aliasOf := some "gone" },
   { name := "fade", kind := some .function, aliasOf := some ""
     parameters := [⟨[" Number", "texte"], "a", "", ""⟩, ⟨["texte"], "b", "", ""⟩]
     returns := some ⟨["colour", "null"], ""⟩
     requires := [⟨"lost", none⟩, ⟨"tone", none⟩, ⟨"lost", some .mixin⟩, ⟨"lost", none⟩]
     links := [⟨"sass-lang.com", ""⟩, ⟨"https://sass-lang.com/documentation", ""⟩, ⟨"fade", ""⟩] },
   { name := "tone", kind := some .var, aliasOf := some "fade", datatype := ["COLOR"] }]

/-- A variable without faults that is an alias of itself. -/
def toneItems : List Item :=
  [{ name := "tone", kind := some .var, aliasOf := some "tone", datatype := ["COLOR"] }]

/-- The faults of the function are counted; without faults there is nothing to report. -/
theorem resolve_reports_reasons_fadeItems :
    (∃ t ds, (ofItems fadeItems).resolve true = .ok (t, ds) ∧ ds ≠ [] ∧
      ds.countP (fun d => d.kind = .invalidType ∧ d.item = "fade") = 3 ∧
      ds.countP (fun d => d.kind = .invalidLink ∧ d.item = "fade") = 2 ∧
      ds.countP (fun d => d.kind = .unresolvedRequirement ∧ d.item = "fade") = 2 ∧
      ds.countP (fun d => d.kind = .unresolvedAlias ∧ d.item = "tone") = 0) ∧
    ∃ t, (ofItems toneItems).resolve true = .ok (t, []) := by
  constructor
  · obtain ⟨t, ds, hresolve, -, hcount⟩ := resolve_reports_reasons fadeItems
    obtain ⟨fade, hfade, hreasons⟩ := hcount "fade" (by decide +kernel)
    obtain ⟨tone, htone, hnone⟩ := hcount "tone" (by decide +kernel)
    cases hfade
    cases htone
    have htypes := (hreasons .invalidType).trans (by decide +kernel : _ = 3)
    refine ⟨t, ds, hresolve, ?_, htypes, ?_, ?_, ?_⟩
    · rintro rfl
      cases htypes
    · rw [hreasons]
      decide +kernel
    · rw [hreasons]
      decide +kernel
    · rw [hnone]
      decide +kernel
  · obtain ⟨t, ds, hresolve, hempty, -⟩ := resolve_reports_reasons toneItems
    have hds : ds = [] := by
      refine hempty.2 fun name item hget => ?_
      obtain rfl : name = "tone" :=
        List.mem_singleton.1 ((isIndexed_ofItems toneItems).mem_names hget)
      cases hget
      decide +kernel
    exact ⟨t, hds ▸ hresolve⟩

end Store

end Stylebook
