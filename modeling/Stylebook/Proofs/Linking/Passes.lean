import Mathlib
import Stylebook.Linking
import Stylebook.Proofs.Store.Index

/-!
# The passes of linking

A step of a linking pass works for one name: it changes items of the index, each by itself, and
reports diagnostics. No step changes what the step of another name does. So a whole pass is one
change of all items of the index, and it reports for the names in order.
-/

namespace Stylebook.Store

variable {s : Store} {name other : String} {f : Item → Item}

/-! ### Adding elements that are new -/

section AddAll

variable {α : Type} [DecidableEq α] {xs ys : List α}

/-- Add some elements, those that are not there yet. -/
def addAll (xs ys : List α) : List α :=
  ys.foldl addNew xs

@[simp] lemma addAll_nil (xs : List α) : addAll xs [] = xs :=
  rfl

lemma addAll_append (xs ys zs : List α) : addAll xs (ys ++ zs) = addAll (addAll xs ys) zs :=
  List.foldl_append

lemma addNew_addNew (xs : List α) (x : α) : addNew (addNew xs x) x = addNew xs x := by
  unfold addNew
  by_cases h : x ∈ xs <;> simp [h]

lemma addAll_eq_append (h : (xs ++ ys).Nodup) : addAll xs ys = xs ++ ys := by
  induction ys generalizing xs with
  | nil => simp
  | cons y ys ih =>
    have hy : y ∉ xs := fun hmem =>
      (List.nodup_append.1 h).2.2 y hmem y List.mem_cons_self rfl
    rw [List.append_cons] at h
    rw [addAll, List.foldl_cons, addNew, if_neg hy]
    exact (ih h).trans (by simp)

end AddAll

/-! ### Steps that do not disturb each other -/

/-- The step for a name changes the items of the index by `edit` and reports `report`. Neither
depends on whether the steps for other names have been made. -/
structure Independent (step : Store → String → Store × List Diagnostic)
    (edit : Store → String → Item → Item) (report : Store → String → List Diagnostic) : Prop where
  step_eq : ∀ {s : Store}, s.IsIndexed → ∀ name,
    step s name = (s.mapIndexed (edit s name), report s name)
  name_eq : ∀ s name item, (edit s name item).name = item.name
  edit_eq : ∀ {s : Store}, s.IsIndexed → ∀ {name other}, other ≠ name →
    edit (s.mapIndexed (edit s name)) other = edit s other
  report_eq : ∀ {s : Store}, s.IsIndexed → ∀ {name other}, other ≠ name →
    report (s.mapIndexed (edit s name)) other = report s other

/-- A pass of independent steps makes all edits and reports, each for the store it was given. -/
lemma Independent.passOver_eq {step : Store → String → Store × List Diagnostic}
    {edit : Store → String → Item → Item} {report : Store → String → List Diagnostic}
    (h : Independent step edit report) (hs : s.IsIndexed) {names : List String}
    (hnames : names.Nodup) :
    passOver step names s =
      (s.mapIndexed fun item => names.foldl (fun item name => edit s name item) item,
        names.flatMap (report s)) := by
  induction names generalizing s with
  | nil => simp [passOver, mapIndexed_eq_self]
  | cons name names ih =>
    obtain ⟨hname, hnames⟩ := List.nodup_cons.1 hnames
    have hne : ∀ other ∈ names, other ≠ name := fun other hmem heq => hname (heq ▸ hmem)
    rw [passOver, h.step_eq hs name]
    simp only [ih (hs.mapIndexed (h.name_eq s name)) hnames,
      mapIndexed_mapIndexed (h.name_eq s name), List.foldl_cons, List.flatMap_cons]
    -- What is left to do looks the same from the changed store as from `s`.
    have hedits : ∀ item,
        names.foldl (fun item name' => edit (s.mapIndexed (edit s name)) name' item) item =
          names.foldl (fun item name' => edit s name' item) item := fun item =>
      List.foldl_ext _ _ _ fun item other hmem => by rw [h.edit_eq hs (hne other hmem)]
    have hreports : names.flatMap (report (s.mapIndexed (edit s name))) =
        names.flatMap (report s) :=
      List.flatMap_congr fun other hmem => h.report_eq hs (hne other hmem)
    rw [hreports]
    simp only [hedits]

/-- A change of a target that may not exist, in which case it is reported. -/
lemma IsIndexed.modify_or_report (hs : s.IsIndexed) (target : String) (f : Item → Item)
    (ds : List Diagnostic) :
    (if (s.get? target).isNone then (s, ds) else (s.modify target f, [])) =
      (s.mapIndexed fun t => if t.name = target then f t else t,
        if target ∈ s.names then [] else ds) := by
  rw [← hs.modify_eq]
  by_cases htarget : target ∈ s.names
  · obtain ⟨i, t, -, -, ht⟩ := hs.exists_of_mem htarget
    simp [ht, htarget]
  · have hplace : s.place? target = none := Assoc.get?_eq_none_iff.2 htarget
    simp [hs.get?_eq_none_iff.2 htarget, htarget, modify, hplace]

/-! ### Aliases -/

/-- The item that the item of a name is another name of, if its documentation says so. -/
def aliasTarget? (s : Store) (name : String) : Option String :=
  ((s.get? name).bind Item.aliasOf).filter (!·.isEmpty)

/-- An item after the step for the alias of `name`. -/
def recordAlias (s : Store) (name : String) (t : Item) : Item :=
  { t with aliased := addAll t.aliased (if s.aliasTarget? name = some t.name then [name] else []) }

/-- What is reported about the alias of `name`. -/
def aliasReport (s : Store) (name : String) : List Diagnostic :=
  ((s.aliasTarget? name).filter (· ∉ s.names)).toList.map (.unresolvedAlias name)

lemma linkAlias_eq_match (s : Store) (name : String) :
    linkAlias s name = match s.aliasTarget? name with
      | none => (s, [])
      | some target =>
        if (s.get? target).isNone then (s, [.unresolvedAlias name target])
        else (s.modify target fun t => { t with aliased := addNew t.aliased name }, []) := by
  unfold linkAlias aliasTarget?
  cases (s.get? name).bind Item.aliasOf with
  | none => rfl
  | some target => by_cases hempty : target.isEmpty = true <;> simp [Option.filter, hempty]

lemma linkAlias_eq (hs : s.IsIndexed) (name : String) :
    linkAlias s name = (s.mapIndexed (s.recordAlias name), s.aliasReport name) := by
  rw [linkAlias_eq_match]
  unfold recordAlias aliasReport
  cases s.aliasTarget? name with
  | none => simp [mapIndexed_eq_self]
  | some target =>
    simp only [hs.modify_or_report]
    congr 2
    · funext t
      by_cases ht : t.name = target
      · simp [ht, addAll]
      · simp [ht, Ne.symm ht]
    · by_cases htarget : target ∈ s.names <;> simp [Option.filter, htarget]

lemma aliasTarget?_mapIndexed (hs : s.IsIndexed) (hf : ∀ t, (f t).aliasOf = t.aliasOf) :
    (s.mapIndexed f).aliasTarget? = s.aliasTarget? := by
  funext name
  unfold aliasTarget?
  rw [hs.get?_mapIndexed]
  cases s.get? name <;> simp [hf]

lemma independent_linkAlias : Independent linkAlias recordAlias aliasReport where
  step_eq := linkAlias_eq
  name_eq _ _ _ := rfl
  edit_eq := by
    intro s hs name other _
    have htarget := aliasTarget?_mapIndexed hs (f := s.recordAlias name) fun _ => rfl
    funext t
    rw [recordAlias, htarget, recordAlias]
  report_eq := by
    intro s hs name other _
    have htarget := aliasTarget?_mapIndexed hs (f := s.recordAlias name) fun _ => rfl
    rw [aliasReport, htarget, names_mapIndexed, aliasReport]

lemma foldl_recordAlias (s : Store) (names : List String) (t : Item) :
    names.foldl (fun t name => s.recordAlias name t) t =
      { t with
        aliased := addAll t.aliased (names.filter (s.aliasTarget? · = some t.name)) } := by
  induction names generalizing t with
  | nil => rfl
  | cons name names ih =>
    rw [List.foldl_cons, ih, recordAlias]
    simp only [← addAll_append]
    by_cases h : s.aliasTarget? name = some t.name <;> simp [h]

/-- The alias pass records on each item of the index the names that name it as their target. -/
theorem linkAliases_eq (hs : s.IsIndexed) :
    linkAliases s =
      (s.mapIndexed fun t => { t with
          aliased := addAll t.aliased (s.names.filter (s.aliasTarget? · = some t.name)) },
        s.names.flatMap s.aliasReport) := by
  rw [linkAliases, independent_linkAlias.passOver_eq hs hs.nodup]
  simp only [foldl_recordAlias]

/-! ### Requirements -/

/-- The targets of the requirements without a kind. -/
def openTargets (rs : List Requirement) : List String :=
  (rs.filter (·.kind.isNone)).map (·.target)

lemma openTargets_cons (r : Requirement) (rs : List Requirement) :
    openTargets (r :: rs) = openTargets [r] ++ openTargets rs := by
  simp [openTargets, List.filter_cons]
  split <;> simp

/-- An item after the step for requirements of `usage`. -/
def recordNeed (usage : Usage) (targets : List String) (t : Item) : Item :=
  { t with usedBy := addAll t.usedBy (if t.name ∈ targets then [usage] else []) }

lemma recordNeed_nil (usage : Usage) (t : Item) : recordNeed usage [] t = t := by
  simp [recordNeed]

lemma recordNeed_recordNeed (usage : Usage) (ms ns : List String) (t : Item) :
    recordNeed usage ns (recordNeed usage ms t) = recordNeed usage (ms ++ ns) t := by
  unfold recordNeed
  by_cases hm : t.name ∈ ms <;> by_cases hn : t.name ∈ ns <;>
    simp [hm, hn, addAll, addNew_addNew]

/-- What is reported about targets that `name` needs. -/
def needReport (s : Store) (name : String) (targets : List String) : List Diagnostic :=
  (targets.filter (· ∉ s.names)).map (.unresolvedRequirement name)

lemma needReport_append (s : Store) (name : String) (ms ns : List String) :
    s.needReport name (ms ++ ns) = s.needReport name ms ++ s.needReport name ns := by
  simp only [needReport, List.filter_append, List.map_append]

lemma needReport_mapIndexed (s : Store) (f : Item → Item) :
    (s.mapIndexed f).needReport = s.needReport :=
  rfl

lemma recordUsage_eq (hs : s.IsIndexed) (usage : Usage) (r : Requirement) :
    recordUsage usage s r =
      (s.mapIndexed (recordNeed usage (openTargets [r])),
        s.needReport usage.name (openTargets [r])) := by
  unfold recordUsage recordNeed needReport openTargets
  cases hkind : r.kind with
  | some kind => simp [hkind, mapIndexed_eq_self]
  | none =>
    simp only [hs.modify_or_report]
    congr 2
    · funext t
      by_cases ht : t.name = r.target <;> simp [hkind, ht, addAll]
    · by_cases htarget : r.target ∈ s.names <;> simp [hkind, htarget]

lemma recordUsages_eq (hs : s.IsIndexed) (usage : Usage) (rs : List Requirement) :
    recordUsages usage rs s =
      (s.mapIndexed (recordNeed usage (openTargets rs)),
        s.needReport usage.name (openTargets rs)) := by
  induction rs generalizing s with
  | nil => simp [recordUsages, openTargets, needReport, mapIndexed_eq_self, recordNeed_nil]
  | cons r rs ih =>
    have hname : ∀ t, (recordNeed usage (openTargets [r]) t).name = t.name := fun _ => rfl
    rw [recordUsages, recordUsage_eq hs]
    simp only [ih (hs.mapIndexed hname), mapIndexed_mapIndexed hname, recordNeed_recordNeed,
      needReport_mapIndexed, ← needReport_append, ← openTargets_cons]

/-- The names that the item of a name needs without saying what they are. -/
def needs (s : Store) (name : String) : List String :=
  (s.get? name).elim [] fun item => openTargets item.requires

/-- How the item of a name is recorded on the items it needs. -/
def usage (s : Store) (name : String) : Usage :=
  ⟨name, (s.get? name).bind Item.kind⟩

/-- An item after the step for the requirements of `name`. -/
def recordNeeds (s : Store) (name : String) (t : Item) : Item :=
  recordNeed (s.usage name) (s.needs name)
    { t with
      requires := if t.name = name then t.requires.map s.completeRequirement else t.requires }

lemma linkRequirements_eq (hs : s.IsIndexed) (name : String) :
    linkRequirements s name =
      (s.mapIndexed (s.recordNeeds name), s.needReport name (s.needs name)) := by
  unfold linkRequirements recordNeeds needs usage
  cases hget : s.get? name with
  | none =>
    -- No item of the index has the name, so there is nothing to complete.
    refine Prod.ext (mapIndexed_eq_self fun t ht => ?_).symm (by simp [needReport])
    have hname : t.name ≠ name := by
      rintro rfl
      simp [hget] at ht
    simp [recordNeed_nil, hname]
  | some item =>
    have hname : ∀ t : Item, (if t.name = name then
        { t with requires := t.requires.map s.completeRequirement } else t).name = t.name := by
      intro t
      split <;> rfl
    simp only [hs.modify_eq, recordUsages_eq (hs.mapIndexed hname), mapIndexed_mapIndexed hname,
      needReport_mapIndexed]
    congr 2
    funext t
    by_cases ht : t.name = name <;> simp [ht]

lemma kind_mapIndexed (hs : s.IsIndexed) (hf : ∀ t, (f t).kind = t.kind) (name : String) :
    ((s.mapIndexed f).get? name).bind Item.kind = (s.get? name).bind Item.kind := by
  rw [hs.get?_mapIndexed]
  cases s.get? name <;> simp [hf]

lemma usage_mapIndexed (hs : s.IsIndexed) (hf : ∀ t, (f t).kind = t.kind) :
    (s.mapIndexed f).usage = s.usage := by
  funext name
  rw [usage, usage, kind_mapIndexed hs hf]

lemma completeRequirement_mapIndexed (hs : s.IsIndexed) (hf : ∀ t, (f t).kind = t.kind) :
    (s.mapIndexed f).completeRequirement = s.completeRequirement := by
  funext r
  unfold completeRequirement
  rw [kind_mapIndexed hs hf]

lemma needs_mapIndexed (hs : s.IsIndexed)
    (hf : ∀ t, t.name = name → (f t).requires = t.requires) :
    (s.mapIndexed f).needs name = s.needs name := by
  unfold needs
  rw [hs.get?_mapIndexed]
  cases hget : s.get? name with
  | none => rfl
  | some t => simp [hf t (hs.name_eq hget)]

lemma independent_linkRequirements :
    Independent linkRequirements recordNeeds fun s name => s.needReport name (s.needs name) where
  step_eq := linkRequirements_eq
  name_eq _ _ _ := rfl
  edit_eq := by
    intro s hs name other hother
    have hkind : ∀ t, (s.recordNeeds name t).kind = t.kind := fun _ => rfl
    have hneeds : (s.mapIndexed (s.recordNeeds name)).needs other = s.needs other :=
      needs_mapIndexed hs fun t ht => if_neg (ht ▸ hother)
    funext t
    rw [recordNeeds, usage_mapIndexed hs hkind, completeRequirement_mapIndexed hs hkind, hneeds,
      recordNeeds]
  report_eq := by
    intro s hs name other hother
    have hneeds : (s.mapIndexed (s.recordNeeds name)).needs other = s.needs other :=
      needs_mapIndexed hs fun t ht => if_neg (ht ▸ hother)
    rw [hneeds, needReport_mapIndexed]

@[simp] lemma completeRequirement_completeRequirement (s : Store) (r : Requirement) :
    s.completeRequirement (s.completeRequirement r) = s.completeRequirement r := by
  unfold completeRequirement
  cases hr : r.kind <;> cases (s.get? r.target).bind Item.kind <;> simp [hr]

lemma foldl_recordNeeds (s : Store) (names : List String) (t : Item) :
    names.foldl (fun t name => s.recordNeeds name t) t =
      { t with
        requires := if t.name ∈ names then t.requires.map s.completeRequirement else t.requires
        usedBy := addAll t.usedBy ((names.filter (t.name ∈ s.needs ·)).map s.usage) } := by
  induction names generalizing t with
  | nil => rfl
  | cons name names ih =>
    rw [List.foldl_cons, ih, recordNeeds, recordNeed]
    simp only [← addAll_append]
    congr 1
    · by_cases hname : t.name = name
      · subst hname
        simp [Function.comp_def]
      · simp [hname]
    · by_cases h : t.name ∈ s.needs name <;> simp [h]

/-- The requirement pass completes the requirements of each item of the index, and records on it
the items that need it. -/
theorem linkAllRequirements_eq (hs : s.IsIndexed) :
    linkAllRequirements s =
      (s.mapIndexed fun t => { t with
          requires := t.requires.map s.completeRequirement
          usedBy := addAll t.usedBy ((s.names.filter (t.name ∈ s.needs ·)).map s.usage) },
        s.names.flatMap fun name => s.needReport name (s.needs name)) := by
  rw [linkAllRequirements, independent_linkRequirements.passOver_eq hs hs.nodup]
  simp only [foldl_recordNeeds]
  congr 1
  refine mapIndexed_congr fun t ht => ?_
  simp [hs.mem_names ht]

end Stylebook.Store
