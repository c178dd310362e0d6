import Mathlib
import Stylebook.Item.Record
import Stylebook.Proofs.Output.ReadBack
import Stylebook.Proofs.Store.Index

/-!
# Items from their records

A record leaves out what is absent and what is empty, each by a rule of its own, and puts parts of an
item into maps of their own. Still nothing is lost: an item can be read from its record, by keys
alone, and so from every map that differs from its record in nothing but the order of keys.
-/

namespace Stylebook

open Json (IsPlain)

/-! ### Entries -/

namespace Assoc

variable {α : Type} {es : Assoc α} {key : String} {v : α}

@[simp] lemma get?_append (es fs : Assoc α) (key : String) :
    get? (es ++ fs) key = (get? es key).or (get? fs key) := by
  induction es with
  | nil => simp [get?]
  | cons e es ih =>
    obtain ⟨k, v⟩ := e
    rw [List.cons_append, get?_cons, get?_cons, ih]
    split <;> simp

lemma mem_of_get? (h : get? es key = some v) : (key, v) ∈ es := by
  induction es with
  | nil => cases h
  | cons e es ih =>
    obtain ⟨k, w⟩ := e
    rw [get?_cons] at h
    split at h
    · rename_i hk
      cases h
      rw [hk]
      exact List.mem_cons_self
    · exact List.mem_cons_of_mem _ (ih h)

end Assoc

/-! ### Equal values -/

namespace Value

variable {α : Type} {v x : Value} {es fs : Assoc Value} {key : String}

/-- Two values are equal but for the order of keys, at every level of maps. -/
inductive Alike : Value → Value → Prop
  | null : Alike .null .null
  | bool (b : Bool) : Alike (.bool b) (.bool b)
  | int (i : Int) : Alike (.int i) (.int i)
  | float (x : Binary64) : Alike (.float x) (.float x)
  | text (s : String) : Alike (.text s) (.text s)
  | list {vs ws : List Value} (h : List.Forall₂ Alike vs ws) : Alike (.list vs) (.list ws)
  | map {es fs : Assoc Value} (hkeys : (Assoc.keys es).Perm (Assoc.keys fs))
      (h : ∀ key v w, Assoc.get? es key = some v → Assoc.get? fs key = some w → Alike v w) :
      Alike (.map es) (.map fs)

lemma Alike.map_of_perm (hkeys : (Assoc.keys fs).Nodup) (hperm : es.Perm fs)
    (h : ∀ e ∈ fs, Alike e.2 e.2) : Alike (.map es) (.map fs) := by
  refine .map (hperm.map Prod.fst) ?_
  intro key v w hv hw
  have hmemv : (key, v) ∈ fs := hperm.mem_iff.1 (Assoc.mem_of_get? hv)
  have hmemw : (key, w) ∈ fs := Assoc.mem_of_get? hw
  cases List.inj_on_of_nodup_map hkeys hmemv hmemw rfl
  exact h _ hmemv

lemma alike_self (h : IsPlain v) : Alike v v := by
  induction h with
  | null => exact .null
  | bool b => exact .bool b
  | int i => exact .int i
  | text s => exact .text s
  | list _ ih => exact .list (List.forall₂_same.2 ih)
  | map hkeys _ ih => exact .map_of_perm hkeys (.refl _) ih

/-! ### Reading values -/

/-- The text that a value is. -/
def text? : Value → Option String
  | .text s => some s
  | _ => none

/-- The elements of a list, each of which is read by `d`. -/
def list? (d : Value → Option α) : Value → Option (List α)
  | .list vs => vs.mapM d
  | _ => none

/-- The value under a key of a map. -/
def entry? (v : Value) (key : String) : Option Value :=
  match v with
  | .map es => Assoc.get? es key
  | _ => none

/-- What `d` reads under a key that has to be there. -/
def needed? (key : String) (d : Value → Option α) (v : Value) : Option α :=
  (v.entry? key).bind d

/-- What `d` reads under a key that may be missing. -/
def optional? (key : String) (d : Value → Option α) (v : Value) : Option (Option α) :=
  match v.entry? key with
  | none => some none
  | some x => (d x).map some

/-- What `d` reads in the list under a key; a missing list is empty. -/
def listed? (key : String) (d : Value → Option α) (v : Value) : Option (List α) :=
  match v.entry? key with
  | none => some []
  | some x => list? d x

/-- Whether `d` reads what `f` writes, from every value that is equal but for the order of keys. -/
def Reads (d : Value → Option α) (f : α → Value) : Prop :=
  ∀ a v, Alike v (f a) → d v = some a

lemma reads_text : Reads text? .text := by
  intro s v h
  cases h
  rfl

lemma Reads.list {d : Value → Option α} {f : α → Value} (h : Reads d f) :
    Reads (list? d) fun as => .list (as.map f) := by
  intro as v hv
  cases hv with
  | @list vs _ hvs =>
    rw [List.forall₂_map_right_iff] at hvs
    change vs.mapM d = some as
    induction hvs with
    | nil => rfl
    | cons hv _ ih => simp [List.mapM_cons, h _ _ hv, ih]

lemma Alike.entry?_eq_none (h : Alike v (.map es)) (hkey : Assoc.get? es key = none) :
    v.entry? key = none := by
  cases h with
  | map hkeys _ =>
    rw [Assoc.get?_eq_none_iff, ← hkeys.mem_iff] at hkey
    exact Assoc.get?_eq_none_iff.2 hkey

lemma Alike.exists_entry? (h : Alike v (.map es)) (hkey : Assoc.get? es key = some x) :
    ∃ y, v.entry? key = some y ∧ Alike y x := by
  cases h with
  | @map fs _ hkeys h =>
    cases hy : Assoc.get? fs key with
    | none =>
      rw [Assoc.get?_eq_none_iff, hkeys.mem_iff, ← Assoc.get?_eq_none_iff, hkey] at hy
      cases hy
    | some y => exact ⟨y, hy, h key y x hy hkey⟩

lemma Reads.needed {d : Value → Option α} {f : α → Value} (hd : Reads d f)
    (h : Alike v (.map es)) {a : α} (hkey : Assoc.get? es key = some (f a)) :
    needed? key d v = some a := by
  obtain ⟨y, hy, halike⟩ := h.exists_entry? hkey
  simp [needed?, hy, hd a y halike]

lemma Reads.optional {d : Value → Option α} {f : α → Value} (hd : Reads d f)
    (h : Alike v (.map es)) {a : Option α} (hkey : Assoc.get? es key = a.map f) :
    optional? key d v = some a := by
  cases a with
  | none => simp [optional?, h.entry?_eq_none hkey]
  | some a =>
    obtain ⟨y, hy, halike⟩ := h.exists_entry? hkey
    simp [optional?, hy, hd a y halike]

lemma Reads.listed {d : Value → Option α} {f : α → Value} (hd : Reads d f)
    (h : Alike v (.map es)) {as : List α}
    (hkey : Assoc.get? es key = if as = [] then none else some (.list (as.map f))) :
    listed? key d v = some as := by
  split at hkey
  · rename_i hnil
    simp [listed?, h.entry?_eq_none hkey, hnil]
  · obtain ⟨y, hy, halike⟩ := h.exists_entry? hkey
    simp [listed?, hy, hd.list as y halike]

end Value

/-! ### Parts of an item -/

open Value

/-- Reads the name of a kind, or null. -/
def Kind.ofValue? : Value → Option (Option Kind)
  | .null => some none
  | .text name => (Kind.ofName? name).map some
  | _ => none

/-- Reads a parameter. -/
def Parameter.ofRecord? (v : Value) : Option Parameter := do
  let types ← needed? "type" (list? text?) v
  let name ← needed? "name" text? v
  let defaultValue ← needed? "defaultValue" text? v
  let description ← needed? "description" text? v
  return { types, name, defaultValue, description }

/-- Reads what a function returns. -/
def Returned.ofRecord? (v : Value) : Option Returned := do
  let types ← needed? "type" (list? text?) v
  let description ← needed? "description" text? v
  return { types, description }

/-- Reads a requirement. -/
def Requirement.ofRecord? (v : Value) : Option Requirement := do
  let target ← needed? "item" text? v
  let kind ← needed? "type" Kind.ofValue? v
  return { target, kind }

/-- Reads a link. -/
def Link.ofRecord? (v : Value) : Option Link := do
  let url ← needed? "url" text? v
  let label ← needed? "label" text? v
  return { url, label }

/-- Reads a usage. -/
def Usage.ofRecord? (v : Value) : Option Usage := do
  let name ← needed? "item" text? v
  let kind ← needed? "type" Kind.ofValue? v
  return { name, kind }

lemma Kind.ofName?_name (kind : Kind) : Kind.ofName? kind.name = some kind := by
  cases kind <;> rfl

lemma reads_kind : Reads Kind.ofValue? Kind.value := by
  intro kind v h
  cases kind with
  | none =>
    cases h
    rfl
  | some kind =>
    cases h
    simp [Kind.ofValue?, Kind.ofName?_name]

lemma reads_texts : Reads (list? text?) .ofTexts :=
  reads_text.list

lemma reads_parameter : Reads Parameter.ofRecord? Parameter.record := by
  intro p v h
  have htypes : needed? "type" (list? text?) v = some p.types := reads_texts.needed h rfl
  have hname : needed? "name" text? v = some p.name := reads_text.needed h rfl
  have hdefault : needed? "defaultValue" text? v = some p.defaultValue := reads_text.needed h rfl
  have hdescription : needed? "description" text? v = some p.description :=
    reads_text.needed h rfl
  simp [Parameter.ofRecord?, htypes, hname, hdefault, hdescription]

lemma reads_returned : Reads Returned.ofRecord? Returned.record := by
  intro r v h
  have htypes : needed? "type" (list? text?) v = some r.types := reads_texts.needed h rfl
  have hdescription : needed? "description" text? v = some r.description :=
    reads_text.needed h rfl
  simp [Returned.ofRecord?, htypes, hdescription]

lemma reads_requirement : Reads Requirement.ofRecord? Requirement.record := by
  intro r v h
  have htarget : needed? "item" text? v = some r.target := reads_text.needed h rfl
  have hkind : needed? "type" Kind.ofValue? v = some r.kind := reads_kind.needed h rfl
  simp [Requirement.ofRecord?, htarget, hkind]

lemma reads_link : Reads Link.ofRecord? Link.record := by
  intro l v h
  have hurl : needed? "url" text? v = some l.url := reads_text.needed h rfl
  have hlabel : needed? "label" text? v = some l.label := reads_text.needed h rfl
  simp [Link.ofRecord?, hurl, hlabel]

lemma reads_usage : Reads Usage.ofRecord? Usage.record := by
  intro u v h
  have hname : needed? "item" text? v = some u.name := reads_text.needed h rfl
  have hkind : needed? "type" Kind.ofValue? v = some u.kind := reads_kind.needed h rfl
  simp [Usage.ofRecord?, hname, hkind]

/-! ### Items -/

namespace Item

/-- Reads an item. -/
def ofRecord? (v : Value) : Option Item := do
  let name ← needed? "name" text? v
  let kind ← needed? "type" Kind.ofValue? v
  let description ← optional? "description" text? v
  let parameters ← listed? "parameters" Parameter.ofRecord? v
  let returns ← optional? "returns" Returned.ofRecord? v
  let requires ← listed? "requires" Requirement.ofRecord? v
  let links ← listed? "links" Link.ofRecord? v
  let aliasOf ← optional? "alias" text? v
  let aliased ← listed? "aliased" text? v
  let usedBy ← listed? "usedBy" Usage.ofRecord? v
  let access ← optional? "access" text? v
  let datatype ← listed? "datatype" text? v
  let value ← optional? "value" text? v
  let deprecated ← optional? "deprecated" text? v
  let since ← optional? "since" text? v
  let author ← optional? "author" text? v
  let throws ← listed? "throws" text? v
  let todo ← listed? "todo" text? v
  return { name, kind, description, parameters, returns, requires, links, aliasOf, aliased, usedBy,
           access, datatype, value, deprecated, since, author, throws, todo }

@[simp] lemma get?_optionalEntry {α : Type} (key : String) (f : α → Value) (a : Option α)
    (name : String) :
    Assoc.get? (optionalEntry key f a) name = if name = key then a.map f else none := by
  cases a with
  | none => simp [optionalEntry, Assoc.get?]
  | some a => exact Assoc.get?_cons key (f a) [] name

@[simp] lemma get?_listEntry {α : Type} (key : String) (f : α → Value) (as : List α)
    (name : String) :
    Assoc.get? (listEntry key f as) name =
      if name = key then if as = [] then none else some (.list (as.map f)) else none := by
  cases as with
  | nil => simp [listEntry, Assoc.get?]
  | cons a as => exact Assoc.get?_cons key _ [] name

lemma reads_item : Reads ofRecord? record := by
  intro item v h
  unfold record entries at h
  -- Each entry has a key of its own, so that a lookup passes over the entries of all other fields.
  have hname : needed? "name" text? v = some item.name :=
    reads_text.needed h (by simp [Assoc.get?_cons])
  have hkind : needed? "type" Kind.ofValue? v = some item.kind :=
    reads_kind.needed h (by simp [Assoc.get?_cons])
  have hdescription : optional? "description" text? v = some item.description :=
    reads_text.optional h (by simp [Assoc.get?_cons])
  have hparameters : listed? "parameters" Parameter.ofRecord? v = some item.parameters :=
    reads_parameter.listed h (by simp [Assoc.get?_cons])
  have hreturns : optional? "returns" Returned.ofRecord? v = some item.returns :=
    reads_returned.optional h (by simp [Assoc.get?_cons])
  have hrequires : listed? "requires" Requirement.ofRecord? v = some item.requires :=
    reads_requirement.listed h (by simp [Assoc.get?_cons])
  have hlinks : listed? "links" Link.ofRecord? v = some item.links :=
    reads_link.listed h (by simp [Assoc.get?_cons])
  have haliasOf : optional? "alias" text? v = some item.aliasOf :=
    reads_text.optional h (by simp [Assoc.get?_cons])
  have haliased : listed? "aliased" text? v = some item.aliased :=
    reads_text.listed h (by simp [Assoc.get?_cons])
  have husedBy : listed? "usedBy" Usage.ofRecord? v = some item.usedBy :=
    reads_usage.listed h (by simp [Assoc.get?_cons])
  have haccess : optional? "access" text? v = some item.access :=
    reads_text.optional h (by simp [Assoc.get?_cons])
  have hdatatype : listed? "datatype" text? v = some item.datatype :=
    reads_text.listed h (by simp [Assoc.get?_cons])
  have hvalue : optional? "value" text? v = some item.value :=
    reads_text.optional h (by simp [Assoc.get?_cons])
  have hdeprecated : optional? "deprecated" text? v = some item.deprecated :=
    reads_text.optional h (by simp [Assoc.get?_cons])
  have hsince : optional? "since" text? v = some item.since :=
    reads_text.optional h (by simp [Assoc.get?_cons])
  have hauthor : optional? "author" text? v = some item.author :=
    reads_text.optional h (by simp [Assoc.get?_cons])
  have hthrows : listed? "throws" text? v = some item.throws :=
    reads_text.listed h (by simp [Assoc.get?_cons])
  have htodo : listed? "todo" text? v = some item.todo :=
    reads_text.listed h (by simp [Assoc.get?_cons])
  simp only [ofRecord?, hname, hkind, hdescription, hparameters, hreturns, hrequires, hlinks,
    haliasOf, haliased, husedBy, haccess, hdatatype, hvalue, hdeprecated, hsince, hauthor, hthrows,
    htodo, Option.bind_eq_bind, Option.bind_some]
  rfl

/-- An item is read from every map that equals its record but for the order of keys, so no two items
have equal records. -/
theorem record_determines_item (item : Item) :
    (∀ v, Alike v item.record → ofRecord? v = some item) ∧
      ∀ other : Item, Alike item.record other.record ↔ item = other := by
  have hself : Alike item.record item.record := alike_self item.isPlain_record
  refine ⟨reads_item item, ?_⟩
  intro other
  constructor
  · intro h
    have hitem : ofRecord? item.record = some item := reads_item item _ hself
    have hother : ofRecord? item.record = some other := reads_item other _ h
    exact Option.some.inj (hitem.symm.trans hother)
  · rintro rfl
    exact hself

/-- A function with an empty alias and no access, and with a requirement of unknown kind. -/
def easeItem : Item where
  name := "ease"
  kind := some .function
  description := some ""
  parameters := [{ types := ["number", "null"], name := "step" }]
  returns := some { types := [""] }
  requires := [{ target := "curve" }, { target := "tempo", kind := some .var }]
  aliasOf := some ""
  usedBy := [{ name := "fade", kind := none }]
  todo := ["", "tune"]

theorem record_determines_item_easeItem :
    Alike (.map easeItem.entries.reverse) easeItem.record ∧
      ofRecord? (.map easeItem.entries.reverse) = some easeItem ∧
      ¬ Alike easeItem.record { easeItem with aliasOf := none }.record := by
  have hplain : IsPlain (.map easeItem.entries) := easeItem.isPlain_record
  have halike : Alike (.map easeItem.entries.reverse) easeItem.record := by
    cases hplain with
    | map hkeys h =>
      exact .map_of_perm hkeys (List.reverse_perm _) fun e he => alike_self (h e he)
  refine ⟨halike, (record_determines_item easeItem).1 _ halike, ?_⟩
  rw [(record_determines_item easeItem).2]
  decide

end Item

end Stylebook
