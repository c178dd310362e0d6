import Mathlib
import Stylebook.Proofs.Linking.Inverse

/-!
# Operations on a store

Whatever is done with a store, it holds the items that were pushed, in their order, under an index
of their names. Only one operation ever changes an item that is stored, the first linking, and it
only adds to it. All that is said about a run of operations follows from what one operation does.
-/

namespace Stylebook

/-! ### Items that were added to -/

/-- A requirement and what may become of it: a kind that it declares stays. -/
structure Requirement.Becomes (r r' : Requirement) : Prop where
  target_eq : r'.target = r.target
  kind_eq : r.kind ≠ none → r'.kind = r.kind

/-- An item and what may become of it: names are added to the lists of items that name it,
requirements without a kind may be given one, and all else stays. -/
structure Item.Becomes (a b : Item) : Prop where
  aliased : a.aliased <+: b.aliased
  usedBy : a.usedBy <+: b.usedBy
  requires : List.Forall₂ Requirement.Becomes a.requires b.requires
  rest : { b with aliased := a.aliased, usedBy := a.usedBy, requires := a.requires } = a

/-- No name is recorded twice on an item. -/
def Item.IsTidy (item : Item) : Prop :=
  item.aliased.Nodup ∧ item.usedBy.Nodup

instance (item : Item) : Decidable item.IsTidy :=
  inferInstanceAs (Decidable (item.aliased.Nodup ∧ item.usedBy.Nodup))

lemma Item.Becomes.refl (a : Item) : a.Becomes a where
  aliased := List.prefix_rfl
  usedBy := List.prefix_rfl
  requires := List.forall₂_same.2 fun _ _ => ⟨rfl, fun _ => rfl⟩
  rest := rfl

lemma Item.Becomes.name_eq {a b : Item} (h : a.Becomes b) : b.name = a.name := by
  rw [← h.rest]

namespace Store

section AddAll

variable {α : Type} [DecidableEq α] {xs : List α}

lemma nodup_addAll (h : xs.Nodup) (ys : List α) : (addAll xs ys).Nodup := by
  induction ys generalizing xs with
  | nil => exact h
  | cons y ys ih =>
    apply ih
    unfold addNew
    split
    · exact h
    · rename_i hy
      rw [← List.concat_eq_append]
      exact h.concat hy

lemma prefix_addAll (xs ys : List α) : xs <+: addAll xs ys := by
  induction ys generalizing xs with
  | nil => exact List.prefix_rfl
  | cons y ys ih =>
    refine List.IsPrefix.trans ?_ (ih (addNew xs y))
    unfold addNew
    split
    · exact List.prefix_rfl
    · exact List.prefix_append xs [y]

end AddAll

variable {s : Store} {f : Item → Item}

lemma becomes_linkedItem (s : Store) (t : Item) : t.Becomes (s.linkedItem t) where
  aliased := prefix_addAll _ _
  usedBy := prefix_addAll _ _
  requires := by
    rw [linkedItem, List.forall₂_map_right_iff, List.forall₂_same]
    intro r _
    rw [completeRequirement_eq]
    refine ⟨rfl, fun hkind => ?_⟩
    obtain ⟨kind, hkind⟩ := Option.ne_none_iff_exists'.1 hkind
    simp [hkind]
  rest := rfl

lemma isTidy_linkedItem {t : Item} (h : t.IsTidy) : (s.linkedItem t).IsTidy :=
  ⟨nodup_addAll h.1 _, nodup_addAll h.2 _⟩

/-- What holds of an item, kept or changed, holds of all items after a change of those of the
index. -/
lemma forall₂_mapIndexed {R : Item → Item → Prop} (s : Store)
    (hkept : ∀ item ∈ s.items, R item item) (hchanged : ∀ item ∈ s.items, R item (f item)) :
    List.Forall₂ R s.items (s.mapIndexed f).items := by
  rw [List.forall₂_iff_get]
  refine ⟨by simp [mapIndexed], fun i h₁ h₂ => ?_⟩
  have hmem : s.items[i] ∈ s.items := List.getElem_mem h₁
  simp only [mapIndexed, List.get_eq_getElem, List.getElem_mapIdx]
  split
  · exact hchanged _ hmem
  · exact hkept _ hmem

/-! ### Operations -/

/-- What can be asked of a store. -/
inductive Operation where
  | push (item : Item)
  | get (name : String)
  | len
  | iter
  | resolve (validate : Bool)

/-- What a store answers. -/
inductive Answer where
  | stored
  | found (item : Option Item)
  | length (n : Nat)
  | listed (items : List Item)
  | resolved (diagnostics : List Diagnostic)
  | refused (error : LinkError)
  deriving DecidableEq

/-- Whether an answer says that the store has been linked. -/
def Answer.isResolved : Answer → Bool
  | .resolved _ => true
  | _ => false

/-- Carry out an operation. -/
def perform (s : Store) : Operation → Store × Answer
  | .push item => (s.push item, .stored)
  | .get name => (s, .found (s.get? name))
  | .len => (s, .length s.items.length)
  | .iter => (s, .listed s.items)
  | .resolve validate =>
    match s.resolve validate with
    | .ok (t, ds) => (t, .resolved ds)
    | .error e => (s, .refused e)

/-- Carry out some operations one after the other. -/
def run (s : Store) : List Operation → Store × List Answer
  | [] => (s, [])
  | op :: ops =>
    let (s₁, answer) := s.perform op
    let (s₂, answers) := run s₁ ops
    (s₂, answer :: answers)

/-- The items that operations push, in order. -/
def pushed (ops : List Operation) : List Item :=
  ops.filterMap fun
    | .push item => some item
    | _ => none

variable {op : Operation} {ops : List Operation} {items : List Item}

lemma perform_resolve_of_resolved (h : s.resolved = true) (validate : Bool) :
    s.perform (.resolve validate) = (s, .refused .alreadyResolved) := by
  simp [perform, resolve, h]

lemma perform_resolve_of_not_resolved (hs : s.IsIndexed) (h : s.resolved = false)
    (validate : Bool) :
    s.perform (.resolve validate) = (s.linked, .resolved (s.reports validate)) := by
  simp [perform, resolve, h, link_eq hs]

lemma pushed_cons (op : Operation) (ops : List Operation) :
    pushed (op :: ops) = pushed [op] ++ pushed ops := by
  cases op <;> rfl

/-! ### What a store holds -/

/-- A name stands at a place of a list, and at no later one. -/
def IsLast (names : List String) (name : String) (i : Nat) : Prop :=
  names[i]? = some name ∧ ∀ j, i < j → names[j]? ≠ some name

/-- A store that some items were pushed to, and that may have been linked meanwhile. -/
structure Holds (items : List Item) (s : Store) : Prop where
  becomes : List.Forall₂ Item.Becomes items s.items
  eq_of_not_resolved : s.resolved = false → s.items = items
  names : s.names = (items.map Item.name).eraseDups
  indexed : s.IsIndexed
  tidy : ∀ item ∈ s.items, item.IsTidy

lemma holds_empty : Holds [] {} where
  becomes := .nil
  eq_of_not_resolved _ := rfl
  names := rfl
  indexed := isIndexed_empty
  tidy := by simp

namespace Holds

lemma map_name (h : Holds items s) : s.items.map Item.name = items.map Item.name := by
  have hnames : List.Forall₂ (· = ·) (items.map Item.name) (s.items.map Item.name) := by
    rw [List.forall₂_map_left_iff, List.forall₂_map_right_iff]
    exact h.becomes.imp fun _ _ hab => hab.name_eq.symm
  rw [List.forall₂_eq_eq_eq] at hnames
  exact hnames.symm

lemma place?_eq_some_iff (h : Holds items s) {name : String} {i : Nat} :
    s.place? name = some i ↔ IsLast (items.map Item.name) name i := by
  have hnamed : ∀ {j}, s.place? name = some j → (items.map Item.name)[j]? = some name := by
    intro j hplace
    obtain ⟨item, hitem, rfl⟩ := h.indexed.named hplace
    rw [← h.map_name, List.getElem?_map, hitem, Option.map_some]
  have hlast : ∀ {j k}, s.place? name = some j → (items.map Item.name)[k]? = some name →
      k ≤ j := by
    intro j k hplace hk
    rw [← h.map_name, List.getElem?_map] at hk
    obtain ⟨item, hitem, hname⟩ := Option.map_eq_some_iff.1 hk
    exact h.indexed.last hplace hitem hname
  constructor
  · intro hplace
    refine ⟨hnamed hplace, fun j hij hj => ?_⟩
    have hji : j ≤ i := hlast hplace hj
    omega
  · rintro ⟨hi, hlater⟩
    have hname : name ∈ s.names := by
      rw [h.names, List.mem_eraseDups]
      exact List.mem_of_getElem? hi
    obtain ⟨k, -, hplace, -, -⟩ := h.indexed.exists_of_mem hname
    have hik : i ≤ k := hlast hplace hi
    have hki : ¬ i < k := fun hlt => hlater k hlt (hnamed hplace)
    rw [hplace, show k = i by omega]

/-! ### One operation -/

lemma push (h : Holds items s) {item : Item} (hitem : item.IsTidy) :
    Holds (items ++ [item]) (s.push item) where
  becomes := List.rel_append h.becomes (.cons (.refl item) .nil)
  eq_of_not_resolved hs := by rw [Store.push, h.eq_of_not_resolved hs]
  names := by
    have hmem : item.name ∈ s.names ↔ item.name ∈ items.map Item.name := by
      rw [h.names, List.mem_eraseDups]
    rw [List.map_append, List.eraseDups_append, ← h.names]
    by_cases hold : item.name ∈ s.names
    · have hremoved : [item.name].removeAll (items.map Item.name) = [] := by
        simpa [List.removeAll] using hmem.1 hold
      rw [List.map_singleton, hremoved, List.eraseDups_nil, List.append_nil, names_push,
        if_pos hold]
    · have hkept : [item.name].removeAll (items.map Item.name) = [item.name] := by
        simpa [List.removeAll] using fun hnew => hold (hmem.2 hnew)
      rw [List.map_singleton, hkept, names_push, if_neg hold]
      rfl
  indexed := h.indexed.push item
  tidy := by
    intro other hother
    rcases List.mem_append.1 hother with hother | hother
    · exact h.tidy other hother
    · rwa [List.mem_singleton.1 hother]

lemma linked (h : Holds items s) (hs : s.resolved = false) : Holds items s.linked where
  becomes := by
    rw [← h.eq_of_not_resolved hs]
    exact forall₂_mapIndexed s (fun item _ => .refl item) fun item _ => becomes_linkedItem s item
  eq_of_not_resolved := by simp [Store.linked]
  names := h.names
  indexed :=
    have hmapped := h.indexed.mapIndexed (f := s.linkedItem) fun _ => rfl
    ⟨hmapped.nodup, hmapped.named, hmapped.last⟩
  tidy := by
    have htidy : List.Forall₂ (fun _ item => item.IsTidy) s.items s.linked.items :=
      forall₂_mapIndexed s h.tidy fun item hitem => isTidy_linkedItem (h.tidy item hitem)
    intro item hitem
    obtain ⟨i, hi, rfl⟩ := List.getElem_of_mem hitem
    exact htidy.get (htidy.length_eq ▸ hi) hi

/-- One operation adds the item that it pushes, if it pushes one. -/
lemma perform (h : Holds items s) (hop : ∀ item ∈ pushed [op], item.IsTidy) :
    Holds (items ++ pushed [op]) (s.perform op).1 := by
  cases op with
  | push item => exact h.push (hop item List.mem_cons_self)
  | resolve validate =>
    change Holds (items ++ []) _
    rw [List.append_nil]
    cases hs : s.resolved with
    | false =>
      rw [perform_resolve_of_not_resolved h.indexed hs]
      exact h.linked hs
    | true =>
      rw [perform_resolve_of_resolved hs]
      exact h
  | get | len | iter =>
    change Holds (items ++ []) s
    rwa [List.append_nil]

/-- One operation links a store that was not linked before, or leaves it as it was in this. -/
lemma toNat_resolved_perform (h : Holds items s) (op : Operation) :
    (s.perform op).1.resolved.toNat = s.resolved.toNat + (s.perform op).2.isResolved.toNat := by
  cases op with
  | resolve validate =>
    cases hs : s.resolved with
    | false =>
      rw [perform_resolve_of_not_resolved h.indexed hs]
      rfl
    | true =>
      rw [perform_resolve_of_resolved hs, hs]
      rfl
  | push | get | len | iter => rfl

/-! ### All operations -/

lemma run (h : Holds items s) (hops : ∀ item ∈ pushed ops, item.IsTidy) :
    Holds (items ++ pushed ops) (s.run ops).1 := by
  induction ops generalizing items s with
  | nil =>
    change Holds (items ++ []) s
    rwa [List.append_nil]
  | cons op ops ih =>
    rw [pushed_cons, List.forall_mem_append] at hops
    rw [pushed_cons, ← List.append_assoc]
    exact ih (h.perform hops.1) hops.2

/-- A run links the store as often as this shows in the store: once or not at all. -/
lemma toNat_resolved_run (h : Holds items s) (hops : ∀ item ∈ pushed ops, item.IsTidy) :
    (s.run ops).1.resolved.toNat = s.resolved.toNat + (s.run ops).2.countP Answer.isResolved := by
  induction ops generalizing items s with
  | nil => rfl
  | cons op ops ih =>
    rw [pushed_cons, List.forall_mem_append] at hops
    have hop := h.toNat_resolved_perform op
    have hrest := ih (h.perform hops.1) hops.2
    simp only [Store.run, List.countP_cons]
    cases hanswer : (s.perform op).2.isResolved <;> simp [hanswer] at hop ⊢ <;> omega

end Holds

lemma resolved_perform (h : s.resolved = true) (op : Operation) :
    (s.perform op).1.resolved = true := by
  cases op with
  | resolve validate => rwa [perform_resolve_of_resolved h]
  | push | get | len | iter => exact h

/-- Operations on a store that has been linked change no item in it. -/
lemma items_prefix_perform (h : s.resolved = true) (op : Operation) :
    s.items <+: (s.perform op).1.items := by
  cases op with
  | push item => exact List.prefix_append _ _
  | resolve validate => rw [perform_resolve_of_resolved h]
  | get | len | iter => exact List.prefix_rfl

lemma items_prefix_run (h : s.resolved = true) (ops : List Operation) :
    s.items <+: (s.run ops).1.items := by
  induction ops generalizing s with
  | nil => exact List.prefix_rfl
  | cons op ops ih => exact (items_prefix_perform h op).trans (ih (resolved_perform h op))

/-- After any operations on an empty store, its items are those that were pushed, in their order,
and its index has their names in the order of the first item and gives the last item of each. No
name is recorded twice on an item. An item is pushed as it is. At most one linking succeeds. Before
it, the items are as they were pushed and linking succeeds; after it, linking is refused and changes
nothing, and no operations change an item of the store. -/
theorem run_invariant (ops : List Operation) (hops : ∀ item ∈ pushed ops, item.IsTidy) :
    let s := (run {} ops).1
    let answers := (run {} ops).2
    List.Forall₂ Item.Becomes (pushed ops) s.items ∧
      s.names = ((pushed ops).map Item.name).eraseDups ∧
      (∀ name i, s.place? name = some i ↔ IsLast ((pushed ops).map Item.name) name i) ∧
      (∀ item ∈ s.items, item.IsTidy) ∧
      (∀ item, (s.perform (.push item)).1.items = s.items ++ [item]) ∧
      answers.countP Answer.isResolved ≤ 1 ∧
      (answers.any Answer.isResolved = false → s.items = pushed ops ∧
        ∀ validate, (s.perform (.resolve validate)).2.isResolved = true) ∧
      (answers.any Answer.isResolved = true →
        (∀ validate, s.perform (.resolve validate) = (s, .refused .alreadyResolved)) ∧
        ∀ more, s.items <+: (s.run more).1.items) := by
  intro s answers
  have h : Holds (pushed ops) s := holds_empty.run hops
  have hcount : s.resolved.toNat = answers.countP Answer.isResolved := by
    simpa using holds_empty.toNat_resolved_run hops
  have hresolved : answers.any Answer.isResolved = s.resolved := by
    rw [Bool.eq_iff_iff, List.any_eq_true, ← List.countP_pos_iff, ← hcount]
    cases s.resolved <;> simp
  rw [hresolved]
  refine ⟨h.becomes, h.names, fun name i => h.place?_eq_some_iff, h.tidy, fun item => rfl, ?_, ?_,
    ?_⟩
  · rw [← hcount]
    exact Bool.toNat_le _
  · intro hs
    refine ⟨h.eq_of_not_resolved hs, fun validate => ?_⟩
    rw [perform_resolve_of_not_resolved h.indexed hs]
    rfl
  · intro hs
    exact ⟨perform_resolve_of_resolved hs, items_prefix_run hs⟩

/-- Operations with a shadowed name, two linkings, and a push after the first one. -/
def columnOperations : List Operation :=
  columnItems.map .push ++
    [.len, .resolve true, .push { name := "half", aliased := ["size"] }, .get "half",
      .resolve false, .iter]

/-- The item that is pushed late takes over its name in the index and is not linked. -/
theorem run_invariant_columnOperations :
    let s := (run {} columnOperations).1
    let answers := (run {} columnOperations).2
    (∀ item ∈ pushed columnOperations, item.IsTidy) ∧
      List.Forall₂ Item.Becomes (pushed columnOperations) s.items ∧
      s.names = ["half", "grid", "size"] ∧ s.place? "half" = some 4 ∧
      s.items.map Item.aliased = [[], [], ["grid", "size"], [], ["size"]] ∧
      answers.countP Answer.isResolved = 1 ∧
      s.perform (.resolve true) = (s, .refused .alreadyResolved) := by
  intro s answers
  have htidy : ∀ item ∈ pushed columnOperations, item.IsTidy := by decide
  have hcount : answers.countP Answer.isResolved = 1 := by decide +kernel
  have hresolved : answers.any Answer.isResolved = true := by decide +kernel
  obtain ⟨hbecomes, hnames, hplace, -, -, -, -, hafter⟩ := run_invariant columnOperations htidy
  refine ⟨htidy, hbecomes, ?_, ?_, ?_, hcount, (hafter hresolved).1 true⟩
  · rw [hnames]
    decide +kernel
  · rw [hplace]
    refine ⟨rfl, fun j hj => ?_⟩
    rw [List.getElem?_eq_none (Nat.succ_le_of_lt hj)]
    nofun
  · decide +kernel

end Store

end Stylebook
