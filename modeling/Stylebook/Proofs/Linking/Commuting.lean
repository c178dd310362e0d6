import Mathlib
import Stylebook.Proofs.Store.Operations

/-!
# Passes in any order

The passes of linking write different fields, and none reads a field that another one writes. So any
two of them commute: neither changes what the other reports, and in both orders they give one store.
This needs nothing of the store: its names may lead to one item, to items of other names, or nowhere.

A pass is made of edits of single items. What commutes with each of them commutes with the pass.
-/

namespace Stylebook

/-! ### Additions one after another -/

lemma Requirement.Becomes.trans {a b c : Requirement} (hab : a.Becomes b) (hbc : b.Becomes c) :
    a.Becomes c where
  target_eq := hbc.target_eq.trans hab.target_eq
  kind_eq h := by
    have hb : b.kind = a.kind := hab.kind_eq h
    rw [hbc.kind_eq (hb ▸ h), hb]

lemma forall₂_trans {α : Type} {R : α → α → Prop} (hR : ∀ a b c, R a b → R b c → R a c)
    {as bs cs : List α} (hab : List.Forall₂ R as bs) (hbc : List.Forall₂ R bs cs) :
    List.Forall₂ R as cs := by
  induction hab generalizing cs with
  | nil => exact hbc
  | cons ha _ ih =>
    cases hbc with
    | cons hb hbs => exact .cons (hR _ _ _ ha hb) (ih hbs)

lemma Item.Becomes.trans {a b c : Item} (hab : a.Becomes b) (hbc : b.Becomes c) : a.Becomes c where
  aliased := hab.aliased.trans hbc.aliased
  usedBy := hab.usedBy.trans hbc.usedBy
  requires := forall₂_trans (R := Requirement.Becomes) (fun _ _ _ => .trans) hab.requires hbc.requires
  rest := by
    have hb := hbc.rest
    have ha := hab.rest
    rw [← hb] at ha
    exact ha

namespace Store

variable {s t u : Store} {name other : String} {f g : Item → Item} {p q r : Pass}
  {step : Store → String → Store × List Diagnostic}

/-- A store and what may become of it: the index stays, and each item stays in its place and is only
added to. -/
structure Becomes (s t : Store) : Prop where
  index : t.index = s.index
  resolved : t.resolved = s.resolved
  items : List.Forall₂ Item.Becomes s.items t.items

namespace Becomes

lemma refl (s : Store) : s.Becomes s where
  index := rfl
  resolved := rfl
  items := List.forall₂_same.2 fun item _ => .refl item

lemma trans (hst : s.Becomes t) (htu : t.Becomes u) : s.Becomes u where
  index := htu.index.trans hst.index
  resolved := htu.resolved.trans hst.resolved
  items := forall₂_trans (R := Item.Becomes) (fun _ _ _ => .trans) hst.items htu.items

lemma modify (s : Store) (name : String) (hf : ∀ item : Item, item.Becomes (f item)) :
    s.Becomes (s.modify name f) := by
  unfold Store.modify
  split
  · exact refl s
  · rename_i i _
    refine ⟨rfl, rfl, List.forall₂_iff_get.2 ⟨by simp, fun j hj hj' => ?_⟩⟩
    simp only [List.get_eq_getElem, List.getElem_modify]
    split
    · exact hf _
    · exact .refl _

lemma names_eq (h : s.Becomes t) : t.names = s.names := by
  rw [names, names, h.index]

/-- What additions leave alone is the same for every name. -/
lemma map_get?_eq {α : Type} {field : Item → α} (h : s.Becomes t)
    (hfield : ∀ {a b : Item}, a.Becomes b → field b = field a) (name : String) :
    (t.get? name).map field = (s.get? name).map field := by
  have hmap : t.items.map field = s.items.map field := by
    refine (List.forall₂_eq_eq_eq ▸ ?_ : s.items.map field = t.items.map field).symm
    rw [List.forall₂_map_left_iff, List.forall₂_map_right_iff]
    exact h.items.imp fun _ _ hab => (hfield hab).symm
  have hplace : t.place? name = s.place? name := by rw [place?, place?, h.index]
  rw [get?, get?, hplace]
  cases s.place? name with
  | none => rfl
  | some i => simpa using congrArg (·[i]?) hmap

lemma bind_get?_eq {α : Type} {field : Item → Option α} (h : s.Becomes t)
    (hfield : ∀ {a b : Item}, a.Becomes b → field b = field a) (name : String) :
    (t.get? name).bind field = (s.get? name).bind field := by
  have hmap := h.map_get?_eq hfield name
  cases ht : t.get? name <;> cases hs : s.get? name <;> simp_all

lemma isNone_get?_eq (h : s.Becomes t) (name : String) :
    (t.get? name).isNone = (s.get? name).isNone := by
  have hmap : (t.get? name).map (fun _ => ()) = (s.get? name).map (fun _ => ()) :=
    h.map_get?_eq (fun _ => rfl) name
  simpa using congrArg Option.isNone hmap

end Becomes

namespace Pass

/-- A pass only adds to the items. -/
def Adds (p : Pass) : Prop :=
  ∀ s : Store, s.Becomes (p s).1

lemma Adds.andThen (hp : Adds p) (hq : Adds q) : Adds (Pass.andThen p q) :=
  fun s => (hp s).trans (hq (p s).1)

lemma Adds.passOver (h : ∀ name, Adds (step · name)) (names : List String) :
    Adds (passOver step names) := by
  induction names with
  | nil => exact Becomes.refl
  | cons name names ih => exact Adds.andThen (h name) ih

/-! ### Passes that commute -/

/-- Neither pass changes what the other one reports, and in both orders they give one store. -/
structure Commutes (p q : Pass) : Prop where
  store_eq : ∀ s, (q (p s).1).1 = (p (q s).1).1
  left_eq : ∀ s, (p (q s).1).2 = (p s).2
  right_eq : ∀ s, (q (p s).1).2 = (q s).2

namespace Commutes

lemma symm (h : Commutes p q) : Commutes q p where
  store_eq s := (h.store_eq s).symm
  left_eq := h.right_eq
  right_eq := h.left_eq

lemma nothing (p : Pass) (ds : List Diagnostic) : Commutes p fun s => (s, ds) where
  store_eq _ := rfl
  left_eq _ := rfl
  right_eq _ := rfl

lemma andThen (hq : Commutes p q) (hr : Commutes p r) : Commutes p (Pass.andThen q r) where
  store_eq s := by
    change (r (q (p s).1).1).1 = (p (r (q s).1).1).1
    rw [hq.store_eq, hr.store_eq]
  left_eq s := by
    change (p (r (q s).1).1).2 = (p s).2
    rw [hr.left_eq, hq.left_eq]
  right_eq s := by
    change (q (p s).1).2 ++ (r (q (p s).1).1).2 = (q s).2 ++ (r (q s).1).2
    rw [hq.right_eq, hq.store_eq, hr.right_eq]

lemma passOver (h : ∀ name, Commutes p (step · name)) (names : List String) :
    Commutes p (passOver step names) := by
  induction names with
  | nil => exact nothing p []
  | cons name names ih => exact (h name).andThen ih

/-- A pass may choose by the store what it does, if the choice is the same after the other pass. -/
lemma of_choice (h : ∀ s, ∃ r : Pass, Commutes p r ∧ q s = r s ∧ q (p s).1 = r (p s).1) :
    Commutes p q where
  store_eq s := by
    obtain ⟨r, hr, hbefore, hafter⟩ := h s
    rw [hbefore, hafter, hr.store_eq]
  left_eq s := by
    obtain ⟨r, hr, hbefore, -⟩ := h s
    rw [hbefore, hr.left_eq]
  right_eq s := by
    obtain ⟨r, hr, hbefore, hafter⟩ := h s
    rw [hbefore, hafter, hr.right_eq]

lemma passOver_names (hp : Adds p) (h : ∀ name, Commutes p (step · name)) :
    Commutes p fun s => Store.passOver step s.names s := by
  refine of_choice fun s => ⟨Store.passOver step s.names, passOver h s.names, rfl, ?_⟩
  rw [(hp s).names_eq]

end Commutes

/-- Some passes one after another. -/
def inTurn : List Pass → Pass
  | [] => fun s => (s, [])
  | p :: ps => Pass.andThen p (inTurn ps)

/-- Passes of which any two commute give one store in whatever order they are made, and only the
order of the reports differs. -/
lemma inTurn_perm {ps qs : List Pass} (hperm : ps.Perm qs) (hps : ps.Pairwise Commutes)
    (s : Store) :
    (inTurn ps s).1 = (inTurn qs s).1 ∧ (inTurn ps s).2.Perm (inTurn qs s).2 := by
  induction hperm generalizing s with
  | nil => exact ⟨rfl, .refl _⟩
  | cons p _ ih =>
    obtain ⟨hstore, hreports⟩ := ih (List.pairwise_cons.1 hps).2 (p s).1
    exact ⟨hstore, hreports.append_left _⟩
  | swap p q ps =>
    have hpq : Commutes q p := (List.pairwise_cons.1 hps).1 p List.mem_cons_self
    change (inTurn ps (p (q s).1).1).1 = (inTurn ps (q (p s).1).1).1 ∧
      ((q s).2 ++ ((p (q s).1).2 ++ (inTurn ps (p (q s).1).1).2)).Perm
        ((p s).2 ++ ((q (p s).1).2 ++ (inTurn ps (q (p s).1).1).2))
    rw [hpq.store_eq, hpq.left_eq, hpq.right_eq, ← List.append_assoc, ← List.append_assoc]
    exact ⟨rfl, List.perm_append_comm.append_right _⟩
  | trans hperm _ ih₁ ih₂ =>
    have hqs := (hperm.pairwise_iff fun h => Commutes.symm h).1 hps
    exact ⟨(ih₁ hps s).1.trans (ih₂ hqs s).1, (ih₁ hps s).2.trans (ih₂ hqs s).2⟩

end Pass

/-! ### Edits -/

open Pass

@[simp] lemma place?_modify (s : Store) (name : String) (f : Item → Item) :
    (s.modify name f).place? = s.place? := by
  unfold modify
  split <;> rfl

lemma getElem?_modify (s : Store) (name : String) (f : Item → Item) (i : Nat) :
    (s.modify name f).items[i]? =
      s.items[i]?.map fun item => if s.place? name = some i then f item else item := by
  unfold modify
  cases hplace : s.place? name with
  | none => simp
  | some j => simp [List.getElem?_modify]

lemma get?_modify (s : Store) (name other : String) (f : Item → Item) :
    (s.modify name f).get? other =
      (s.get? other).map fun item => if s.place? name = s.place? other then f item else item := by
  unfold get?
  rw [place?_modify]
  cases hplace : s.place? other with
  | none => rfl
  | some i => simp [getElem?_modify]

lemma modify_comm (h : ∀ item, f (g item) = g (f item)) (s : Store) (name other : String) :
    (s.modify name f).modify other g = (s.modify other g).modify name f := by
  have hkept : ∀ (s : Store) (name : String) (f : Item → Item),
      (s.modify name f).index = s.index ∧ (s.modify name f).resolved = s.resolved := by
    intro s name f
    unfold modify
    split <;> exact ⟨rfl, rfl⟩
  refine eq_of_getElem? (by simp only [hkept]) (by simp only [hkept]) fun i => ?_
  simp only [getElem?_modify, place?_modify, Option.map_map]
  refine Option.map_congr fun item _ => ?_
  by_cases hname : s.place? name = some i <;> by_cases hother : s.place? other = some i <;>
    simp [hname, hother, h]

/-- The pass that changes the item of a name. -/
def editAt (name : String) (f : Item → Item) : Pass :=
  fun s => (s.modify name f, [])

/-- The pass that changes the item of a name, and reports if there is none. -/
def editOrReport (name : String) (f : Item → Item) (ds : List Diagnostic) : Pass :=
  fun s => if (s.get? name).isNone then (s, ds) else editAt name f s

lemma adds_editAt (name : String) (hf : ∀ item : Item, item.Becomes (f item)) :
    Adds (editAt name f) :=
  fun s => .modify s name hf

lemma adds_editOrReport (name : String) (hf : ∀ item : Item, item.Becomes (f item))
    (ds : List Diagnostic) : Adds (editOrReport name f ds) := by
  intro s
  unfold editOrReport
  split
  · exact .refl s
  · exact adds_editAt name hf s

lemma commutes_editAt (h : ∀ item, f (g item) = g (f item)) (name other : String) :
    Commutes (editAt name f) (editAt other g) where
  store_eq s := modify_comm h s name other
  left_eq _ := rfl
  right_eq _ := rfl

lemma commutes_editOrReport (hp : Adds p) (h : Commutes p (editAt name f)) (ds : List Diagnostic) :
    Commutes p (editOrReport name f ds) := by
  refine .of_choice fun s => ?_
  cases hnone : (s.get? name).isNone with
  | true =>
    refine ⟨fun s => (s, ds), .nothing p ds, ?_, ?_⟩
    · simp [editOrReport, hnone]
    · simp [editOrReport, (hp s).isNone_get?_eq, hnone]
  | false =>
    refine ⟨editAt name f, h, ?_, ?_⟩
    · simp [editOrReport, hnone]
    · simp [editOrReport, (hp s).isNone_get?_eq, hnone]

/-! ### Steps as edits -/

/-- Record on an item that `name` is another name of it. -/
def addAlias (name : String) (t : Item) : Item :=
  { t with aliased := addNew t.aliased name }

/-- Record on an item that another one needs it. -/
def addUsage (usage : Usage) (t : Item) : Item :=
  { t with usedBy := addNew t.usedBy usage }

/-- Complete the requirements of an item. -/
def complete (s : Store) (t : Item) : Item :=
  { t with requires := t.requires.map s.completeRequirement }

lemma prefix_addNew {α : Type} [DecidableEq α] (xs : List α) (x : α) : xs <+: addNew xs x :=
  prefix_addAll xs [x]

lemma becomes_addAlias (name : String) (t : Item) : t.Becomes (addAlias name t) :=
  { Item.Becomes.refl t with aliased := prefix_addNew _ _ }

lemma becomes_addUsage (usage : Usage) (t : Item) : t.Becomes (addUsage usage t) :=
  { Item.Becomes.refl t with usedBy := prefix_addNew _ _ }

lemma becomes_complete (s : Store) (t : Item) : t.Becomes (s.complete t) :=
  { Item.Becomes.refl t with requires := (becomes_linkedItem s t).requires, rest := rfl }

lemma linkAlias_eq_choice (s : Store) (name : String) :
    linkAlias s name = match s.aliasTarget? name with
      | none => (s, [])
      | some target => editOrReport target (addAlias name) [.unresolvedAlias name target] s :=
  linkAlias_eq_match s name

lemma recordUsage_eq_choice (usage : Usage) (r : Requirement) :
    (recordUsage usage · r) = match r.kind with
      | some _ => fun s => (s, [])
      | none => editOrReport r.target (addUsage usage)
          [.unresolvedRequirement usage.name r.target] := by
  funext s
  unfold recordUsage
  cases r.kind <;> rfl

lemma linkRequirements_eq_andThen {item : Item} (h : s.get? name = some item) :
    linkRequirements s name =
      Pass.andThen (editAt name s.complete) (recordUsages ⟨name, item.kind⟩ item.requires) s := by
  rw [linkRequirements, h]
  rfl

lemma adds_linkAlias (name : String) : Adds (linkAlias · name) := by
  intro s
  change s.Becomes (linkAlias s name).1
  rw [linkAlias_eq_choice]
  split
  · exact .refl s
  · exact adds_editOrReport _ (becomes_addAlias name) _ s

lemma adds_recordUsages (usage : Usage) (rs : List Requirement) : Adds (recordUsages usage rs) := by
  induction rs with
  | nil => exact Becomes.refl
  | cons r rs ih =>
    have hr : Adds (recordUsage usage · r) := by
      rw [recordUsage_eq_choice]
      split
      · exact Becomes.refl
      · exact adds_editOrReport _ (becomes_addUsage usage) _
    exact hr.andThen ih

lemma adds_linkRequirements (name : String) : Adds (linkRequirements · name) := by
  intro s
  change s.Becomes (linkRequirements s name).1
  cases hget : s.get? name with
  | none =>
    rw [linkRequirements, hget]
    exact .refl s
  | some item =>
    rw [linkRequirements_eq_andThen hget]
    exact (adds_editAt name s.becomes_complete).andThen (adds_recordUsages _ _) s

lemma adds_linkAliases : Adds linkAliases :=
  fun s => Adds.passOver adds_linkAlias s.names s

lemma adds_linkAllRequirements : Adds linkAllRequirements :=
  fun s => Adds.passOver adds_linkRequirements s.names s

lemma adds_warnings : Adds warnings :=
  Becomes.refl

/-! ### Steps that commute -/

/-- What commutes with recording an alias commutes with the step for it: no addition changes what an
item is an alias of. -/
lemma commutes_linkAlias (hp : Adds p)
    (h : ∀ target, Commutes p (editAt target (addAlias name))) : Commutes p (linkAlias · name) := by
  refine .of_choice fun s => ?_
  have htarget : (p s).1.aliasTarget? name = s.aliasTarget? name := by
    rw [aliasTarget?, aliasTarget?, (hp s).bind_get?_eq fun hab => by rw [← hab.rest]]
  cases hcase : s.aliasTarget? name with
  | none =>
    refine ⟨fun s => (s, []), .nothing p [], ?_, ?_⟩
    · rw [linkAlias_eq_choice, hcase]
    · rw [linkAlias_eq_choice, htarget, hcase]
  | some target =>
    refine ⟨_, commutes_editOrReport hp (h target) [.unresolvedAlias name target], ?_, ?_⟩
    · rw [linkAlias_eq_choice, hcase]
    · rw [linkAlias_eq_choice, htarget, hcase]

lemma commutes_recordUsages {usage : Usage} (hp : Adds p)
    (h : ∀ target, Commutes p (editAt target (addUsage usage))) (rs : List Requirement) :
    Commutes p (recordUsages usage rs) := by
  induction rs with
  | nil => exact .nothing p []
  | cons r rs ih =>
    have hr : Commutes p (recordUsage usage · r) := by
      rw [recordUsage_eq_choice]
      split
      · exact .nothing p []
      · exact commutes_editOrReport hp (h r.target) _
    exact hr.andThen ih

lemma complete_eq (h : s.Becomes t) : t.complete = s.complete := by
  have hcomplete : t.completeRequirement = s.completeRequirement := by
    funext r
    rw [completeRequirement_eq, completeRequirement_eq,
      h.bind_get?_eq fun hab => by rw [← hab.rest]]
  funext item
  rw [complete, complete, hcomplete]

/-- What commutes with completing and recording requirements commutes with the step for them, unless
it changes the requirements of an item itself. -/
lemma commutes_linkRequirements (hp : Adds p)
    (hrequires : ∀ s, ((p s).1.get? name).map Item.requires = (s.get? name).map Item.requires)
    (hcomplete : ∀ s : Store, Commutes p (editAt name s.complete))
    (husage : ∀ usage target, Commutes p (editAt target (addUsage usage))) :
    Commutes p (linkRequirements · name) := by
  refine .of_choice fun s => ?_
  have hkind : ((p s).1.get? name).map Item.kind = (s.get? name).map Item.kind :=
    (hp s).map_get?_eq (fun hab => by rw [← hab.rest]) name
  have hrequires := hrequires s
  cases hget : s.get? name with
  | none =>
    rw [hget, Option.map_none, Option.map_eq_none_iff] at hkind
    refine ⟨fun s => (s, []), .nothing p [], ?_, ?_⟩
    · simp [linkRequirements, hget]
    · simp [linkRequirements, hkind]
  | some item =>
    rw [hget] at hkind hrequires
    obtain ⟨item', hget', hkind'⟩ := Option.map_eq_some_iff.1 hkind
    rw [hget', Option.map_some, Option.map_some, Option.some.injEq] at hrequires
    refine ⟨_, (hcomplete s).andThen (commutes_recordUsages hp (husage _) item.requires),
      linkRequirements_eq_andThen hget, ?_⟩
    rw [← hkind', ← hrequires, ← complete_eq (hp s)]
    exact linkRequirements_eq_andThen hget'

lemma commutes_editAt_linkRequirements (target aliasName name : String) :
    Commutes (editAt target (addAlias aliasName)) (linkRequirements · name) := by
  refine commutes_linkRequirements (adds_editAt target (becomes_addAlias aliasName)) ?_
    (fun s => commutes_editAt (f := addAlias aliasName) (g := s.complete) (fun _ => rfl) target name)
    (fun usage other => commutes_editAt (f := addAlias aliasName) (g := addUsage usage)
      (fun _ => rfl) target other)
  intro s
  rw [editAt, get?_modify, Option.map_map]
  refine Option.map_congr fun item _ => ?_
  simp only [Function.comp_apply]
  split <;> rfl

lemma commutes_linkAliases_linkAllRequirements : Commutes linkAliases linkAllRequirements := by
  refine .passOver_names adds_linkAliases fun name => ?_
  refine (Commutes.passOver_names (adds_linkRequirements name) fun aliasName => ?_).symm
  exact commutes_linkAlias (adds_linkRequirements name) fun target =>
    (commutes_editAt_linkRequirements target aliasName name).symm

/-- No addition changes what is said about types and links. -/
lemma commutes_warnings (hp : Adds p) : Commutes p warnings where
  store_eq _ := rfl
  left_eq _ := rfl
  right_eq s := by
    have hwarnings : ∀ (u : Store), (warnings u).2 = u.names.flatMap fun name =>
        ((u.get? name).map (itemWarnings name)).getD [] := by
      intro u
      refine List.flatMap_congr fun name _ => ?_
      cases u.get? name <;> rfl
    rw [hwarnings, hwarnings, (hp s).names_eq]
    refine List.flatMap_congr fun name _ => ?_
    rw [(hp s).map_get?_eq fun hab => by rw [← hab.rest]; rfl]

lemma pairwise_commutes : [linkAliases, linkAllRequirements, warnings].Pairwise Commutes := by
  have haliases := commutes_warnings adds_linkAliases
  have hrequirements := commutes_warnings adds_linkAllRequirements
  simp [commutes_linkAliases_linkAllRequirements, haliases, hrequirements]

lemma inTurn_eq_linkPass :
    inTurn [linkAliases, linkAllRequirements, warnings] = linkPass true := by
  funext s
  simp [inTurn, linkPass, Pass.andThen]

/-! ### All passes -/

/-- The passes of linking, made in any order, give one store and the same reports, up to their order.
In that store the index and the places of the items are as before, and an item differs at most in
the names that were added to it and in kinds of requirements that had none. -/
theorem linkPass_perm (s : Store) (ps : List Pass)
    (hps : ps.Perm [linkAliases, linkAllRequirements, warnings]) :
    (inTurn ps s).1 = (linkPass true s).1 ∧ (inTurn ps s).2.Perm (linkPass true s).2 ∧
      s.Becomes (inTurn ps s).1 := by
  have hpairwise := (hps.pairwise_iff fun h => Commutes.symm h).2 pairwise_commutes
  obtain ⟨hstore, hreports⟩ := inTurn_perm hps hpairwise s
  rw [inTurn_eq_linkPass] at hstore hreports
  refine ⟨hstore, hreports, hstore ▸ ?_⟩
  exact (adds_linkAliases.andThen adds_linkAllRequirements).andThen adds_warnings s

/-- All passes in reverse, on items of which one has a link that leads nowhere: the reports come in
another order, and each item has what it has otherwise. -/
theorem linkPass_perm_columnItems :
    let s := ofItems (columnItems ++ [{ name := "rule", kind := some .var, links := [⟨"-", "-"⟩] }])
    let ps := [warnings, linkAllRequirements, linkAliases]
    ps.Perm [linkAliases, linkAllRequirements, warnings] ∧
      (inTurn ps s).1 = (linkPass true s).1 ∧ (inTurn ps s).2.Perm (linkPass true s).2 ∧
      s.Becomes (inTurn ps s).1 ∧ (inTurn ps s).2 ≠ (linkPass true s).2 ∧
      ((inTurn ps s).1.get? "half").map (fun t => (t.aliased, t.usedBy, t.requires)) =
        some (["grid", "size"], [⟨"half", some .function⟩, ⟨"grid", some .mixin⟩],
          [⟨"half", some .function⟩, ⟨"lost", none⟩]) := by
  intro s ps
  have hps : ps.Perm [linkAliases, linkAllRequirements, warnings] :=
    List.reverse_perm [linkAliases, linkAllRequirements, warnings]
  obtain ⟨hstore, hreports, hbecomes⟩ := linkPass_perm s ps hps
  refine ⟨hps, hstore, hreports, hbecomes, ?_, ?_⟩
  · decide +kernel
  · decide +kernel

end Store

end Stylebook
