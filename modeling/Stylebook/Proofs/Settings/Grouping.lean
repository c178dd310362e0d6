import Mathlib
import Stylebook.Proofs.Settings.Overlay

/-!
# Layers in groups

Where layers have values of one shape under every path, it makes no difference which of them are
merged first: the settings are the same, with the keys in the same order, and so is the
fingerprint.
-/

namespace Stylebook

/-- The shapes that merging tells apart. -/
inductive Setting.Shape where
  | map
  | list
  | other
  deriving DecidableEq

/-- The shape of a setting. -/
def Setting.shape : Setting → Shape
  | .map _ => .map
  | .list _ => .list
  | _ => .other

namespace Setting

variable {v w : Setting}

lemma exists_map_of_shape (h : v.shape = .map) : ∃ es, v = .map es := by
  cases v with
  | map es => exact ⟨es, rfl⟩
  | _ => cases h

lemma exists_list_of_shape (h : v.shape = .list) : ∃ vs, v = .list vs := by
  cases v with
  | list vs => exact ⟨vs, rfl⟩
  | _ => cases h

/-- Three lists of texts unite to one list in either grouping. -/
lemma IsUnion.assoc {us vs ws : List Setting} {uv vw uvw uvw' : List String}
    (huv : IsUnion us vs uv) (hvw : IsUnion vs ws vw) (huvw : IsUnion (uv.map .text) ws uvw)
    (huvw' : IsUnion us (vw.map .text) uvw') : uvw = uvw' := by
  apply Text.eq_of_increasing huvw.increasing huvw'.increasing
  intro s
  simp only [huvw.mem_iff, huvw'.mem_iff, List.mem_map, Setting.atom.injEq, Atom.text.injEq,
    exists_eq_right, huv.mem_iff, hvw.mem_iff, or_assoc]

end Setting

namespace Settings

variable {a b c s t es fs : Settings} {name : String}

/-- Under every path where two layers have something, they have values of one shape. -/
def AgreeInShape (s t : Settings) : Prop :=
  ∀ names v w, (Setting.map s).at? names = some v → (Setting.map t).at? names = some w →
    v.shape = w.shape

lemma AgreeInShape.shape_eq {v w : Setting} (h : AgreeInShape s t) (hs : s.get? name = some v)
    (ht : t.get? name = some w) : v.shape = w.shape := by
  apply h [name]
  · rw [Setting.at?_map_cons, hs, Option.bind_some, Setting.at?_nil]
  · rw [Setting.at?_map_cons, ht, Option.bind_some, Setting.at?_nil]

lemma AgreeInShape.below (h : AgreeInShape s t) (hs : s.get? name = some (.map es))
    (ht : t.get? name = some (.map fs)) : AgreeInShape es fs := by
  intro names v w hv hw
  apply h (name :: names)
  · rwa [Setting.at?_map_cons, hs]
  · rwa [Setting.at?_map_cons, ht]

/-- Layers agree in shape if their entries under one key do, and so do the maps that both have under
it. -/
lemma agreeInShape_of_mem (h : ∀ e ∈ s, ∀ f ∈ t, e.1 = f.1 → e.2.shape = f.2.shape ∧
    ∀ es fs, e.2 = .map es → f.2 = .map fs → AgreeInShape es fs) : AgreeInShape s t := by
  intro names v w hv hw
  cases names with
  | nil =>
    cases hv
    cases hw
    rfl
  | cons name names =>
    rw [Setting.at?_map_cons, Option.bind_eq_some_iff] at hv hw
    obtain ⟨v', hv', hv⟩ := hv
    obtain ⟨w', hw', hw⟩ := hw
    obtain ⟨hshape, hmaps⟩ := h _ (mem_of_get? hv') _ (mem_of_get? hw') rfl
    cases names with
    | nil =>
      cases hv
      cases hw
      exact hshape
    | cons name' names =>
      -- only maps have something further down
      cases v' with
      | map es =>
        obtain ⟨fs, rfl⟩ := Setting.exists_map_of_shape hshape.symm
        exact hmaps es fs rfl rfl (name' :: names) v w hv hw
      | _ => cases hv

/-! ### One name -/

lemma Lays.eq_of_none {u m : Option Setting} (h : Lays name none u m) : m = u := by
  cases h <;> rfl

/-- What comes of laying a value over another is determined. -/
lemma Lays.unique {x y m m' : Option Setting} (h : Lays name x y m) (h' : Lays name x y m') :
    m = m' := by
  cases h with
  | below => exact h'.eq_below.symm
  | maps hmerged =>
    obtain ⟨merged, rfl, hmerged'⟩ := h'.exists_of_maps
    rw [hmerged] at hmerged'
    cases hmerged'
    rfl
  | @lists _ _ us hname hunion =>
    subst hname
    obtain ⟨us', rfl, hunion'⟩ := h'.exists_of_lists
    rw [Text.eq_of_increasing hunion.increasing hunion'.increasing]
    intro s
    rw [hunion.mem_iff, hunion'.mem_iff]
  | above hmaps hlists => exact (h'.eq_above hmaps hlists).symm

/-- Values of one shape can be laid over each other in either grouping, if this holds of maps. -/
lemma Lays.assoc {x y z xy yz l r : Option Setting} (hxy : Lays name x y xy)
    (hyz : Lays name y z yz) (hl : Lays name xy z l) (hr : Lays name x yz r)
    (hshape : ∀ u v, x = some u → y = some v → u.shape = v.shape)
    (hshape' : ∀ u v, y = some u → z = some v → u.shape = v.shape)
    (hmaps : ∀ a b c, x = some (.map a) → y = some (.map b) → z = some (.map c) →
      ∀ ab bc abc abc', mergeEntries a b = .ok ab → mergeEntries b c = .ok bc →
        mergeEntries ab c = .ok abc → mergeEntries a bc = .ok abc' → abc = abc') :
    l = r := by
  match x, y, z with
  | x, y, none =>
    rw [hyz.eq_below] at hr
    rw [hl.eq_below]
    exact hxy.unique hr
  | x, none, some w =>
    rw [hxy.eq_below] at hl
    rw [hyz.eq_of_none] at hr
    exact hl.unique hr
  | none, some v, some w =>
    rw [hxy.eq_of_none] at hl
    rw [hr.eq_of_none]
    exact hl.unique hyz
  | some u, some v, some w =>
    have huv := hshape u v rfl rfl
    have hvw := hshape' v w rfl rfl
    by_cases hmap : ∃ c, w = .map c
    · obtain ⟨c, rfl⟩ := hmap
      obtain ⟨b, rfl⟩ := Setting.exists_map_of_shape hvw
      obtain ⟨a, rfl⟩ := Setting.exists_map_of_shape huv
      obtain ⟨ab, rfl, hab⟩ := hxy.exists_of_maps
      obtain ⟨bc, rfl, hbc⟩ := hyz.exists_of_maps
      obtain ⟨abc, rfl, habc⟩ := hl.exists_of_maps
      obtain ⟨abc', rfl, habc'⟩ := hr.exists_of_maps
      rw [hmaps a b c rfl rfl rfl ab bc abc abc' hab hbc habc habc']
    · by_cases hlist : name = "exclude" ∧ ∃ ws, w = .list ws
      · obtain ⟨rfl, ws, rfl⟩ := hlist
        obtain ⟨vs, rfl⟩ := Setting.exists_list_of_shape hvw
        obtain ⟨us, rfl⟩ := Setting.exists_list_of_shape huv
        obtain ⟨uv, rfl, huv⟩ := hxy.exists_of_lists
        obtain ⟨vw, rfl, hvw⟩ := hyz.exists_of_lists
        obtain ⟨uvw, rfl, huvw⟩ := hl.exists_of_lists
        obtain ⟨uvw', rfl, huvw'⟩ := hr.exists_of_lists
        rw [huv.assoc hvw huvw huvw']
      · -- neither rule applies, so that the uppermost value counts in both groupings
        have hmaps' : ∀ (x : Option Setting) old new, x = some (.map old) → w ≠ .map new := by
          intro x old new _ hnew
          exact hmap ⟨new, hnew⟩
        have hlists' : ∀ x : Option Setting, name = "exclude" → ∀ old new,
            x = some (.list old) → w ≠ .list new := by
          intro x hname old new _ hnew
          exact hlist ⟨hname, new, hnew⟩
        rw [hyz.eq_above (hmaps' _) (hlists' _)] at hr
        rw [hl.eq_above (hmaps' _) (hlists' _), hr.eq_above (hmaps' _) (hlists' _)]

/-! ### Whole layers -/

/-- The keys come in the order in which the layers first have them, in either grouping. -/
lemma Overlays.keys_assoc {ab bc abc abc' : Settings} (hab : Overlays a b ab)
    (hbc : Overlays b c bc) (habc : Overlays ab c abc) (habc' : Overlays a bc abc') :
    abc.keys = abc'.keys := by
  rw [habc.keys_eq, habc'.keys_eq, hab.keys_eq, hbc.keys_eq, List.filter_append,
    List.filter_filter, List.append_assoc]
  congr 2
  apply List.filter_congr
  intro k _
  by_cases ha : k ∈ a.keys <;> by_cases hb : k ∈ b.keys <;> simp [ha, hb]

/-- Merging three layers in either grouping gives the same, by induction on how the maps of the
uppermost one are nested. -/
lemma mergeEntries_assoc (hc : c.IsLayer) {a b ab bc abc abc' : Settings} (ha : a.IsLayer)
    (hb : b.IsLayer) (hshape : [a, b, c].Pairwise AgreeInShape)
    (hab : mergeEntries a b = .ok ab) (hbc : mergeEntries b c = .ok bc)
    (habc : mergeEntries ab c = .ok abc) (habc' : mergeEntries a bc = .ok abc') : abc = abc' := by
  induction hc generalizing a b ab bc abc abc' with
  | @intro c texts nodup finite patterns layers ih =>
    have hc : c.IsLayer := .intro texts nodup finite patterns layers
    obtain ⟨⟨hshape_ab, hshape_ac⟩, hshape_bc⟩ :
        (AgreeInShape a b ∧ AgreeInShape a c) ∧ AgreeInShape b c := by
      simpa using hshape
    have hoverlays_ab := overlays_of_mergeEntries ha hb hab
    have hoverlays_bc := overlays_of_mergeEntries hb hc hbc
    have hoverlays := overlays_of_mergeEntries hoverlays_ab.isLayer hc habc
    have hoverlays' := overlays_of_mergeEntries ha hoverlays_bc.isLayer habc'
    obtain ⟨htexts, hnodup, -⟩ := isLayer_iff.1 hoverlays.isLayer
    apply ext_of_keys htexts hnodup
    · exact hoverlays_ab.keys_assoc hoverlays_bc hoverlays hoverlays'
    · intro name
      apply (hoverlays_ab.lays name).assoc (hoverlays_bc.lays name) (hoverlays.lays name)
        (hoverlays'.lays name)
      · intro u v hu hv
        exact hshape_ab.shape_eq hu hv
      · intro u v hu hv
        exact hshape_bc.shape_eq hu hv
      · intro a' b' c' ha' hb' hc' ab' bc' abc₁ abc₂ hab' hbc' h₁ h₂
        have hshape' : [a', b', c'].Pairwise AgreeInShape := by
          simpa using ⟨⟨hshape_ab.below ha' hb', hshape_ac.below ha' hc'⟩,
            hshape_bc.below hb' hc'⟩
        exact ih name c' hc' ((ha.fits ha').layers a' rfl) ((hb.fits hb').layers b' rfl) hshape'
          hab' hbc' h₁ h₂

/-- Three layers of one shape can be merged in either grouping, and both give the same settings,
the order of the keys included. -/
theorem merge_grouping (ha : a.IsLayer) (hb : b.IsLayer) (hc : c.IsLayer)
    (hshape : [a, b, c].Pairwise AgreeInShape) :
    ∃ ab bc abc, merge a (.map b) = .ok ab ∧ merge b (.map c) = .ok bc ∧
      merge ab (.map c) = .ok abc ∧ merge a (.map bc) = .ok abc := by
  obtain ⟨ab, hab, hoverlays_ab⟩ := exists_overlays ha hb
  obtain ⟨bc, hbc, hoverlays_bc⟩ := exists_overlays hb hc
  obtain ⟨abc, habc, -⟩ := exists_overlays hoverlays_ab.isLayer hc
  obtain ⟨abc', habc', -⟩ := exists_overlays ha hoverlays_bc.isLayer
  refine ⟨ab, bc, abc, hab, hbc, habc, ?_⟩
  rw [mergeEntries_assoc hc ha hb hshape hab hbc habc habc']
  exact habc'

/-- What a lowest layer says on the output. -/
def baseOutput : Settings :=
  [(.text "format", .text "json")]

/-- What a layer over it says, with a list where the lower one has nothing. -/
def teamOutput : Settings :=
  [(.text "indent", .int 2), (.text "exclude", .list [.text "x/"])]

/-- What an uppermost layer says, with something over each of the others. -/
def userOutput : Settings :=
  [(.text "exclude", .list [.text "w/"]), (.text "format", .text "csv")]

/-- A lowest layer. -/
def baseLayer : Settings :=
  [(.text "exclude", .list [.text "b/", .text "a/"]), (.text "output", .map baseOutput)]

/-- A layer between. -/
def teamLayer : Settings :=
  [(.text "output", .map teamOutput)]

/-- An uppermost layer. -/
def userLayer : Settings :=
  [(.text "warnings", .bool false), (.text "output", .map userOutput),
   (.text "exclude", .list [.text "c/", .text "a/"])]

/-- The two lower layers together. -/
def lowerLayers : Settings :=
  [(.text "exclude", .list [.text "b/", .text "a/"]),
   (.text "output", .map [(.text "format", .text "json"), (.text "indent", .int 2),
     (.text "exclude", .list [.text "x/"])])]

/-- The two upper layers together. -/
def upperLayers : Settings :=
  [(.text "output", .map [(.text "indent", .int 2),
     (.text "exclude", .list [.text "w/", .text "x/"]), (.text "format", .text "csv")]),
   (.text "warnings", .bool false), (.text "exclude", .list [.text "c/", .text "a/"])]

/-- All three layers together. -/
def allLayers : Settings :=
  [(.text "exclude", .list [.text "a/", .text "b/", .text "c/"]),
   (.text "output", .map [(.text "format", .text "csv"), (.text "indent", .int 2),
     (.text "exclude", .list [.text "w/", .text "x/"])]),
   (.text "warnings", .bool false)]

lemma isLayer_baseLayer : baseLayer.IsLayer := by
  simp [baseLayer, baseOutput, get?_cons]

lemma isLayer_teamLayer : teamLayer.IsLayer := by
  simp [teamLayer, teamOutput, get?_cons]

lemma isLayer_userLayer : userLayer.IsLayer := by
  simp [userLayer, userOutput, get?_cons]

lemma pairwise_agreeInShape_userLayer :
    [baseLayer, teamLayer, userLayer].Pairwise AgreeInShape := by
  have hbelow : AgreeInShape baseOutput teamOutput :=
    agreeInShape_of_mem (by simp [baseOutput, teamOutput])
  have hbase : AgreeInShape baseLayer teamLayer :=
    agreeInShape_of_mem (by simp [baseLayer, teamLayer, Setting.shape, hbelow])
  have hbelow : AgreeInShape baseOutput userOutput :=
    agreeInShape_of_mem (by simp [baseOutput, userOutput, Setting.shape])
  have hbase' : AgreeInShape baseLayer userLayer :=
    agreeInShape_of_mem (by simp [baseLayer, userLayer, Setting.shape, hbelow])
  have hbelow : AgreeInShape teamOutput userOutput :=
    agreeInShape_of_mem (by simp [teamOutput, userOutput, Setting.shape])
  have hteam : AgreeInShape teamLayer userLayer :=
    agreeInShape_of_mem (by simp [teamLayer, userLayer, Setting.shape, hbelow])
  simp [hbase, hbase', hteam]

theorem merge_grouping_userLayer :
    (baseLayer.IsLayer ∧ teamLayer.IsLayer ∧ userLayer.IsLayer) ∧
    [baseLayer, teamLayer, userLayer].Pairwise AgreeInShape ∧
    merge baseLayer (.map teamLayer) = .ok lowerLayers ∧
    merge teamLayer (.map userLayer) = .ok upperLayers ∧
    merge lowerLayers (.map userLayer) = .ok allLayers ∧
    merge baseLayer (.map upperLayers) = .ok allLayers := by
  refine ⟨⟨isLayer_baseLayer, isLayer_teamLayer, isLayer_userLayer⟩,
    pairwise_agreeInShape_userLayer, ?_⟩
  have hlower : merge baseLayer (.map teamLayer) = .ok lowerLayers := by cbv
  have hupper : merge teamLayer (.map userLayer) = .ok upperLayers := by cbv
  have hall : merge lowerLayers (.map userLayer) = .ok allLayers := by cbv
  -- The other grouping is not run: it gives the same by the theorem.
  obtain ⟨ab, bc, abc, hab, hbc, habc, habc'⟩ := merge_grouping isLayer_baseLayer
    isLayer_teamLayer isLayer_userLayer pairwise_agreeInShape_userLayer
  obtain rfl : ab = lowerLayers := Except.ok.inj (hab.symm.trans hlower)
  obtain rfl : bc = upperLayers := Except.ok.inj (hbc.symm.trans hupper)
  obtain rfl : abc = allLayers := Except.ok.inj (habc.symm.trans hall)
  exact ⟨hab, hbc, habc, habc'⟩

end Settings

end Stylebook
