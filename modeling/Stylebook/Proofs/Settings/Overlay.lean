import Mathlib
import Stylebook.Proofs.Setting.Texts
import Stylebook.Settings.Merge

/-!
# Layers of settings

Settings that are nested maps with texts as keys are layers, and a layer can be laid over another.
What stands under a path of keys afterwards is told by what stands there in the two layers: the upper
one counts, maps are merged, and lists under `exclude` add up.
-/

namespace Stylebook

/-- What stands in a setting under some keys, one below the other. -/
def Setting.at? : Setting → List String → Option Setting
  | v, [] => some v
  | .map entries, name :: names =>
    match Settings.get? entries name with
    | none => none
    | some v => v.at? names
  | _, _ :: _ => none

lemma Setting.at?_nil (v : Setting) : v.at? [] = some v := by
  cases v <;> rfl

lemma Setting.at?_map_cons (s : Settings) (name : String) (names : List String) :
    (Setting.map s).at? (name :: names) = (s.get? name).bind fun v => v.at? names := by
  rw [at?]
  cases s.get? name <;> rfl

/-- Nothing stands below a value that has no entries. -/
lemma Setting.bind_at?_eq_none {b : Option Setting} {names : List String}
    (h : ∀ es, b ≠ some (.map es)) (hnames : names ≠ []) :
    (b.bind fun v => v.at? names) = none := by
  obtain ⟨name, names, rfl⟩ := List.exists_cons_of_ne_nil hnames
  cases b with
  | none => rfl
  | some v =>
    cases v with
    | map es => exact absurd rfl (h es)
    | _ => rfl

namespace Settings

variable {base update merged : Settings} {name : String} {names : List String}

/-! ### Layers -/

/-- A layer: the keys are texts, at each level of maps, and none stands twice; no map is a part of
itself; and lists under `exclude` hold nothing but texts. -/
inductive IsLayer : Settings → Prop
  | intro {s : Settings} (texts : ∀ k ∈ s.keys, ∃ name, k = .text name) (nodup : s.keys.Nodup)
      (finite : ∀ name isMap, s.get? name ≠ some (.cycle isMap))
      (patterns : ∀ items, s.get? "exclude" = some (.list items) → ∀ v ∈ items, ∃ p, v = .text p)
      (layers : ∀ name es, s.get? name = some (.map es) → IsLayer es) : IsLayer s

/-- A value that a layer may have under a name. -/
structure Fits (name : String) (v : Setting) : Prop where
  finite : ∀ isMap, v ≠ .cycle isMap
  patterns : name = "exclude" → ∀ items, v = .list items → ∀ w ∈ items, ∃ p, w = .text p
  layers : ∀ es, v = .map es → IsLayer es

@[simp] lemma fits_atom (name : String) (a : Atom) : Fits name (.atom a) :=
  ⟨by simp, by simp, by simp⟩

@[simp] lemma fits_list_iff {items : List Setting} :
    Fits name (.list items) ↔ (name = "exclude" → ∀ v ∈ items, ∃ p, v = .text p) := by
  constructor
  · intro h hname
    exact h.patterns hname items rfl
  · intro h
    refine ⟨by simp, ?_, by simp⟩
    rintro hname _ ⟨⟩
    exact h hname

@[simp] lemma fits_map_iff {es : Settings} : Fits name (.map es) ↔ es.IsLayer := by
  constructor
  · intro h
    exact h.layers es rfl
  · intro h
    refine ⟨by simp, by simp, ?_⟩
    rintro _ ⟨⟩
    exact h

lemma isLayer_iff {s : Settings} :
    s.IsLayer ↔ (∀ k ∈ s.keys, ∃ name, k = .text name) ∧ s.keys.Nodup ∧
      ∀ name v, s.get? name = some v → Fits name v := by
  constructor
  · rintro ⟨texts, nodup, finite, patterns, layers⟩
    refine ⟨texts, nodup, ?_⟩
    intro name v hget
    refine ⟨?_, ?_, ?_⟩
    · rintro isMap rfl
      exact finite name isMap hget
    · rintro rfl items rfl
      exact patterns items hget
    · rintro es rfl
      exact layers name es hget
  · rintro ⟨texts, nodup, fits⟩
    refine .intro texts nodup ?_ ?_ ?_
    · intro name isMap hget
      exact (fits name _ hget).finite isMap rfl
    · intro items hget
      exact (fits _ _ hget).patterns rfl items rfl
    · intro name es hget
      exact (fits name _ hget).layers es rfl

lemma IsLayer.fits {s : Settings} {v : Setting} (h : s.IsLayer) (hget : s.get? name = some v) :
    Fits name v :=
  (isLayer_iff.1 h).2.2 name v hget

lemma IsLayer.put {s : Settings} {v : Setting} (h : s.IsLayer) (hv : Fits name v) :
    (s.put (.text name) v).IsLayer := by
  obtain ⟨htexts, hnodup, hfits⟩ := isLayer_iff.1 h
  rw [isLayer_iff, keys_put]
  refine ⟨?_, ?_, ?_⟩
  · intro k hk
    split at hk
    · exact htexts k hk
    · rcases List.mem_append.1 hk with hk | hk
      · exact htexts k hk
      · exact ⟨name, List.mem_singleton.1 hk⟩
  · split
    · exact hnodup
    next hname =>
      rw [List.nodup_append_comm]
      exact List.nodup_cons.2 ⟨hname, hnodup⟩
  · intro other w hget
    rw [get?_put] at hget
    split at hget
    next hother =>
      cases hget
      rwa [hother]
    next => exact hfits other w hget

@[simp] lemma isLayer_nil : IsLayer [] := by
  rw [isLayer_iff]
  exact ⟨by simp [keys], List.nodup_nil, by simp⟩

/-- What stands in the rest of entries stands also in all of them, if their keys differ. -/
lemma get?_cons_of_get? {s : Settings} {v w : Setting} {other : String}
    (hname : s.get? name = none) (hget : s.get? other = some w) :
    get? ((.text name, v) :: s) other = some w := by
  have hne : name ≠ other := by
    rintro rfl
    rw [hname] at hget
    cases hget
  rw [get?_cons, if_neg (by simpa using hne), hget]

@[simp] lemma isLayer_cons_iff {k : Atom} {v : Setting} {s : Settings} :
    IsLayer ((k, v) :: s) ↔
      ∃ name, k = .text name ∧ s.get? name = none ∧ Fits name v ∧ s.IsLayer := by
  rw [isLayer_iff, isLayer_iff]
  have hkeys : keys ((k, v) :: s) = k :: s.keys := rfl
  rw [hkeys, List.forall_mem_cons, List.nodup_cons]
  constructor
  · rintro ⟨⟨⟨name, rfl⟩, htexts⟩, ⟨hname, hnodup⟩, hfits⟩
    have hnone := get?_eq_none_iff.2 hname
    refine ⟨name, rfl, hnone, hfits name v (by simp [get?_cons]), htexts, hnodup, ?_⟩
    intro other w hget
    exact hfits other w (get?_cons_of_get? hnone hget)
  · rintro ⟨name, rfl, hname, hv, htexts, hnodup, hfits⟩
    refine ⟨⟨⟨name, rfl⟩, htexts⟩, ⟨get?_eq_none_iff.1 hname, hnodup⟩, ?_⟩
    intro other w hget
    rw [get?_cons] at hget
    split at hget
    next heq =>
      cases heq
      cases hget
      exact hv
    next => exact hfits other w hget

/-! ### One value over another -/

/-- What comes of a value under a name when another is laid over it, or when only one of them is
there. -/
inductive Lays (name : String) : Option Setting → Option Setting → Option Setting → Prop
  | below (b : Option Setting) : Lays name b none b
  | maps {old new merged : Settings} (h : mergeEntries old new = .ok merged) :
      Lays name (some (.map old)) (some (.map new)) (some (.map merged))
  | lists {old new : List Setting} {us : List String} (hname : name = "exclude")
      (h : Setting.IsUnion old new us) :
      Lays name (some (.list old)) (some (.list new)) (some (.list (us.map .text)))
  | above {b : Option Setting} {v : Setting}
      (hmaps : ∀ old new, b = some (.map old) → v ≠ .map new)
      (hlists : name = "exclude" → ∀ old new, b = some (.list old) → v ≠ .list new) :
      Lays name b (some v) (some v)

lemma Lays.eq_below {b m : Option Setting} (h : Lays name b none m) : m = b := by
  cases h
  rfl

lemma Lays.of_none (u : Option Setting) : Lays name none u u := by
  cases u with
  | none => exact .below none
  | some v => exact .above (by simp) (by simp)

lemma Lays.eq_above {b m : Option Setting} {v : Setting} (h : Lays name b (some v) m)
    (hmaps : ∀ old new, b = some (.map old) → v ≠ .map new)
    (hlists : name = "exclude" → ∀ old new, b = some (.list old) → v ≠ .list new) :
    m = some v := by
  cases h with
  | maps => exact absurd rfl (hmaps _ _ rfl)
  | lists hname => exact absurd rfl (hlists hname _ _ rfl)
  | above => rfl

lemma Lays.exists_map {b m : Option Setting} {new : Settings}
    (h : Lays name b (some (.map new)) m) : ∃ merged, m = some (.map merged) := by
  cases h with
  | @maps _ _ merged => exact ⟨merged, rfl⟩
  | above => exact ⟨new, rfl⟩

lemma Lays.exists_of_maps {m : Option Setting} {old new : Settings}
    (h : Lays name (some (.map old)) (some (.map new)) m) :
    ∃ merged, m = some (.map merged) ∧ mergeEntries old new = .ok merged := by
  cases h with
  | @maps _ _ merged hmerged => exact ⟨merged, rfl, hmerged⟩
  | above hmaps => exact absurd rfl (hmaps old new rfl)

lemma Lays.exists_of_lists {m : Option Setting} {old new : List Setting}
    (h : Lays "exclude" (some (.list old)) (some (.list new)) m) :
    ∃ us : List String, m = some (.list (us.map .text)) ∧ Setting.IsUnion old new us := by
  cases h with
  | @lists _ _ us _ hunion => exact ⟨us, rfl, hunion⟩
  | above _ hlists => exact absurd rfl (hlists rfl old new rfl)

lemma mergeValue_eq_self {b : Option Setting} {v : Setting}
    (hmaps : ∀ old new, b = some (.map old) → v ≠ .map new)
    (hlists : name = "exclude" → ∀ old new, b = some (.list old) → v ≠ .list new) :
    mergeValue (.text name) b v = .ok v := by
  cases v with
  | map new =>
    rw [mergeValue]
    intro old hold
    exact hmaps old new hold rfl
  | list new =>
    by_cases hb : ∃ old, b = some (.list old)
    · obtain ⟨old, rfl⟩ := hb
      rw [mergeValue, if_neg]
      intro hname
      exact hlists (Atom.text.inj hname) old new rfl rfl
    · rw [mergeValue]
      intro old hold
      exact hb ⟨old, hold⟩
  | _ => rw [mergeValue] <;> simp

/-- A value that a layer may have can be laid over another one, if this holds of maps. -/
lemma exists_mergeValue {b : Option Setting} {v : Setting} (hb : ∀ w, b = some w → Fits name w)
    (hv : Fits name v)
    (hmaps : ∀ new, v = .map new → ∀ old, IsLayer old →
      ∃ merged, mergeEntries old new = .ok merged ∧ merged.IsLayer) :
    ∃ w, mergeValue (.text name) b v = .ok w ∧ Fits name w ∧ Lays name b (some v) (some w) := by
  by_cases hboth : ∃ old new, b = some (.map old) ∧ v = .map new
  · obtain ⟨old, new, rfl, rfl⟩ := hboth
    obtain ⟨merged, hmerged, hlayer⟩ := hmaps new rfl old ((hb _ rfl).layers old rfl)
    refine ⟨.map merged, ?_, fits_map_iff.2 hlayer, .maps hmerged⟩
    rw [mergeValue, hmerged]
    rfl
  · by_cases hunited : name = "exclude" ∧ ∃ old new, b = some (.list old) ∧ v = .list new
    · obtain ⟨rfl, old, new, rfl, rfl⟩ := hunited
      obtain ⟨us, hus, hunion⟩ := Setting.exists_unite ((hb _ rfl).patterns rfl old rfl)
        (hv.patterns rfl new rfl)
      refine ⟨.list (us.map .text), ?_, by simp, .lists rfl hunion⟩
      rw [mergeValue]
      simp [additiveKey, hus, Except.map]
    · have hmaps' : ∀ old new, b = some (.map old) → v ≠ .map new := by
        rintro old new rfl rfl
        exact hboth ⟨old, new, rfl, rfl⟩
      have hlists' : name = "exclude" → ∀ old new, b = some (.list old) → v ≠ .list new := by
        rintro hname old new rfl rfl
        exact hunited ⟨hname, old, new, rfl, rfl⟩
      exact ⟨v, mergeValue_eq_self hmaps' hlists', hv, .above hmaps' hlists'⟩

/-! ### One layer over another -/

/-- What a layer is that comes of laying a layer over another: the keys of the lower layer come
first, then those that only the upper one has, and under each name one value is laid over the
other. -/
structure Overlays (base update merged : Settings) : Prop where
  isLayer : merged.IsLayer
  keys_eq : merged.keys = base.keys ++ update.keys.filter (· ∉ base.keys)
  lays : ∀ name, Lays name (base.get? name) (update.get? name) (merged.get? name)

lemma Overlays.refl (h : base.IsLayer) : Overlays base [] base where
  isLayer := h
  keys_eq := by simp [keys]
  lays := fun name => .below (base.get? name)

/-- The first entry of the upper layer is laid over the lower one, and then the rest. -/
lemma Overlays.cons {v w : Setting} (hname : update.get? name = none)
    (hv : Lays name (base.get? name) (some v) (some w))
    (h : Overlays (base.put (.text name) w) update merged) :
    Overlays base ((.text name, v) :: update) merged where
  isLayer := h.isLayer
  keys_eq := by
    have hkeys : (keys ((.text name, v) :: update)) = .text name :: update.keys := rfl
    rw [h.keys_eq, keys_put, hkeys, List.filter_cons]
    by_cases hmem : .text name ∈ base.keys
    · simp [hmem]
    · have hne : ∀ k ∈ update.keys, k ≠ .text name := by
        rintro k hk rfl
        exact get?_eq_none_iff.1 hname hk
      simp only [hmem, if_false, not_false_eq_true, decide_true, if_true, List.append_assoc,
        List.singleton_append, List.mem_append, List.mem_singleton, not_or]
      congr 2
      apply List.filter_congr
      intro k hk
      simp [hne k hk]
  lays := by
    intro other
    have hother := h.lays other
    rw [get?_put] at hother
    rw [get?_cons]
    by_cases heq : other = name
    · subst heq
      rw [if_pos rfl, hname] at hother
      rw [if_pos rfl, hother.eq_below]
      exact hv
    · rw [if_neg heq] at hother
      rwa [if_neg (by simpa using Ne.symm heq)]

/-- The entries of a layer can be laid over a layer one by one, if this holds of the maps in it. -/
lemma exists_overlays_of_maps (hupdate : update.IsLayer)
    (hmaps : ∀ name new, update.get? name = some (.map new) → ∀ old, IsLayer old →
      ∃ merged, mergeEntries old new = .ok merged ∧ Overlays old new merged)
    (hbase : base.IsLayer) :
    ∃ merged, mergeEntries base update = .ok merged ∧ Overlays base update merged := by
  induction update generalizing base with
  | nil => exact ⟨base, by rw [mergeEntries], .refl hbase⟩
  | cons entry update ih =>
    obtain ⟨k, v⟩ := entry
    obtain ⟨name, rfl, hnone, hv, hrest⟩ := isLayer_cons_iff.1 hupdate
    have hfirst : get? ((.text name, v) :: update) name = some v := by
      simp [get?_cons]
    obtain ⟨w, hw, hfits, hlays⟩ := exists_mergeValue (fun w hw => hbase.fits hw) hv
      (fun new hnew old hold => by
        subst hnew
        obtain ⟨merged, hmerged, hoverlays⟩ := hmaps name new hfirst old hold
        exact ⟨merged, hmerged, hoverlays.isLayer⟩)
    obtain ⟨merged, hmerged, hoverlays⟩ := ih hrest
      (fun other new hnew => hmaps other new (get?_cons_of_get? hnone hnew)) (hbase.put hfits)
    refine ⟨merged, ?_, hoverlays.cons hnone hlays⟩
    rw [mergeEntries]
    rw [get?] at hw
    simp only [hw, hmerged]

/-- A layer can be laid over every layer, by induction on how its maps are nested. -/
lemma exists_overlays (hbase : base.IsLayer) (hupdate : update.IsLayer) :
    ∃ merged, mergeEntries base update = .ok merged ∧ Overlays base update merged := by
  induction hupdate generalizing base with
  | intro texts nodup finite patterns layers ih =>
    apply exists_overlays_of_maps (.intro texts nodup finite patterns layers) _ hbase
    intro name new hnew old hold
    exact ih name new hnew hold

lemma overlays_of_mergeEntries (hbase : base.IsLayer) (hupdate : update.IsLayer)
    (h : mergeEntries base update = .ok merged) : Overlays base update merged := by
  obtain ⟨merged', hmerged', hoverlays⟩ := exists_overlays hbase hupdate
  rw [h] at hmerged'
  cases hmerged'
  exact hoverlays

/-! ### Paths -/

/-- A path leads in a layer through a value that has no entries. -/
def IsBlocked (s : Settings) (names : List String) : Prop :=
  ∃ above below v, names = above ++ below ∧ below ≠ [] ∧ (Setting.map s).at? above = some v ∧
    ∀ es, v ≠ .map es

lemma IsBlocked.cons {s es : Settings} (h : IsBlocked es names)
    (hname : s.get? name = some (.map es)) : IsBlocked s (name :: names) := by
  obtain ⟨above, below, v, rfl, hbelow, habove, hv⟩ := h
  refine ⟨name :: above, below, v, rfl, hbelow, ?_, hv⟩
  rw [Setting.at?_map_cons, hname]
  exact habove

/-- Under a path, too, one value is laid over the other, unless the path is blocked in the upper
layer. The induction is on the path; under each name the layers are compared by `Overlays`. -/
lemma lays_at? {last : String} (hlast : names.getLast? = some last) (hbase : base.IsLayer)
    (hupdate : update.IsLayer) (h : mergeEntries base update = .ok merged) :
    Lays last ((Setting.map base).at? names) ((Setting.map update).at? names)
        ((Setting.map merged).at? names) ∨
      (IsBlocked update names ∧ (Setting.map update).at? names = none) := by
  obtain ⟨names, rfl⟩ := List.getLast?_eq_some_iff.1 hlast
  clear hlast
  have hoverlays := overlays_of_mergeEntries hbase hupdate h
  induction names generalizing base update merged with
  | nil =>
    have hlast := hoverlays.lays last
    left
    simpa [Setting.at?_map_cons, Setting.at?_nil] using hlast
  | cons name names ih =>
    have hrest : names ++ [last] ≠ [] := by simp
    have hname := hoverlays.lays name
    rw [List.cons_append, Setting.at?_map_cons, Setting.at?_map_cons, Setting.at?_map_cons]
    generalize hb : base.get? name = b at hname
    generalize hu : update.get? name = u at hname
    generalize hm : merged.get? name = m at hname
    cases hname with
    | below => exact .inl (.below _)
    | @maps old new _ hmerged =>
      have hold := (hbase.fits hb).layers old rfl
      have hnew := (hupdate.fits hu).layers new rfl
      rcases ih hold hnew hmerged (overlays_of_mergeEntries hold hnew hmerged) with hlays | hblocked
      · exact .inl hlays
      · exact .inr ⟨hblocked.1.cons hu, hblocked.2⟩
    | lists =>
      left
      rw [Setting.bind_at?_eq_none (by simp) hrest, Setting.bind_at?_eq_none (by simp) hrest,
        Setting.bind_at?_eq_none (by simp) hrest]
      exact .below none
    | @above _ v hmaps hlists =>
      by_cases hv : ∃ es, v = .map es
      · obtain ⟨es, rfl⟩ := hv
        left
        rw [Setting.bind_at?_eq_none (fun old hold => hmaps old es hold rfl) hrest]
        exact .of_none _
      · have hnone : ∀ es, v ≠ .map es := fun es hes => hv ⟨es, hes⟩
        refine .inr ⟨⟨[name], names ++ [last], v, rfl, hrest, ?_, hnone⟩, ?_⟩
        · rw [Setting.at?_map_cons, hu, Option.bind_some, Setting.at?_nil]
        · exact Setting.bind_at?_eq_none (by simpa using hnone) hrest

/-- A layer over another, told by what stands under each path of keys. -/
structure IsOverlay (base update merged : Settings) : Prop where
  /-- A value of the upper layer that is no map takes the place of what was there, unless both are
  lists under `exclude`. -/
  replaced : ∀ names v, (Setting.map update).at? names = some v → (∀ es, v ≠ .map es) →
    ¬ (names.getLast? = some "exclude" ∧ (∃ new, v = .list new) ∧
      ∃ old, (Setting.map base).at? names = some (.list old)) →
    (Setting.map merged).at? names = some v
  /-- Two lists under `exclude` give the increasing list of the texts in either. -/
  united : ∀ names old new, names.getLast? = some "exclude" →
    (Setting.map base).at? names = some (.list old) →
    (Setting.map update).at? names = some (.list new) →
    ∃ ss : List String, (Setting.map merged).at? names = some (.list (ss.map .text)) ∧
      ss.Pairwise (· < ·) ∧ ∀ s, s ∈ ss ↔ .text s ∈ old ∨ .text s ∈ new
  /-- Where the upper layer has nothing, the lower one counts, unless the path leads in the upper
  layer through a value that is no map. -/
  kept : ∀ names, (Setting.map update).at? names = none → ¬ IsBlocked update names →
    (Setting.map merged).at? names = (Setting.map base).at? names
  /-- A map of the upper layer is laid over what was there, as a map. -/
  deepened : ∀ names es, (Setting.map update).at? names = some (.map es) →
    ∃ es', (Setting.map merged).at? names = some (.map es')

lemma eq_map_of_getLast?_eq_none {s : Settings} {v : Setting} (h : names.getLast? = none)
    (hv : (Setting.map s).at? names = some v) : v = .map s := by
  rw [List.getLast?_eq_none_iff.1 h, Setting.at?_nil] at hv
  exact (Option.some.inj hv).symm

/-- What merging gives is the overlay, part by part from `lays_at?`. -/
lemma isOverlay_of_mergeEntries (hbase : base.IsLayer) (hupdate : update.IsLayer)
    (h : mergeEntries base update = .ok merged) : IsOverlay base update merged where
  replaced := by
    intro names v hv hmap hlists
    cases hlast : names.getLast? with
    | none => exact absurd (eq_map_of_getLast?_eq_none hlast hv) (hmap update)
    | some last =>
      rcases lays_at? hlast hbase hupdate h with hlays | ⟨-, hnone⟩
      · rw [hv] at hlays
        apply hlays.eq_above
        · intro old new _
          exact hmap new
        · rintro rfl old new hold rfl
          exact hlists ⟨hlast, ⟨new, rfl⟩, old, hold⟩
      · rw [hnone] at hv
        cases hv
  united := by
    intro names old new hlast hold hnew
    rcases lays_at? hlast hbase hupdate h with hlays | ⟨-, hnone⟩
    · rw [hold, hnew] at hlays
      obtain ⟨us, hmerged, hunion⟩ := hlays.exists_of_lists
      exact ⟨us, hmerged, hunion.increasing, hunion.mem_iff⟩
    · rw [hnone] at hnew
      cases hnew
  kept := by
    intro names hnone hopen
    cases hlast : names.getLast? with
    | none =>
      rw [List.getLast?_eq_none_iff.1 hlast, Setting.at?_nil] at hnone
      cases hnone
    | some last =>
      rcases lays_at? hlast hbase hupdate h with hlays | ⟨hblocked, -⟩
      · rw [hnone] at hlays
        exact hlays.eq_below
      · exact absurd hblocked hopen
  deepened := by
    intro names es hes
    cases hlast : names.getLast? with
    | none =>
      rw [List.getLast?_eq_none_iff.1 hlast, Setting.at?_nil]
      exact ⟨merged, rfl⟩
    | some last =>
      rcases lays_at? hlast hbase hupdate h with hlays | ⟨-, hnone⟩
      · rw [hes] at hlays
        exact hlays.exists_map
      · rw [hnone] at hes
        cases hes

/-- A layer can be laid over every layer, and what comes of it is a layer again: the overlay of the
two, under every path of keys. -/
theorem merge_isOverlay (hbase : base.IsLayer) (hupdate : update.IsLayer) :
    ∃ merged, merge base (.map update) = .ok merged ∧ merged.IsLayer ∧
      IsOverlay base update merged := by
  obtain ⟨merged, hmerged, hoverlays⟩ := exists_overlays hbase hupdate
  exact ⟨merged, hmerged, hoverlays.isLayer, isOverlay_of_mergeEntries hbase hupdate hmerged⟩

/-- A lower layer with lists and maps. -/
def plainLayer : Settings :=
  [(.text "exclude", .list [.text "b/", .text "a/"]),
   (.text "output", .map [(.text "format", .text "json"), (.text "exclude", .list [])]),
   (.text "checks", .map [(.text "links", .bool true)])]

/-- An upper layer with a map over a map, a list over a list and a truth value over a map. -/
def tunedLayer : Settings :=
  [(.text "checks", .bool false),
   (.text "exclude", .list [.text "c/", .text "a/"]),
   (.text "output", .map [(.text "exclude", .list [.text "x/"]), (.text "indent", .int 4)])]

/-- The second of these layers over the first. -/
def layeredSettings : Settings :=
  [(.text "exclude", .list [.text "a/", .text "b/", .text "c/"]),
   (.text "output", .map [(.text "format", .text "json"), (.text "exclude", .list [.text "x/"]),
     (.text "indent", .int 4)]),
   (.text "checks", .bool false)]

lemma isLayer_plainLayer : plainLayer.IsLayer := by
  simp [plainLayer, get?_cons]

lemma isLayer_tunedLayer : tunedLayer.IsLayer := by
  simp [tunedLayer, get?_cons]

theorem merge_isOverlay_tunedLayer :
    (plainLayer.IsLayer ∧ tunedLayer.IsLayer) ∧
      merge plainLayer (.map tunedLayer) = .ok layeredSettings ∧ layeredSettings.IsLayer ∧
      IsOverlay plainLayer tunedLayer layeredSettings := by
  refine ⟨⟨isLayer_plainLayer, isLayer_tunedLayer⟩, ?_⟩
  have hlayered : merge plainLayer (.map tunedLayer) = .ok layeredSettings := by cbv
  obtain ⟨merged, hmerged, hlayer, hoverlay⟩ :=
    merge_isOverlay isLayer_plainLayer isLayer_tunedLayer
  obtain rfl : merged = layeredSettings := Except.ok.inj (hmerged.symm.trans hlayered)
  exact ⟨hmerged, hlayer, hoverlay⟩

end Settings

end Stylebook
