import Mathlib
import Stylebook.Proofs.Json.Reading
import Stylebook.Proofs.Json.Writing
import Stylebook.Proofs.Setting.Texts
import Stylebook.Setting.Record

/-!
# Canonical texts

The canonical text of a setting tells it from all others but those that differ from it in nothing
but the order of keys. One half is that keys are sorted at every level, the other that a text can be
read back. Only settings with a whole number of too many digits have no text.
-/

namespace Stylebook

open Json (IsPlain)

/-- A text in a given layout is the text of one value only. -/
lemma Json.text_eq_iff {layout : Layout} (hlayout : layout.IsBlank) {x y : Value} (hx : IsPlain x)
    (hy : IsPlain y) : text layout x = text layout y ↔ x = y := by
  constructor
  · intro h
    have hwrites := writes_text hlayout hx
    rw [h] at hwrites
    exact hwrites.unique (writes_text hlayout hy)
  · rintro rfl
    rfl

/-! ### Settings that JSON can write -/

/-- The values without parts that JSON has a form for, but for floating-point numbers. -/
def Atom.IsJson : Atom → Prop
  | .null => True
  | .bool _ => True
  | .int _ => True
  | .text _ => True
  | _ => False

namespace Setting

/-- The settings that are built from such values by lists and by maps under different texts. -/
inductive IsJson : Setting → Prop
  | atom {a : Atom} (h : a.IsJson) : IsJson (.atom a)
  | list {vs : List Setting} (h : ∀ v ∈ vs, IsJson v) : IsJson (.list vs)
  | map {es : Settings} (texts : ∀ k ∈ es.keys, ∃ name, k = .text name) (nodup : es.keys.Nodup)
      (h : ∀ e ∈ es, IsJson e.2) : IsJson (.map es)

/-- The settings that hold a whole number of more than 4300 digits, at any depth. -/
inductive HoldsLong : Setting → Prop
  | int {i : Int} (h : 10 ^ 4300 ≤ i.natAbs) : HoldsLong (.int i)
  | list {vs : List Setting} {v : Setting} (hmem : v ∈ vs) (h : HoldsLong v) : HoldsLong (.list vs)
  | map {es : Settings} {e : Atom × Setting} (hmem : e ∈ es) (h : HoldsLong e.2) :
      HoldsLong (.map es)

/-- Two settings are equal but for the order of keys, at every level of maps. Values of different
types are different, also if they count as the same number. -/
inductive Alike : Setting → Setting → Prop
  | atom (a : Atom) : Alike (.atom a) (.atom a)
  | list {vs ws : List Setting} (h : List.Forall₂ Alike vs ws) : Alike (.list vs) (.list ws)
  | map {es fs : Settings} (hkeys : es.keys.Perm fs.keys)
      (h : ∀ name v w, es.get? name = some v → fs.get? name = some w → Alike v w) :
      Alike (.map es) (.map fs)

@[simp] lemma isJson_atom_iff {a : Atom} : IsJson (.atom a) ↔ a.IsJson := by
  constructor
  · intro h
    cases h with
    | atom h => exact h
  · exact .atom

@[simp] lemma isJson_list_iff {vs : List Setting} : IsJson (.list vs) ↔ ∀ v ∈ vs, IsJson v := by
  constructor
  · intro h
    cases h with
    | list h => exact h
  · exact .list

@[simp] lemma isJson_map_iff {es : Settings} : IsJson (.map es) ↔
    (∀ k ∈ es.keys, ∃ name, k = .text name) ∧ es.keys.Nodup ∧ ∀ e ∈ es, IsJson e.2 := by
  constructor
  · intro h
    cases h with
    | map texts nodup h => exact ⟨texts, nodup, h⟩
  · rintro ⟨texts, nodup, h⟩
    exact .map texts nodup h

lemma not_holdsLong_atom {a : Atom} (h : ∀ i, a ≠ .int i) : ¬ HoldsLong (.atom a) := by
  intro hlong
  cases hlong with
  | int => exact h _ rfl

@[simp] lemma holdsLong_list_iff {vs : List Setting} :
    HoldsLong (.list vs) ↔ ∃ v ∈ vs, HoldsLong v := by
  constructor
  · intro h
    cases h with
    | list hmem h => exact ⟨_, hmem, h⟩
  · rintro ⟨v, hmem, h⟩
    exact .list hmem h

@[simp] lemma holdsLong_map_iff {es : Settings} :
    HoldsLong (.map es) ↔ ∃ e ∈ es, HoldsLong e.2 := by
  constructor
  · intro h
    cases h with
    | map hmem h => exact ⟨_, hmem, h⟩
  · rintro ⟨e, hmem, h⟩
    exact .map hmem h

@[simp] lemma alike_atom_iff {a b : Atom} : Alike (.atom a) (.atom b) ↔ a = b := by
  constructor
  · intro h
    cases h with
    | atom => rfl
  · rintro rfl
    exact .atom a

@[simp] lemma alike_list_iff {vs ws : List Setting} :
    Alike (.list vs) (.list ws) ↔ List.Forall₂ Alike vs ws := by
  constructor
  · intro h
    cases h with
    | list h => exact h
  · exact .list

lemma alike_map_iff {es fs : Settings} :
    Alike (.map es) (.map fs) ↔ es.keys.Perm fs.keys ∧
      ∀ name v w, es.get? name = some v → fs.get? name = some w → Alike v w := by
  constructor
  · intro h
    cases h with
    | map hkeys h => exact ⟨hkeys, h⟩
  · rintro ⟨hkeys, h⟩
    exact .map hkeys h

lemma Alike.map_of_mem {es fs : Settings} (hkeys : es.keys.Perm fs.keys)
    (h : ∀ e ∈ es, ∀ f ∈ fs, e.1 = f.1 → Alike e.2 f.2) : Alike (.map es) (.map fs) := by
  refine .map hkeys ?_
  intro name v w hv hw
  exact h _ (Settings.mem_of_get? hv) _ (Settings.mem_of_get? hw) rfl

end Setting

/-! ### Values without parts -/

/-- The numbers of up to 4300 digits have a text. -/
lemma Integer.isOk_text_iff (i : Int) : (text i).isOk = true ↔ i.natAbs < 10 ^ 4300 := by
  have hdigits : (4300 : Nat) = maxDigits := rfl
  rw [hdigits, ← Nat.pow_eq, text]
  by_cases h : i.natAbs < Nat.pow 10 maxDigits
  · rw [if_pos h]
    simp only [h, iff_true]
    rfl
  · rw [if_neg h]
    simp only [h, iff_false]
    nofun

namespace Atom

variable {a : Atom} {x : Value}

lemma value_int_eq_error {i : Int} (h : 10 ^ 4300 ≤ i.natAbs) :
    (int i).value = .error (.integer .unwritable) := by
  rw [value, if_neg]
  rw [Integer.isOk_text_iff]
  exact h.not_gt

lemma exists_value (h : a.IsJson) (hlong : ¬ Setting.HoldsLong (.atom a)) :
    ∃ x, a.value = .ok x ∧ IsPlain x := by
  cases a with
  | null => exact ⟨.null, rfl, .null⟩
  | bool b => exact ⟨.bool b, rfl, .bool b⟩
  | int i =>
    refine ⟨.int i, ?_, .int i⟩
    rw [value, if_pos]
    rw [Integer.isOk_text_iff]
    by_contra hi
    exact hlong (.int (not_lt.1 hi))
  | text s => exact ⟨.text s, rfl, .text s⟩
  | _ => cases h

/-- The value of a record tells which value it is of. -/
lemma ofValue_of_value (h : a.value = .ok x) : Setting.ofValue x = .atom a := by
  cases a with
  | int i =>
    rw [value] at h
    split at h
    · cases h
      rfl
    · cases h
  | _ =>
    cases h
    try rfl

end Atom

namespace Setting

variable {v w : Setting} {vs ws : List Setting} {es es' : Settings} {x y : Value}
  {xs ys : List Value} {fs fs' : Assoc Value} {name : String}

/-! ### Lists -/

lemma exists_records (h : ∀ v ∈ vs, ∃ x, record v = .ok x ∧ IsPlain x) :
    ∃ xs, records vs = .ok xs ∧ ∀ x ∈ xs, IsPlain x := by
  induction vs with
  | nil => exact ⟨[], by rw [records], by simp⟩
  | cons v vs ih =>
    obtain ⟨⟨x, hx, hplain⟩, hvs⟩ := List.forall_mem_cons.1 h
    obtain ⟨xs, hxs, hplains⟩ := ih hvs
    refine ⟨x :: xs, ?_, List.forall_mem_cons.2 ⟨hplain, hplains⟩⟩
    rw [records, hx, hxs]
    rfl

/-- A list fails as the elements do that fail, if they all fail in one way. -/
lemma records_eq_error {e : Failure}
    (h : ∀ v ∈ vs, (∃ x, record v = .ok x) ∨ record v = .error e)
    (hfails : ∃ v ∈ vs, record v = .error e) : records vs = .error e := by
  induction vs with
  | nil => simp at hfails
  | cons v vs ih =>
    obtain ⟨hv, hvs⟩ := List.forall_mem_cons.1 h
    rw [records]
    obtain ⟨x, hx⟩ | hx := hv
    · have hrest : ∃ v ∈ vs, record v = .error e := by
        obtain ⟨w, hw, hfail⟩ := hfails
        rcases List.mem_cons.1 hw with rfl | hw
        · cases hx.symm.trans hfail
        · exact ⟨w, hw, hfail⟩
      rw [hx, ih hvs hrest]
      rfl
    · rw [hx]
      rfl

lemma exists_of_records_cons (h : records (v :: vs) = .ok xs) :
    ∃ x rest, xs = x :: rest ∧ record v = .ok x ∧ records vs = .ok rest := by
  rw [records] at h
  cases hv : record v with
  | error e =>
    rw [hv] at h
    cases h
  | ok x =>
    cases hvs : records vs with
    | error e =>
      rw [hv, hvs] at h
      cases h
    | ok rest =>
      rw [hv, hvs] at h
      cases h
      exact ⟨x, rest, rfl, rfl, rfl⟩

/-- Lists have equal records just if their elements are alike, if this holds of the elements. -/
lemma records_eq_iff
    (h : ∀ v ∈ vs, ∀ w ∈ ws, ∀ x y, record v = .ok x → record w = .ok y → (x = y ↔ Alike v w))
    (hxs : records vs = .ok xs) (hys : records ws = .ok ys) :
    xs = ys ↔ List.Forall₂ Alike vs ws := by
  induction vs generalizing ws xs ys with
  | nil =>
    rw [records] at hxs
    cases hxs
    cases ws with
    | nil =>
      rw [records] at hys
      cases hys
      simp
    | cons w ws =>
      obtain ⟨y, rest, rfl, -, -⟩ := exists_of_records_cons hys
      simp
  | cons v vs ih =>
    obtain ⟨x, rest, rfl, hx, hrest⟩ := exists_of_records_cons hxs
    cases ws with
    | nil =>
      rw [records] at hys
      cases hys
      simp
    | cons w ws =>
      obtain ⟨y, rest', rfl, hy, hrest'⟩ := exists_of_records_cons hys
      have hfirst := h v List.mem_cons_self w List.mem_cons_self x y hx hy
      have hothers := ih (fun v hv w hw => h v (List.mem_cons_of_mem _ hv) w
        (List.mem_cons_of_mem _ hw)) hrest hrest'
      rw [List.forall₂_cons, List.cons.injEq, hfirst, hothers]

/-! ### Maps -/

lemma recordEntries_eq (es : Settings) : recordEntries es = es.map fun e => (e.1, record e.2) := by
  induction es with
  | nil => rw [recordEntries]; rfl
  | cons e es ih =>
    rw [recordEntries, ih]
    rfl

lemma collect_eq (fs : Assoc Value) :
    collect (fs.map fun f => (.text f.1, .ok f.2)) = .ok fs := by
  induction fs with
  | nil => rfl
  | cons f fs ih =>
    rw [List.map_cons, collect, ih]
    rfl

/-- Entries fail as the values do that fail, if these all fail in one way. -/
lemma collect_eq_error {ps : List (Atom × Except Failure Value)} {e : Failure}
    (htexts : ∀ p ∈ ps, ∃ name, p.1 = .text name)
    (h : ∀ p ∈ ps, (∃ x, p.2 = .ok x) ∨ p.2 = .error e) (hfails : ∃ p ∈ ps, p.2 = .error e) :
    collect ps = .error e := by
  induction ps with
  | nil => simp at hfails
  | cons p ps ih =>
    obtain ⟨k, v⟩ := p
    obtain ⟨⟨name, hname⟩, hrest⟩ := List.forall_mem_cons.1 htexts
    obtain ⟨hv, hps⟩ := List.forall_mem_cons.1 h
    cases hname
    rw [collect, Atom.keyText]
    obtain ⟨x, hx⟩ | hx := hv
    · have hfails' : ∃ p ∈ ps, p.2 = .error e := by
        obtain ⟨p, hp, hfail⟩ := hfails
        rcases List.mem_cons.1 hp with rfl | hp
        · cases hx.symm.trans hfail
        · exact ⟨p, hp, hfail⟩
      cases hx
      rw [ih hrest hps hfails']
      rfl
    · cases hx
      rfl

/-- Entries under texts are sorted by these. -/
lemma sortBy_recordEntries (htexts : ∀ k ∈ es.keys, ∃ name, k = .text name) :
    Atom.sortBy (·.1) (recordEntries es) =
      .ok (Text.sortedBy (fun p => p.1.text?.getD "") (es.map fun e => (e.1, record e.2))) := by
  rw [recordEntries_eq]
  apply Atom.sortBy_eq_sortedBy
  intro p hp
  obtain ⟨e, he, rfl⟩ := List.mem_map.1 hp
  obtain ⟨name, hname⟩ := htexts e.1 (List.mem_map_of_mem he)
  simp [hname, Atom.text?]

/-- A map fails as the values do that fail, if these all fail in one way. -/
lemma record_map_eq_error {e : Failure} (htexts : ∀ k ∈ es.keys, ∃ name, k = .text name)
    (h : ∀ p ∈ es, (∃ x, record p.2 = .ok x) ∨ record p.2 = .error e)
    (hfails : ∃ p ∈ es, record p.2 = .error e) : record (.map es) = .error e := by
  have hmem : ∀ p, p ∈ Text.sortedBy (fun p => p.1.text?.getD "")
      (es.map fun e => (e.1, record e.2)) ↔ ∃ e ∈ es, (e.1, record e.2) = p := by
    intro p
    rw [(Text.sortedBy_perm _ _).mem_iff, List.mem_map]
  rw [record, sortBy_recordEntries htexts]
  simp only
  rw [collect_eq_error]
  · rfl
  · intro p hp
    obtain ⟨e, he, rfl⟩ := (hmem p).1 hp
    exact htexts e.1 (List.mem_map_of_mem he)
  · intro p hp
    obtain ⟨e, he, rfl⟩ := (hmem p).1 hp
    exact h e he
  · obtain ⟨e, he, hfail⟩ := hfails
    exact ⟨_, (hmem _).2 ⟨e, he, rfl⟩, hfail⟩

/-- Entries of settings and their records, in the same order. -/
def AreRecorded (es : Settings) (fs : Assoc Value) : Prop :=
  (es.map fun e => (e.1, record e.2)) = fs.map fun f => (Atom.text f.1, Except.ok f.2)

lemma exists_areRecorded (htexts : ∀ k ∈ es.keys, ∃ name, k = .text name)
    (h : ∀ e ∈ es, ∃ x, record e.2 = .ok x ∧ IsPlain x) :
    ∃ fs, AreRecorded es fs ∧ ∀ f ∈ fs, IsPlain f.2 := by
  induction es with
  | nil => exact ⟨[], rfl, by simp⟩
  | cons e es ih =>
    obtain ⟨k, v⟩ := e
    obtain ⟨⟨x, hx, hplain⟩, hes⟩ := List.forall_mem_cons.1 h
    obtain ⟨⟨name, hname⟩, hkeys⟩ := List.forall_mem_cons.1 htexts
    obtain ⟨fs, hfs, hplains⟩ := ih hkeys hes
    refine ⟨(name, x) :: fs, ?_, List.forall_mem_cons.2 ⟨hplain, hplains⟩⟩
    rw [AreRecorded, List.map_cons, List.map_cons, hfs, hx]
    exact congrArg (fun k => (k, _) :: _) hname

namespace AreRecorded

lemma keys_eq (h : AreRecorded es fs) : es.keys = (Assoc.keys fs).map .text := by
  have hkeys := congrArg (List.map Prod.fst) h
  rw [List.map_map, List.map_map] at hkeys
  rw [Settings.keys, Assoc.keys, List.map_map]
  exact hkeys

lemma nodup_keys (h : AreRecorded es fs) (hnodup : es.keys.Nodup) : (Assoc.keys fs).Nodup := by
  rw [h.keys_eq] at hnodup
  exact hnodup.of_map

/-- The record of a map has its entries in the order of the keys. -/
lemma record_eq (h : AreRecorded es fs) :
    record (.map es) = .ok (.map (Text.sortedBy (·.1) fs)) := by
  have htexts : ∀ k ∈ es.keys, ∃ name, k = .text name := by
    intro k hk
    rw [h.keys_eq] at hk
    obtain ⟨name, -, rfl⟩ := List.mem_map.1 hk
    exact ⟨name, rfl⟩
  have hsorted : Text.sortedBy (fun p => p.1.text?.getD "") (es.map fun e => (e.1, record e.2)) =
      (Text.sortedBy (·.1) fs).map fun f => (.text f.1, .ok f.2) := by
    rw [h]
    exact Text.sortedBy_map fun f _ => rfl
  rw [record, sortBy_recordEntries htexts, hsorted]
  simp only [collect_eq]
  rfl

lemma exists_of_get? (h : AreRecorded es fs) (hget : es.get? name = some v) :
    ∃ x, (name, x) ∈ fs ∧ record v = .ok x := by
  have hmem : (Atom.text name, record v) ∈ es.map fun e => (e.1, record e.2) :=
    List.mem_map.2 ⟨_, Settings.mem_of_get? hget, rfl⟩
  rw [h] at hmem
  obtain ⟨⟨k, x⟩, hf, heq⟩ := List.mem_map.1 hmem
  obtain ⟨hk, hx⟩ := Prod.mk.inj heq
  cases hk
  exact ⟨x, hf, hx.symm⟩

lemma exists_of_mem (h : AreRecorded es fs) (hnodup : es.keys.Nodup) (hmem : (name, x) ∈ fs) :
    ∃ v, es.get? name = some v ∧ record v = .ok x := by
  have hrecord : (Atom.text name, Except.ok x) ∈ es.map fun e => (e.1, record e.2) := by
    rw [h]
    exact List.mem_map.2 ⟨_, hmem, rfl⟩
  obtain ⟨⟨k, v⟩, he, heq⟩ := List.mem_map.1 hrecord
  obtain ⟨hk, hv⟩ := Prod.mk.inj heq
  cases hk
  exact ⟨v, Settings.get?_of_mem hnodup he, hv⟩

/-- An entry of one record is an entry of another, if its key stands in both maps, over values with
equal records. -/
lemma mem_of_mem (h : AreRecorded es fs) (h' : AreRecorded es' fs') (hnodup : es.keys.Nodup)
    (hkeys : ∀ k ∈ es.keys, k ∈ es'.keys)
    (heq : ∀ v w x y, es.get? name = some v → es'.get? name = some w → record v = .ok x →
      record w = .ok y → x = y) (hmem : (name, x) ∈ fs) : (name, x) ∈ fs' := by
  obtain ⟨v, hv, hrecord⟩ := h.exists_of_mem hnodup hmem
  have hkey : .text name ∈ es'.keys := by
    apply hkeys
    rw [h.keys_eq]
    exact List.mem_map_of_mem (List.mem_map.2 ⟨_, hmem, rfl⟩)
  obtain ⟨w, hw⟩ : ∃ w, es'.get? name = some w := by
    rw [← Option.ne_none_iff_exists', Ne, Settings.get?_eq_none_iff, not_not]
    exact hkey
  obtain ⟨y, hy, hrecord'⟩ := h'.exists_of_get? hw
  rw [heq v w x y hv hw hrecord hrecord']
  exact hy

/-- Maps have equal records just if they are alike, if this holds of their values. -/
lemma sortedBy_eq_iff (h : AreRecorded es fs) (h' : AreRecorded es' fs') (hnodup : es.keys.Nodup)
    (hnodup' : es'.keys.Nodup)
    (hvalues : ∀ name v w x y, es.get? name = some v → es'.get? name = some w →
      record v = .ok x → record w = .ok y → (x = y ↔ Alike v w)) :
    Text.sortedBy (·.1) fs = Text.sortedBy (·.1) fs' ↔ Alike (.map es) (.map es') := by
  have hfs := h.nodup_keys hnodup
  have hfs' := h'.nodup_keys hnodup'
  rw [alike_map_iff]
  constructor
  · intro hsorted
    have hperm : fs.Perm fs' :=
      (Text.sortedBy_perm _ fs).symm.trans (hsorted ▸ Text.sortedBy_perm _ fs')
    refine ⟨?_, ?_⟩
    · rw [h.keys_eq, h'.keys_eq]
      exact (hperm.map _).map _
    · intro name v w hv hw
      obtain ⟨x, hx, hrecord⟩ := h.exists_of_get? hv
      obtain ⟨w', hw', hrecord'⟩ := h'.exists_of_mem hnodup' (hperm.mem_iff.1 hx)
      cases hw.symm.trans hw'
      exact (hvalues name v w x x hv hw hrecord hrecord').1 rfl
  · rintro ⟨hkeys, halike⟩
    have heq : ∀ name v w x y, es.get? name = some v → es'.get? name = some w →
        record v = .ok x → record w = .ok y → x = y := by
      intro name v w x y hv hw hx hy
      exact (hvalues name v w x y hv hw hx hy).2 (halike name v w hv hw)
    apply Text.sortedBy_eq_of_perm
    · intro f hf g hg hfg
      exact List.inj_on_of_nodup_map hfs hf hg hfg
    · rw [List.perm_ext_iff_of_nodup hfs.of_map hfs'.of_map]
      rintro ⟨name, x⟩
      constructor
      · exact h.mem_of_mem h' hnodup (fun k => hkeys.mem_iff.1) (heq name)
      · refine h'.mem_of_mem h hnodup' (fun k => hkeys.mem_iff.2) ?_
        intro v w x y hv hw hx hy
        exact (heq name w v y x hw hv hy hx).symm

end AreRecorded

/-! ### All settings -/

/-- Settings that JSON can write have a record, unless they hold a number that is too long. -/
lemma IsJson.record_cases (h : IsJson v) :
    (¬ HoldsLong v ∧ ∃ x, record v = .ok x ∧ IsPlain x) ∨
      (HoldsLong v ∧ record v = .error (.integer .unwritable)) := by
  induction h with
  | @atom a h =>
    rw [record]
    by_cases hlong : HoldsLong (.atom a)
    · cases hlong with
      | int hi => exact .inr ⟨.int hi, Atom.value_int_eq_error hi⟩
    · exact .inl ⟨hlong, Atom.exists_value h hlong⟩
  | @list vs _ ih =>
    rw [holdsLong_list_iff]
    by_cases hlong : ∃ v ∈ vs, HoldsLong v
    · obtain ⟨v, hv, hlong⟩ := hlong
      refine .inr ⟨⟨v, hv, hlong⟩, ?_⟩
      rw [record, records_eq_error]
      · rfl
      · intro w hw
        rcases ih w hw with ⟨-, x, hx, -⟩ | ⟨-, herror⟩
        · exact .inl ⟨x, hx⟩
        · exact .inr herror
      · exact ⟨v, hv, ((ih v hv).resolve_left fun h => h.1 hlong).2⟩
    · obtain ⟨xs, hxs, hplain⟩ := exists_records fun v hv =>
        ((ih v hv).resolve_right fun h => hlong ⟨v, hv, h.1⟩).2
      refine .inl ⟨hlong, .list xs, ?_, .list hplain⟩
      rw [record, hxs]
      rfl
  | @map es texts nodup _ ih =>
    rw [holdsLong_map_iff]
    by_cases hlong : ∃ e ∈ es, HoldsLong e.2
    · obtain ⟨e, he, hlong⟩ := hlong
      refine .inr ⟨⟨e, he, hlong⟩, record_map_eq_error texts ?_ ?_⟩
      · intro f hf
        rcases ih f hf with ⟨-, x, hx, -⟩ | ⟨-, herror⟩
        · exact .inl ⟨x, hx⟩
        · exact .inr herror
      · exact ⟨e, he, ((ih e he).resolve_left fun h => h.1 hlong).2⟩
    · obtain ⟨fs, hfs, hplain⟩ := exists_areRecorded texts fun e he =>
        ((ih e he).resolve_right fun h => hlong ⟨e, he, h.1⟩).2
      refine .inl ⟨hlong, _, hfs.record_eq, .map ?_ ?_⟩
      · exact ((Text.sortedBy_perm _ fs).map _).nodup_iff.2 (hfs.nodup_keys nodup)
      · intro f hf
        exact hplain f ((Text.sortedBy_perm _ fs).mem_iff.1 hf)

lemma IsJson.exists_record (h : IsJson v) (hlong : ¬ HoldsLong v) :
    ∃ x, record v = .ok x ∧ IsPlain x :=
  (h.record_cases.resolve_right fun h => hlong h.1).2

lemma IsJson.record_eq_error (h : IsJson v) (hlong : HoldsLong v) :
    record v = .error (.integer .unwritable) :=
  (h.record_cases.resolve_left fun h => h.1 hlong).2

lemma exists_of_record_list (h : record (.list vs) = .ok x) :
    ∃ xs, x = .list xs ∧ records vs = .ok xs := by
  rw [record] at h
  cases hvs : records vs with
  | error e =>
    rw [hvs] at h
    cases h
  | ok xs =>
    rw [hvs] at h
    cases h
    exact ⟨xs, rfl, rfl⟩

lemma IsJson.exists_of_record_map (h : IsJson (.map es)) (hx : record (.map es) = .ok x) :
    ∃ fs, AreRecorded es fs ∧ x = .map (Text.sortedBy (·.1) fs) := by
  have hlong : ¬ HoldsLong (.map es) := by
    intro hlong
    cases hx.symm.trans (h.record_eq_error hlong)
  cases h with
  | map texts _ hes =>
    obtain ⟨fs, hfs, -⟩ := exists_areRecorded texts fun e he =>
      (hes e he).exists_record fun h => hlong (.map he h)
    exact ⟨fs, hfs, Except.ok.inj (hx.symm.trans hfs.record_eq)⟩

/-- Settings that JSON can write have equal records just if they are alike. -/
lemma IsJson.record_eq_iff (hv : IsJson v) (hw : IsJson w) (hx : record v = .ok x)
    (hy : record w = .ok y) : x = y ↔ Alike v w := by
  -- Of different kinds of settings, the records are of different kinds.
  induction hv generalizing w x y with
  | @atom a ha =>
    rw [record] at hx
    have ha := Atom.ofValue_of_value hx
    cases hw with
    | @atom b hb =>
      rw [record] at hy
      have hb := Atom.ofValue_of_value hy
      rw [alike_atom_iff]
      constructor
      · rintro rfl
        exact Setting.atom.inj (ha.symm.trans hb)
      · rintro rfl
        exact Except.ok.inj (hx.symm.trans hy)
    | list hws =>
      obtain ⟨ys, rfl, -⟩ := exists_of_record_list hy
      refine ⟨?_, nofun⟩
      rintro rfl
      cases ha
    | map texts nodup hes =>
      obtain ⟨fs, -, rfl⟩ := (IsJson.map texts nodup hes).exists_of_record_map hy
      refine ⟨?_, nofun⟩
      rintro rfl
      cases ha
  | @list vs hvs ih =>
    obtain ⟨xs, rfl, hxs⟩ := exists_of_record_list hx
    cases hw with
    | atom hb =>
      rw [record] at hy
      refine ⟨?_, nofun⟩
      rintro rfl
      cases Atom.ofValue_of_value hy
    | @list ws hws =>
      obtain ⟨ys, rfl, hys⟩ := exists_of_record_list hy
      have hiff := records_eq_iff
        (fun v hv w hw x y hx hy => ih v hv (hws w hw) hx hy) hxs hys
      rw [Value.list.injEq, hiff, alike_list_iff]
    | map texts nodup hes =>
      obtain ⟨fs, -, rfl⟩ := (IsJson.map texts nodup hes).exists_of_record_map hy
      exact ⟨nofun, nofun⟩
  | @map es texts nodup hes ih =>
    obtain ⟨fs, hfs, rfl⟩ := (IsJson.map texts nodup hes).exists_of_record_map hx
    cases hw with
    | atom hb =>
      rw [record] at hy
      refine ⟨?_, nofun⟩
      rintro rfl
      cases Atom.ofValue_of_value hy
    | list hws =>
      obtain ⟨ys, rfl, -⟩ := exists_of_record_list hy
      exact ⟨nofun, nofun⟩
    | @map es' texts' nodup' hes' =>
      obtain ⟨fs', hfs', rfl⟩ := (IsJson.map texts' nodup' hes').exists_of_record_map hy
      rw [Value.map.injEq]
      refine hfs.sortedBy_eq_iff hfs' nodup nodup' ?_
      intro name v w x y hv hw hx hy
      exact ih _ (Settings.mem_of_get? hv) (hes' _ (Settings.mem_of_get? hw)) hx hy

lemma IsJson.exists_canonical (h : IsJson v) (hlong : ¬ HoldsLong v) :
    ∃ text, v.canonical = .ok text := by
  obtain ⟨x, hx, -⟩ := h.exists_record hlong
  exact ⟨Json.text { ascii := true } x, by rw [canonical, hx]; rfl⟩

lemma IsJson.canonical_eq_error (h : IsJson v) (hlong : HoldsLong v) :
    v.canonical = .error (.integer .unwritable) := by
  rw [canonical, h.record_eq_error hlong]
  rfl

/-- Settings that JSON can write have equal texts just if they are alike. -/
lemma IsJson.text_eq_iff (hv : IsJson v) (hw : IsJson w) {text text' : String}
    (htext : v.canonical = .ok text) (htext' : w.canonical = .ok text') :
    text = text' ↔ Alike v w := by
  have hlong : ¬ HoldsLong v := by
    intro hlong
    cases htext.symm.trans (hv.canonical_eq_error hlong)
  have hlong' : ¬ HoldsLong w := by
    intro hlong
    cases htext'.symm.trans (hw.canonical_eq_error hlong)
  obtain ⟨x, hx, hplain⟩ := hv.exists_record hlong
  obtain ⟨y, hy, hplain'⟩ := hw.exists_record hlong'
  rw [canonical, hx] at htext
  rw [canonical, hy] at htext'
  cases htext
  cases htext'
  rw [← hv.record_eq_iff hw hx hy]
  apply Json.text_eq_iff _ hplain hplain'
  intro unit hunit
  cases hunit

end Setting

end Stylebook
