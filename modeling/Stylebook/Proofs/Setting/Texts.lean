import Mathlib
import Stylebook.Proofs.Text.Order
import Stylebook.Setting.Order

/-!
# Texts among settings

A text is the same as another value only if it is that text. So entries under texts are found and
put like entries of any association list, values that are texts are sorted as texts, and two lists
of texts unite to the increasing list of the texts in either.
-/

namespace Stylebook

/-! ### Keys -/

namespace Atom

lemma same_text_iff {a : Atom} {name : String} : a.same (.text name) = true ↔ a = .text name := by
  cases a <;> simp [same, rank?]

end Atom

namespace Settings

variable {s t : Settings} {name other : String} {k : Atom} {v : Setting}

/-- The keys in order. -/
def keys (s : Settings) : List Atom :=
  s.map (·.1)

@[simp] lemma get?_nil (name : String) : get? [] name = none := rfl

lemma get?_cons (k : Atom) (v : Setting) (s : Settings) (name : String) :
    get? ((k, v) :: s) name = if k = .text name then some v else get? s name := by
  simp only [get?, find?, Atom.same_text_iff]

lemma get?_put (s : Settings) (name : String) (v : Setting) (other : String) :
    (s.put (.text name) v).get? other = if other = name then some v else s.get? other := by
  induction s with
  | nil =>
    rw [put, get?_cons]
    simp [eq_comm]
  | cons entry s ih =>
    obtain ⟨k, w⟩ := entry
    rw [put]
    by_cases hk : k = .text name
    · rw [if_pos (Atom.same_text_iff.2 hk), get?_cons, get?_cons, hk]
      by_cases hother : other = name
      · simp [hother]
      · simp [hother, Ne.symm hother]
    · rw [if_neg (mt Atom.same_text_iff.1 hk), get?_cons, get?_cons, ih]
      by_cases hother : other = name
      · simp [hother, hk]
      · simp [hother]

lemma keys_put (s : Settings) (name : String) (v : Setting) :
    (s.put (.text name) v).keys =
      if .text name ∈ s.keys then s.keys else s.keys ++ [.text name] := by
  unfold keys
  induction s with
  | nil => rfl
  | cons entry s ih =>
    obtain ⟨k, w⟩ := entry
    rw [put]
    by_cases hk : k = .text name
    · rw [if_pos (Atom.same_text_iff.2 hk)]
      simp [hk]
    · rw [if_neg (mt Atom.same_text_iff.1 hk)]
      simp only [List.map_cons, ih, List.mem_cons, Ne.symm hk, false_or]
      split <;> rfl

lemma get?_eq_none_iff : s.get? name = none ↔ .text name ∉ s.keys := by
  induction s with
  | nil => simp [keys]
  | cons entry s ih =>
    obtain ⟨k, v⟩ := entry
    rw [get?_cons]
    by_cases hk : k = .text name
    · simp [hk, keys]
    · simpa [hk, Ne.symm hk, keys] using ih

lemma mem_of_get? (h : s.get? name = some v) : (.text name, v) ∈ s := by
  induction s with
  | nil => cases h
  | cons entry s ih =>
    obtain ⟨k, w⟩ := entry
    rw [get?_cons] at h
    split at h
    next hk =>
      cases h
      rw [hk]
      exact List.mem_cons_self
    next => exact List.mem_cons_of_mem _ (ih h)

lemma get?_of_mem (hkeys : s.keys.Nodup) (h : (.text name, v) ∈ s) : s.get? name = some v := by
  induction s with
  | nil => cases h
  | cons entry s ih =>
    obtain ⟨k, w⟩ := entry
    obtain ⟨hk, hs⟩ := List.nodup_cons.1 hkeys
    rw [get?_cons]
    rcases List.mem_cons.1 h with heq | hmem
    · cases heq
      simp
    · have hne : k ≠ .text name := by
        rintro rfl
        exact hk (List.mem_map.2 ⟨_, hmem, rfl⟩)
      rw [if_neg hne, ih hs hmem]

/-- Entries under different texts are given by the order of the keys and what stands under each. -/
lemma ext_of_keys (htexts : ∀ k ∈ s.keys, ∃ name, k = .text name) (hnodup : s.keys.Nodup)
    (hkeys : s.keys = t.keys) (hget : ∀ name, s.get? name = t.get? name) : s = t := by
  induction s generalizing t with
  | nil => exact (List.map_eq_nil_iff.1 hkeys.symm).symm
  | cons entry s ih =>
    obtain ⟨k, v⟩ := entry
    cases t with
    | nil => cases hkeys
    | cons entry' t =>
      obtain ⟨k', w⟩ := entry'
      obtain ⟨hk, hs⟩ : k ∉ keys s ∧ (keys s).Nodup := List.nodup_cons.1 hnodup
      obtain ⟨rfl, hrest⟩ : k = k' ∧ keys s = keys t := List.cons.inj hkeys
      obtain ⟨name, rfl⟩ := htexts k List.mem_cons_self
      have hv : v = w := by simpa [get?_cons] using hget name
      rw [hv, ih (fun k hk => htexts k (List.mem_cons_of_mem _ hk)) hs hrest ?_]
      intro other
      have hother := hget other
      rw [get?_cons, get?_cons] at hother
      split at hother
      next heq =>
        -- neither rest has another entry under the first key
        rw [heq] at hk
        have hk' : .text other ∉ keys t := hrest ▸ hk
        rw [get?_eq_none_iff.2 hk, get?_eq_none_iff.2 hk']
      next => exact hother

end Settings

/-! ### Sorting -/

namespace Atom

lemma sortBy_eq_sortedBy {α : Type} {f : α → Atom} (key : α → String) {xs : List α}
    (h : ∀ x ∈ xs, f x = .text (key x)) : sortBy f xs = .ok (Text.sortedBy key xs) := by
  unfold sortBy
  split
  next hlength =>
    congr 1
    match xs, hlength with
    | [], _ => simp [Text.sortedBy]
    | [x], _ => simp [Text.sortedBy]
  next =>
    have hall : (xs.all fun x => (f x).text?.isSome) = true := by
      rw [List.all_eq_true]
      intro x hx
      simp [h x hx, text?]
    rw [if_pos hall]
    congr 1
    have hsorted : Text.sortedBy (fun x => (f x).text?.getD "") (xs.map id) =
        (Text.sortedBy key xs).map id :=
      Text.sortedBy_map fun x hx => by simp [h x hx, text?]
    simpa using hsorted

/-- Of some texts, each is kept once. -/
lemma exists_distinct_texts (ss : List String) :
    ∃ us : List String, distinct (ss.map .text) = us.map .text ∧ us.Nodup ∧
      ∀ s, s ∈ us ↔ s ∈ ss := by
  have hfold : ∀ kept : List String, kept.Nodup → ∃ us : List String,
      (ss.map .text).foldl (fun kept a => if kept.any (same a) then kept else kept ++ [a])
        (kept.map .text) = us.map .text ∧ us.Nodup ∧ ∀ s, s ∈ us ↔ s ∈ kept ∨ s ∈ ss := by
    induction ss with
    | nil => exact fun kept hkept => ⟨kept, rfl, hkept, by simp⟩
    | cons s ss ih =>
      intro kept hkept
      have hany : (kept.map Atom.text).any (same (.text s)) = decide (s ∈ kept) := by
        rw [Bool.eq_iff_iff, List.any_map, List.any_eq_true, decide_eq_true_iff]
        simp [same]
      rw [List.map_cons, List.foldl_cons, hany]
      by_cases hs : s ∈ kept
      · obtain ⟨us, hus, hnodup, hmem⟩ := ih kept hkept
        refine ⟨us, by simpa [hs] using hus, hnodup, ?_⟩
        intro x
        rw [hmem, List.mem_cons]
        grind
      · have hkept' : (kept ++ [s]).Nodup := by
          rw [List.nodup_append_comm]
          exact List.nodup_cons.2 ⟨hs, hkept⟩
        obtain ⟨us, hus, hnodup, hmem⟩ := ih (kept ++ [s]) hkept'
        refine ⟨us, by simpa [hs] using hus, hnodup, ?_⟩
        intro x
        rw [hmem, List.mem_cons, List.mem_append, List.mem_singleton, or_assoc]
  obtain ⟨us, hus, hnodup, hmem⟩ := hfold [] List.nodup_nil
  exact ⟨us, hus, hnodup, by simpa using hmem⟩

end Atom

/-! ### Uniting lists -/

/-- Increasing lists of the same texts are equal. -/
lemma Text.eq_of_increasing {ss ts : List String} (hss : ss.Pairwise (· < ·))
    (hts : ts.Pairwise (· < ·)) (h : ∀ s, s ∈ ss ↔ s ∈ ts) : ss = ts := by
  have hperm : ss.Perm ts :=
    (List.perm_ext_iff_of_nodup (hss.imp ne_of_lt) (hts.imp ne_of_lt)).2 h
  apply hperm.eq_of_pairwise _ hss hts
  intro a b _ _ hab hba
  exact absurd hba (lt_asymm hab)

namespace Setting

/-- The texts that are in either of two lists, in increasing order. -/
structure IsUnion (vs ws : List Setting) (us : List String) : Prop where
  increasing : us.Pairwise (· < ·)
  mem_iff : ∀ s, s ∈ us ↔ .text s ∈ vs ∨ .text s ∈ ws

lemma exists_texts {vs : List Setting} (h : ∀ v ∈ vs, ∃ s, v = .text s) :
    ∃ ss : List String, vs = ss.map .text := by
  induction vs with
  | nil => exact ⟨[], rfl⟩
  | cons v vs ih =>
    obtain ⟨⟨s, rfl⟩, hvs⟩ := List.forall_mem_cons.1 h
    obtain ⟨ss, rfl⟩ := ih hvs
    exact ⟨s :: ss, rfl⟩

lemma atoms_texts (ss : List String) : atoms (ss.map .text) = .ok (ss.map .text) := by
  induction ss with
  | nil => rfl
  | cons s ss ih => simp [atoms, ih, Except.map]

/-- Two lists of texts can be united. -/
lemma exists_unite {vs ws : List Setting} (hvs : ∀ v ∈ vs, ∃ s, v = .text s)
    (hws : ∀ w ∈ ws, ∃ s, w = .text s) :
    ∃ us : List String, unite vs ws = .ok (us.map .text) ∧ IsUnion vs ws us := by
  obtain ⟨ss, rfl⟩ := exists_texts hvs
  obtain ⟨ts, rfl⟩ := exists_texts hws
  obtain ⟨us, hus, hnodup, hmem⟩ := Atom.exists_distinct_texts (ss ++ ts)
  refine ⟨Text.sortedBy id us, ?_, ?_, ?_⟩
  · have hsort : Atom.sortBy id (us.map Atom.text) = .ok ((Text.sortedBy id us).map .text) := by
      rw [Atom.sortBy_eq_sortedBy fun a => a.text?.getD ""]
      · congr 1
        exact Text.sortedBy_map fun s _ => rfl
      · intro a ha
        obtain ⟨s, -, rfl⟩ := List.mem_map.1 ha
        rfl
    rw [unite, ← List.map_append, atoms_texts]
    simp only [hus, hsort, Except.map, List.map_map]
    rfl
  · have hnodup' : (Text.sortedBy id us).Nodup := (Text.sortedBy_perm id us).nodup_iff.2 hnodup
    refine ((Text.pairwise_sortedBy id us).and hnodup').imp ?_
    rintro a b ⟨hle, hne⟩
    exact lt_of_le_of_ne hle hne
  · intro s
    rw [(Text.sortedBy_perm id us).mem_iff, hmem, List.mem_append]
    simp

end Setting

end Stylebook
