import Mathlib
import Stylebook.Proofs.Setting.Texts
import Stylebook.Settings.Basic

/-!
# Equal settings

Settings are equal if their parts are. A number equals a number of another type, and neither the
order of the entries of a map nor that of the elements of a set counts. So equal settings switch the
same things on and hold the same texts, but when their elements are gone through one by one, the
same elements may come in different orders.
-/

namespace Stylebook

/-! ### Values without parts -/

namespace Binary64

variable {x : Binary64}

lemma isZero_eq_false_of_isNaN (h : x.isNaN = true) : x.isZero = false := by
  unfold isNaN at h
  unfold isZero
  simp_all

lemma isZero_eq_false_of_isInfinite (h : x.isInfinite = true) : x.isZero = false := by
  unfold isInfinite at h
  unfold isZero
  simp_all

lemma isZero_iff : x.isZero = true ↔ x.significand = 0 := by
  unfold isZero significand
  split <;> simp_all

lemma toQuotient_fst_eq_zero_iff : x.toQuotient.1 = 0 ↔ x.isZero = true := by
  rw [isZero_iff]
  unfold toQuotient
  dsimp only
  split <;> split <;> simp

lemma toQuotient_snd_pos (x : Binary64) : 0 < x.toQuotient.2 := by
  unfold toQuotient
  dsimp only
  split <;> simp

end Binary64

namespace Atom

variable {a b : Atom} {r q : Rank}

/-- The numbers that switch something on are those that do not lie at zero. -/
lemma isTruthy_iff_of_rank? (h : a.rank? = some r) :
    (a.isTruthy = true ↔ r.side ≠ 0 ∨ r.num ≠ 0) ∧ 0 < r.den := by
  cases a with
  | bool b =>
    cases h
    cases b <;> simp [isTruthy, Rank.ofInt]
  | int i =>
    cases h
    simp [isTruthy, Rank.ofInt]
  | float x =>
    rw [rank?] at h
    split at h
    · cases h
    · split at h
      next hinfinite =>
        cases h
        rw [isTruthy, Binary64.isZero_eq_false_of_isInfinite hinfinite]
        split <;> simp
      next =>
        cases h
        simp [isTruthy, Binary64.toQuotient_fst_eq_zero_iff, x.toQuotient_snd_pos]
  | null | text | bytes | date | moment => cases h

lemma Rank.num_eq_zero_iff (hr : 0 < r.den) (hq : 0 < q.den) (h : r.notAfter q = true)
    (h' : q.notAfter r = true) : r.side = q.side ∧ (r.num = 0 ↔ q.num = 0) := by
  unfold Rank.notAfter at h h'
  have hside : r.side = q.side := by
    by_contra hne
    rw [if_neg hne, decide_eq_true_eq] at h
    rw [if_neg (Ne.symm hne), decide_eq_true_eq] at h'
    omega
  rw [if_pos hside, decide_eq_true_eq] at h
  rw [if_pos hside.symm, decide_eq_true_eq] at h'
  have hcross : r.num * q.den = q.num * r.den := le_antisymm h h'
  refine ⟨hside, ?_⟩
  constructor
  · intro hzero
    rw [hzero, zero_mul] at hcross
    have hor := mul_eq_zero.1 hcross.symm
    omega
  · intro hzero
    rw [hzero, zero_mul] at hcross
    have hor := mul_eq_zero.1 hcross
    omega

lemma isTruthy_eq_of_rank? (ha : a.rank? = some r) (hb : b.rank? = some q)
    (h : (r.notAfter q && q.notAfter r) = true) : a.isTruthy = b.isTruthy := by
  obtain ⟨hrq, hqr⟩ := Bool.and_eq_true_iff.1 h
  obtain ⟨hatruthy, hrden⟩ := isTruthy_iff_of_rank? ha
  obtain ⟨hbtruthy, hqden⟩ := isTruthy_iff_of_rank? hb
  obtain ⟨hside, hzero⟩ := Rank.num_eq_zero_iff hrden hqden hrq hqr
  rw [Bool.eq_iff_iff, hatruthy, hbtruthy, hside, Ne, Ne, hzero]

lemma isTruthy_eq_of_same (h : a.same b = true) : a.isTruthy = b.isTruthy := by
  unfold same at h
  split at h
  next => rfl
  next => rw [eq_of_beq h]
  next => rw [eq_of_beq h]
  next => rfl
  next => rfl
  next x y =>
    rcases Bool.or_eq_true_iff.1 h with hnan | h
    · rw [Bool.and_eq_true] at hnan
      rw [isTruthy, isTruthy, Binary64.isZero_eq_false_of_isNaN hnan.1,
        Binary64.isZero_eq_false_of_isNaN hnan.2]
    · split at h
      next r q hr hq => exact isTruthy_eq_of_rank? hr hq h
      next => cases h
  next =>
    split at h
    next r q hr hq => exact isTruthy_eq_of_rank? hr hq h
    next => cases h

lemma text_same_iff {name : String} : (text name).same a = true ↔ a = .text name := by
  cases a with
  | text s =>
    rw [same, beq_iff_eq, Atom.text.injEq]
    exact eq_comm
  | _ => simp [same, rank?]

lemma bytes_same_iff {bs : List UInt8} : (bytes bs).same a = true ↔ a = .bytes bs := by
  cases a with
  | bytes cs =>
    rw [same, beq_iff_eq, Atom.bytes.injEq]
    exact eq_comm
  | _ => simp [same, rank?]

lemma same_bytes_iff {bs : List UInt8} : a.same (.bytes bs) = true ↔ a = .bytes bs := by
  cases a <;> simp [same, rank?]

lemma int_same_self (i : Int) : (int i).same (.int i) = true := by
  simp [same, rank?, Rank.notAfter]

end Atom

/-! ### Results -/

/-- Two results are there and in relation, or neither is there. -/
inductive Matched {α β : Type} (r : α → β → Prop) : Except Failure α → Except Failure β → Prop
  | ok {a : α} {b : β} (h : r a b) : Matched r (.ok a) (.ok b)
  | error {f g : Failure} : Matched r (.error f) (.error g)

namespace Matched

variable {α β : Type} {r q : α → β → Prop} {x : Except Failure α} {y : Except Failure β}

lemma of_eq {x y : Except Failure α} (h : x = y) : Matched Eq x y := by
  subst h
  cases x with
  | ok a => exact .ok rfl
  | error f => exact .error

lemma imp (h : Matched r x y) (himp : ∀ {a b}, r a b → q a b) : Matched q x y := by
  cases h with
  | ok h => exact .ok (himp h)
  | error => exact .error

lemma exists_or (h : Matched r x y) :
    (∃ a b, x = .ok a ∧ y = .ok b ∧ r a b) ∨ ∃ f g, x = .error f ∧ y = .error g := by
  cases h with
  | ok h => exact .inl ⟨_, _, rfl, rfl, h⟩
  | error => exact .inr ⟨_, _, rfl, rfl⟩

end Matched

/-! ### Values with parts -/

namespace Setting

open Settings (elements textOf texts)

variable {v w : Setting} {vs ws : List Setting} {ts : List String}

/-- Two settings are equal. -/
inductive Equal : Setting → Setting → Prop
  | atom {a b : Atom} (h : a.same b = true) : Equal (.atom a) (.atom b)
  | list {vs ws : List Setting} (h : List.Forall₂ Equal vs ws) : Equal (.list vs) (.list ws)
  | pair {k k' v v' : Setting} (hkey : Equal k k') (hvalue : Equal v v') :
      Equal (.pair k v) (.pair k' v')
  | set {as bs cs : List Atom} (h : List.Forall₂ (fun a b => a.same b = true) as bs)
      (hperm : bs.Perm cs) : Equal (.set as) (.set cs)
  | map {es fs gs : Settings} (hkeys : List.Forall₂ (fun a b => a.same b = true) es.keys fs.keys)
      (hvalues : List.Forall₂ Equal (es.map (·.2)) (fs.map (·.2))) (hperm : fs.Perm gs) :
      Equal (.map es) (.map gs)
  | cycle (isMap : Bool) : Equal (.cycle isMap) (.cycle isMap)

lemma isEmpty_eq_of_length_eq {α β : Type} {xs : List α} {ys : List β}
    (h : xs.length = ys.length) : xs.isEmpty = ys.isEmpty := by
  rw [Bool.eq_iff_iff, List.isEmpty_iff_length_eq_zero, List.isEmpty_iff_length_eq_zero, h]

/-- Equal settings switch the same things on. -/
lemma Equal.isTruthy_eq (h : Equal v w) : v.isTruthy = w.isTruthy := by
  cases h with
  | atom h => exact Atom.isTruthy_eq_of_same h
  | list h => exact congrArg (!·) (isEmpty_eq_of_length_eq h.length_eq)
  | pair hkey hvalue => rfl
  | set h hperm => exact congrArg (!·) (isEmpty_eq_of_length_eq (h.length_eq.trans hperm.length_eq))
  | map hkeys hvalues hperm =>
    have hlength := hkeys.length_eq
    rw [Settings.keys, Settings.keys, List.length_map, List.length_map] at hlength
    exact congrArg (!·) (isEmpty_eq_of_length_eq (hlength.trans hperm.length_eq))
  | cycle isMap => rfl

lemma text_equal_iff {name : String} : Equal (.text name) v ↔ v = .text name := by
  constructor
  · intro h
    cases h with
    | atom h => rw [Atom.text_same_iff.1 h]
  · rintro rfl
    exact .atom (Atom.text_same_iff.2 rfl)

lemma equal_text_iff {name : String} : Equal v (.text name) ↔ v = .text name := by
  constructor
  · intro h
    cases h with
    | atom h => rw [Atom.same_text_iff.1 h]
  · rintro rfl
    exact .atom (Atom.same_text_iff.2 rfl)

/-! ### Elements -/

lemma elements_atom_of_ne {a : Atom} (htext : ∀ s, a ≠ .text s) (hbytes : ∀ bs, a ≠ .bytes bs) :
    elements (.atom a) = .error .notList := by
  cases a with
  | text s => exact absurd rfl (htext s)
  | bytes bs => exact absurd rfl (hbytes bs)
  | _ => rfl

lemma forall₂_map_atom {as bs : List Atom} (h : List.Forall₂ (fun a b => a.same b = true) as bs) :
    List.Forall₂ Equal (as.map .atom) (bs.map .atom) :=
  List.forall₂_map_left_iff.2 (List.forall₂_map_right_iff.2 (h.imp fun _ _ => .atom))

/-- The same elements in the same order. -/
def EqualInOrder (v w : Setting) : Prop :=
  Matched (List.Forall₂ Equal) (elements v) (elements w)

lemma equalInOrder_atom {a b : Atom} (h : a.same b = true) :
    EqualInOrder (.atom a) (.atom b) := by
  by_cases htext : ∃ s, a = .text s
  · obtain ⟨s, rfl⟩ := htext
    rw [Atom.text_same_iff.1 h]
    refine .ok (List.forall₂_same.2 fun v hv => ?_)
    obtain ⟨c, -, rfl⟩ := List.mem_map.1 hv
    exact text_equal_iff.2 rfl
  by_cases hbytes : ∃ bs, a = .bytes bs
  · obtain ⟨bs, rfl⟩ := hbytes
    rw [Atom.bytes_same_iff.1 h]
    refine .ok (List.forall₂_same.2 fun v hv => ?_)
    obtain ⟨b, -, rfl⟩ := List.mem_map.1 hv
    exact .atom (Atom.int_same_self _)
  · rw [not_exists] at htext hbytes
    have htext' : ∀ s, b ≠ .text s := by
      rintro s rfl
      exact htext s (Atom.same_text_iff.1 h)
    have hbytes' : ∀ bs, b ≠ .bytes bs := by
      rintro bs rfl
      exact hbytes bs (Atom.same_bytes_iff.1 h)
    rw [EqualInOrder, elements_atom_of_ne htext hbytes, elements_atom_of_ne htext' hbytes']
    exact .error

/-- Only the elements of sets and the keys of maps may come in another order. -/
lemma Equal.equalInOrder (h : Equal v w) (hset : ∀ as, v ≠ .set as) (hmap : ∀ es, v ≠ .map es) :
    EqualInOrder v w := by
  cases h with
  | atom h => exact equalInOrder_atom h
  | list h => exact .ok h
  | pair hkey hvalue => exact .ok (.cons hkey (.cons hvalue .nil))
  | set => exact absurd rfl (hset _)
  | map => exact absurd rfl (hmap _)
  | cycle isMap => exact .error

/-- The elements of equal settings are equal but for their order. -/
lemma Equal.matched_elements (h : Equal v w) :
    Matched (fun vs ws => ∃ us, List.Forall₂ Equal vs us ∧ us.Perm ws) (elements v)
      (elements w) := by
  have hordered := h.equalInOrder
  cases h with
  | set h hperm => exact .ok ⟨_, forall₂_map_atom h, hperm.map _⟩
  | map hkeys hvalues hperm =>
    refine .ok ⟨_, ?_, hperm.map _⟩
    simpa [Settings.keys, Function.comp_def] using forall₂_map_atom hkeys
  | atom | list | pair | cycle =>
    exact (hordered (by simp) (by simp)).imp fun hequal => ⟨_, hequal, .refl _⟩

/-! ### Texts -/

lemma textOf_eq_ok_iff {t : String} : textOf v = .ok t ↔ v = .text t := by
  constructor
  · intro h
    unfold textOf at h
    split at h <;> cases h
    rfl
  · rintro rfl
    rfl

lemma mapM_textOf_eq_ok_iff : vs.mapM textOf = .ok ts ↔ vs = ts.map .text := by
  induction vs generalizing ts with
  | nil =>
    cases ts with
    | nil => exact ⟨fun _ => rfl, fun _ => rfl⟩
    | cons t ts => exact ⟨nofun, nofun⟩
  | cons v vs ih =>
    rw [List.mapM_cons]
    constructor
    · intro h
      cases hv : textOf v with
      | error f => simp [hv, bind, Except.bind] at h
      | ok t =>
        cases hvs : vs.mapM textOf with
        | error f => simp [hv, hvs, bind, Except.bind] at h
        | ok us =>
          rw [hv, hvs] at h
          cases h
          rw [List.map_cons, textOf_eq_ok_iff.1 hv, ih.1 hvs]
    · intro h
      obtain ⟨t, us, rfl, rfl, rfl⟩ := List.map_eq_cons_iff.1 h.symm
      rw [ih.2 rfl]
      rfl

lemma forall_text_iff_of_equal (h : List.Forall₂ Equal vs ws) :
    (∀ v ∈ vs, ∃ t, v = .text t) ↔ ∀ w ∈ ws, ∃ t, w = .text t := by
  induction h with
  | nil => simp
  | @cons v w vs ws h _ ih =>
    have hiff : (∃ t, v = .text t) ↔ ∃ t, w = .text t := by
      constructor
      · rintro ⟨t, rfl⟩
        exact ⟨t, text_equal_iff.1 h⟩
      · rintro ⟨t, rfl⟩
        exact ⟨t, equal_text_iff.1 h⟩
    rw [List.forall_mem_cons, List.forall_mem_cons, hiff, ih]

lemma eq_map_text_of_equal {us : List Setting} (h : List.Forall₂ Equal (ts.map .text) us) :
    us = ts.map .text := by
  induction ts generalizing us with
  | nil =>
    cases h
    rfl
  | cons t ts ih =>
    cases h with
    | cons h hs => rw [List.map_cons, ← ih hs, text_equal_iff.1 h]

lemma exists_eq_map_text (h : ∀ v ∈ vs, ∃ t, v = .text t) :
    ∃ ts : List String, vs = ts.map .text := by
  have hmem : vs ∈ Set.range (List.map Setting.text) := by
    rw [Set.range_list_map]
    intro v hv
    obtain ⟨t, rfl⟩ := h v hv
    exact ⟨t, rfl⟩
  obtain ⟨ts, rfl⟩ := hmem
  exact ⟨ts, rfl⟩

lemma mapM_textOf_eq_error (h : ¬ ∀ v ∈ vs, ∃ t, v = .text t) :
    ∃ f, vs.mapM textOf = .error f := by
  cases hts : vs.mapM textOf with
  | error f => exact ⟨f, rfl⟩
  | ok ts =>
    refine absurd ?_ h
    rw [mapM_textOf_eq_ok_iff.1 hts]
    intro v hv
    obtain ⟨t, -, rfl⟩ := List.mem_map.1 hv
    exact ⟨t, rfl⟩

/-- Equal settings hold the same texts, if they hold only texts. -/
lemma Equal.matched_texts (h : Equal v w) : Matched List.Perm (texts v) (texts w) := by
  unfold texts
  rcases h.matched_elements.exists_or with
    ⟨vs, ws, hvs, hws, us, hequal, hperm⟩ | ⟨f, g, hf, hg⟩
  · rw [hvs, hws]
    change Matched List.Perm (vs.mapM textOf) (ws.mapM textOf)
    have hiff : (∀ v ∈ vs, ∃ t, v = .text t) ↔ ∀ w ∈ ws, ∃ t, w = .text t := by
      simp only [forall_text_iff_of_equal hequal, hperm.mem_iff]
    by_cases htexts : ∀ v ∈ vs, ∃ t, v = .text t
    · obtain ⟨ts, rfl⟩ := exists_eq_map_text htexts
      obtain ⟨ts', rfl⟩ := exists_eq_map_text (hiff.1 htexts)
      rw [eq_map_text_of_equal hequal] at hperm
      rw [mapM_textOf_eq_ok_iff.2 rfl, mapM_textOf_eq_ok_iff.2 rfl]
      refine .ok ((List.map_perm_map_iff ?_).1 hperm)
      intro t t' heq
      cases heq
      rfl
    · obtain ⟨f, hf⟩ := mapM_textOf_eq_error htexts
      obtain ⟨g, hg⟩ := mapM_textOf_eq_error (mt hiff.2 htexts)
      rw [hf, hg]
      exact .error
  · rw [hf, hg]
    exact .error

end Setting

end Stylebook
