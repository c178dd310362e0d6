import Mathlib
import Stylebook.Proofs.Text.Cuts

/-!
# Collapsed texts

The words of a text are its maximal runs of characters that are not blank, and the collapsed text
has them one space apart. Collapsing a collapsed text changes nothing, and the strings that it
leaves alone are those that hold no blank but single spaces between words.
-/

namespace Stylebook.Text

variable {c : Char} {s r w : List Char}

/-! ### Words -/

@[simp] lemma isBlank_space : isBlank ' ' = true := by decide

lemma isBlank_of_isWordEnd (h : isWordEnd c = true) : isBlank c = true := by
  simp only [isWordEnd, Bool.or_eq_true, beq_iff_eq] at h
  rcases h with ((rfl | rfl) | rfl) | rfl <;> decide

lemma words_cons_blank (hc : isBlank c = true) (s : List Char) : words (c :: s) = words s := by
  simp [words, hc]

/-- A text that starts with a character of a word has a first word. -/
lemma words_ne_nil (h : isBlank (s.headD ' ') = false) : words s ≠ [] := by
  cases s with
  | nil => simp at h
  | cons x s =>
    rw [List.headD_cons] at h
    simp only [words, h, Bool.false_eq_true, ↓reduceIte]
    split
    · simp
    · cases words s <;> simp [extendFirst]

lemma extendFirst_append {ws vs : List (List Char)} (h : ws ≠ []) :
    extendFirst c (ws ++ vs) = extendFirst c ws ++ vs := by
  cases ws with
  | nil => exact absurd rfl h
  | cons w ws => rfl

/-- A blank ends a word wherever it stands. -/
lemma words_append_blank (hc : isBlank c = true) (s r : List Char) :
    words (s ++ c :: r) = words s ++ words r := by
  induction s with
  | nil => simp [words, hc]
  | cons x s ih =>
    rw [List.cons_append]
    by_cases hx : isBlank x = true
    · rw [words_cons_blank hx, words_cons_blank hx, ih]
    · have hhead : isBlank ((s ++ c :: r).headD ' ') = isBlank (s.headD ' ') := by
        cases s with
        | nil => simp [hc]
        | cons y s => rfl
      simp only [words, hx, hhead, Bool.false_eq_true, ↓reduceIte, ih]
      split
      · rfl
      · rename_i hs
        exact extendFirst_append (words_ne_nil (by simpa using hs))

lemma words_blanks_append {a : List Char} (ha : ∀ x ∈ a, isBlank x = true) (r : List Char) :
    words (a ++ r) = words r := by
  induction a with
  | nil => rfl
  | cons x a ih =>
    obtain ⟨hx, ha⟩ := List.forall_mem_cons.1 ha
    rw [List.cons_append, words_cons_blank hx, ih ha]

lemma words_append_blanks {a : List Char} (ha : ∀ x ∈ a, isBlank x = true) (s : List Char) :
    words (s ++ a) = words s := by
  cases a with
  | nil => rw [List.append_nil]
  | cons x a =>
    obtain ⟨hx, ha⟩ := List.forall_mem_cons.1 ha
    have hnone : words a = [] := by simpa [words] using words_blanks_append ha []
    rw [words_append_blank hx, hnone, List.append_nil]

/-- What keeps words apart: one or more blanks. -/
structure IsGap (a : List Char) : Prop where
  ne_nil : a ≠ []
  blank : ∀ x ∈ a, isBlank x = true

lemma IsGap.words_append {a : List Char} (ha : IsGap a) (s r : List Char) :
    words (s ++ (a ++ r)) = words s ++ words r := by
  obtain ⟨x, a, rfl⟩ := List.exists_cons_of_ne_nil ha.ne_nil
  obtain ⟨hx, hblank⟩ := List.forall_mem_cons.1 ha.blank
  rw [List.cons_append, words_append_blank hx, words_blanks_append hblank]

lemma extendFirst_forall {P : List Char → Prop} {ws : List (List Char)} (hone : P [c])
    (hcons : ∀ w ∈ ws, P (c :: w)) (h : ∀ w ∈ ws, P w) : ∀ w ∈ extendFirst c ws, P w := by
  cases ws with
  | nil => simpa [extendFirst] using hone
  | cons w ws =>
    intro v hv
    rcases List.mem_cons.1 hv with rfl | hv
    · exact hcons w List.mem_cons_self
    · exact h v (List.mem_cons_of_mem _ hv)

/-- A word is not empty and holds no blank. -/
def IsWord (w : List Char) : Prop :=
  w ≠ [] ∧ ∀ x ∈ w, isBlank x = false

lemma isWord_of_mem_words (s : List Char) : ∀ w ∈ words s, IsWord w := by
  induction s with
  | nil => simp [words]
  | cons x s ih =>
    by_cases hx : isBlank x = true
    · rwa [words_cons_blank hx]
    · have hone : IsWord [x] := ⟨by simp, by simpa using hx⟩
      simp only [words, hx, Bool.false_eq_true, ↓reduceIte]
      split
      · intro w hw
        rcases List.mem_cons.1 hw with rfl | hw
        · exact hone
        · exact ih w hw
      · refine extendFirst_forall hone (fun w hw => ⟨by simp, ?_⟩) ih
        intro y hy
        rcases List.mem_cons.1 hy with rfl | hy
        · simpa using hx
        · exact (ih w hw).2 y hy

lemma words_of_isWord (h : IsWord w) : words w = [w] := by
  obtain ⟨hne, hw⟩ := h
  induction w with
  | nil => exact absurd rfl hne
  | cons x w ih =>
    have hx : isBlank x = false := hw x List.mem_cons_self
    cases w with
    | nil => simp [words, hx]
    | cons y w =>
      have hy : isBlank y = false := hw y (by simp)
      have htail : words (y :: w) = [y :: w] :=
        ih (by simp) fun z hz => hw z (List.mem_cons_of_mem _ hz)
      rw [words]
      simp [hx, hy, htail, extendFirst]

lemma words_intercalate {ws : List (List Char)} (h : ∀ w ∈ ws, IsWord w) :
    words (List.intercalate [' '] ws) = ws := by
  induction ws with
  | nil => rfl
  | cons w ws ih =>
    have hw : words w = [w] := words_of_isWord (h w List.mem_cons_self)
    cases ws with
    | nil => simpa using hw
    | cons v ws =>
      rw [List.intercalate_cons_cons, List.append_assoc, List.singleton_append,
        words_append_blank isBlank_space, hw, ih fun u hu => h u (List.mem_cons_of_mem _ hu)]
      rfl

/-! ### Collapsing -/

lemma words_collapse (s : List Char) : words (collapse s) = words s :=
  words_intercalate (isWord_of_mem_words s)

theorem collapse_collapse (s : List Char) : collapse (collapse s) = collapse s := by
  rw [collapse, words_collapse, collapse]

lemma intercalate_forall {P : Char → Prop} {sep : List Char} {ws : List (List Char)}
    (hsep : ∀ x ∈ sep, P x) (h : ∀ w ∈ ws, ∀ x ∈ w, P x) :
    ∀ x ∈ List.intercalate sep ws, P x := by
  induction ws with
  | nil => simp
  | cons w ws ih =>
    have hw : ∀ x ∈ w, P x := h w List.mem_cons_self
    have hws : ∀ v ∈ ws, ∀ x ∈ v, P x := fun v hv => h v (List.mem_cons_of_mem _ hv)
    cases ws with
    | nil => simpa using hw
    | cons v ws =>
      rw [List.intercalate_cons_cons]
      intro x hx
      rcases List.mem_append.1 hx with hx | hx
      · rcases List.mem_append.1 hx with hx | hx
        · exact hw x hx
        · exact hsep x hx
      · exact ih hws x hx

/-- The only blank in a collapsed text is the space. -/
lemma eq_space_of_mem_collapse {x : Char} (hx : x ∈ collapse s) (hb : isBlank x = true) :
    x = ' ' := by
  have h : ∀ y ∈ collapse s, isBlank y = true → y = ' ' :=
    intercalate_forall (by simp) fun w hw y hy hyb =>
      absurd hyb (by simp [(isWord_of_mem_words s w hw).2 y hy])
  exact h x hx hb

/-- A collapsed text does not start with a blank. -/
lemma isBlank_of_head?_collapse {x : Char} (hx : (collapse s).head? = some x) :
    isBlank x = false := by
  have hword := isWord_of_mem_words s
  rw [collapse] at hx
  cases hw : words s with
  | nil => simp [hw] at hx
  | cons w ws =>
    rw [hw] at hx hword
    obtain ⟨hne, hall⟩ := hword w List.mem_cons_self
    obtain ⟨y, w, rfl⟩ := List.exists_cons_of_ne_nil hne
    have hyx : y = x := by
      cases ws with
      | nil => simpa using hx
      | cons v ws => simpa [List.intercalate_cons_cons] using hx
    exact hyx ▸ hall y List.mem_cons_self

lemma mem_of_mem_words (s : List Char) : ∀ w ∈ words s, ∀ x ∈ w, x ∈ s := by
  induction s with
  | nil => simp [words]
  | cons c s ih =>
    have htail : ∀ w ∈ words s, ∀ x ∈ w, x ∈ c :: s := fun w hw x hx =>
      List.mem_cons_of_mem c (ih w hw x hx)
    rw [words]
    split
    · exact htail
    · split
      · simpa using htail
      · refine extendFirst_forall (by simp) (fun w hw x hx => ?_) htail
        rcases List.mem_cons.1 hx with rfl | hx
        · exact List.mem_cons_self
        · exact htail w hw x hx

/-- Collapsing adds no character but the space. -/
lemma mem_of_mem_collapse {x : Char} (hx : x ∈ collapse s) (hne : x ≠ ' ') : x ∈ s := by
  have h : ∀ y ∈ collapse s, y ≠ ' ' → y ∈ s :=
    intercalate_forall (by simp) fun w hw y hy _ => mem_of_mem_words s w hw y hy
  exact h x hx hne

/-! ### Single spaces -/

/-- A text without blanks but single spaces between its words. -/
structure IsSpaced (s : List Char) : Prop where
  eq_space : ∀ x ∈ s, isBlank x = true → x = ' '
  head : s.head? ≠ some ' '
  last : s.getLast? ≠ some ' '
  single : ¬ [' ', ' '] <:+: s

lemma IsSpaced.isBlank_head (h : IsSpaced s) (hc : c ∈ s.head?) : isBlank c = false := by
  by_contra hblank
  have hspace : c = ' ' := h.eq_space c (List.mem_of_mem_head? hc) (by simpa using hblank)
  exact h.head (hspace ▸ hc)

lemma IsSpaced.isBlank_last (h : IsSpaced s) (hc : c ∈ s.getLast?) : isBlank c = false := by
  by_contra hblank
  have hspace : c = ' ' := h.eq_space c (List.mem_of_mem_getLast? hc) (by simpa using hblank)
  exact h.last (hspace ▸ hc)

lemma intercalate_extendFirst (sep : List Char) (c : Char) (ws : List (List Char)) :
    List.intercalate sep (extendFirst c ws) = c :: List.intercalate sep ws := by
  match ws with
  | [] => rfl
  | [w] => simp [extendFirst]
  | w :: v :: ws => simp [extendFirst, List.intercalate_cons_cons]

/-- A collapsed text is not longer than the text, and shorter if the text starts with a blank. -/
lemma length_collapse_le (s : List Char) : (collapse s).length ≤ s.length ∧
    (isBlank (s.headD ' ') = true → (collapse s).length ≤ s.length - 1) := by
  induction s with
  | nil => simp [collapse, words]
  | cons c s ih =>
    obtain ⟨hle, hblank⟩ := ih
    by_cases hc : isBlank c = true
    · rw [collapse, words_cons_blank hc, ← collapse, List.length_cons]
      exact ⟨by omega, fun _ => by omega⟩
    · refine ⟨?_, fun hhead => absurd hhead hc⟩
      rw [collapse, words, if_neg hc]
      split
      · rename_i hnext
        have hshort := hblank hnext
        cases hw : words s with
        | nil => simp
        | cons w ws =>
          have hne : s ≠ [] := by
            rintro rfl
            cases hw
          have hpos := List.length_pos_iff.2 hne
          rw [List.intercalate_cons_cons, ← hw, ← collapse]
          simp only [List.length_append, List.length_cons, List.length_nil]
          omega
      · rw [intercalate_extendFirst, ← collapse]
        simpa using hle

/-- A text that has the words of a shorter text is not collapsed. -/
lemma collapse_ne_of_words_eq (h : words s = words r) (hlt : r.length < s.length) :
    collapse s ≠ s := by
  intro heq
  have hlength := (length_collapse_le r).1
  rw [collapse, ← h, ← collapse, heq] at hlength
  omega

lemma isSpaced_of_collapse_eq (h : collapse s = s) : IsSpaced s where
  eq_space := by
    intro x hx hblank
    rw [← h] at hx
    exact eq_space_of_mem_collapse hx hblank
  head := by
    intro hhead
    obtain ⟨r, rfl⟩ := List.head?_eq_some_iff.1 hhead
    exact collapse_ne_of_words_eq (words_cons_blank isBlank_space r) (by simp) h
  last := by
    intro hlast
    obtain ⟨r, rfl⟩ := List.getLast?_eq_some_iff.1 hlast
    have hwords : words (r ++ [' ']) = words r := by
      rw [words_append_blank isBlank_space]
      simp [words]
    exact collapse_ne_of_words_eq hwords (by simp) h
  single := by
    rintro ⟨a, b, rfl⟩
    have hwords : words (a ++ [' ', ' '] ++ b) = words (a ++ ' ' :: b) := by
      rw [List.append_assoc, List.cons_append, List.cons_append, List.nil_append,
        words_append_blank isBlank_space, words_cons_blank isBlank_space,
        words_append_blank isBlank_space]
    exact collapse_ne_of_words_eq hwords (by simp) h

/-- A part of a text that begins and ends at spaces of the text or at its ends. -/
lemma IsSpaced.part {a t b : List Char} (h : IsSpaced (a ++ (t ++ b)))
    (ha : a = [] ∨ [' '] <:+ a) (hb : b = [] ∨ [' '] <+: b) : IsSpaced t where
  eq_space := fun x hx => h.eq_space x (by simp [hx])
  head := by
    intro hhead
    obtain ⟨r, rfl⟩ := List.head?_eq_some_iff.1 hhead
    rcases ha with rfl | ⟨a, rfl⟩
    · exact h.head (by simp)
    · exact h.single ⟨a, r ++ b, by simp⟩
  last := by
    intro hlast
    obtain ⟨r, rfl⟩ := List.getLast?_eq_some_iff.1 hlast
    rcases hb with rfl | ⟨b, rfl⟩
    · exact h.last (by simp)
    · exact h.single ⟨a ++ r, b, by simp⟩
  single := by
    intro hsingle
    exact h.single (hsingle.trans ⟨a, b, by simp⟩)

lemma IsSpaced.collapse_eq (h : IsSpaced s) : collapse s = s := by
  -- The first word and the space behind it are taken off.
  induction hlength : s.length using Nat.strong_induction_on generalizing s with
  | _ n ih =>
    rcases first_stop_or_forall isBlank s with ⟨a, c, b, rfl, ha, hc⟩ | hall
    · obtain rfl : c = ' ' := h.eq_space c (by simp) hc
      have hane : a ≠ [] := by
        rintro rfl
        exact h.head rfl
      have hbne : b ≠ [] := by
        rintro rfl
        exact h.last (by simp)
      have hb : IsSpaced b := by
        refine IsSpaced.part (a := a ++ [' ']) (b := []) (by simpa using h) (Or.inr ?_) (Or.inl rfl)
        exact List.suffix_append a _
      have hcollapse : collapse b = b := by
        refine ih b.length ?_ hb rfl
        simp only [List.length_append, List.length_cons] at hlength
        omega
      have hwords : words b ≠ [] := by
        intro hnil
        rw [collapse, hnil] at hcollapse
        exact hbne hcollapse.symm
      obtain ⟨v, vs, hvs⟩ := List.exists_cons_of_ne_nil hwords
      rw [collapse, words_append_blank isBlank_space, words_of_isWord ⟨hane, ha⟩, hvs,
        List.singleton_append, List.intercalate_cons_cons, ← hvs, ← collapse, hcollapse]
      simp
    · by_cases hs : s = []
      · subst hs
        rfl
      · rw [collapse, words_of_isWord ⟨hs, hall⟩]
        simp

/-! ### Normal strings -/

/-- A string that is its own collapsed form. -/
def IsNormal (s : String) : Prop :=
  normalize s = s

instance (s : String) : Decidable (IsNormal s) :=
  inferInstanceAs (Decidable (normalize s = s))

namespace IsNormal

variable {s : String}

lemma collapse_toList (h : IsNormal s) : collapse s.toList = s.toList := by
  have := congrArg String.toList h
  simpa [normalize] using this

lemma eq_space (h : IsNormal s) {x : Char} (hx : x ∈ s.toList) (hb : isBlank x = true) :
    x = ' ' := by
  rw [← h.collapse_toList] at hx
  exact eq_space_of_mem_collapse hx hb

lemma isBlank_head (h : IsNormal s) {x : Char} (hx : x ∈ s.toList.head?) : isBlank x = false := by
  rw [← h.collapse_toList] at hx
  exact isBlank_of_head?_collapse hx

/-- A normal string holds no blank other than the space. -/
lemma not_mem (h : IsNormal s) {x : Char} (hb : isBlank x = true) (hx : x ≠ ' ') :
    x ∉ s.toList :=
  fun hm => hx (h.eq_space hm hb)

end IsNormal

/-- The normal strings are those without blanks but single spaces between words. -/
lemma isNormal_iff_isSpaced {s : String} : IsNormal s ↔ IsSpaced s.toList := by
  constructor
  · intro h
    exact isSpaced_of_collapse_eq h.collapse_toList
  · intro h
    rw [IsNormal, normalize, h.collapse_eq, String.ofList_toList]

end Stylebook.Text
