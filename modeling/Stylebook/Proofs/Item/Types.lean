import Mathlib
import Stylebook.Item.Reader
import Stylebook.Proofs.Text.Collapsed
import Stylebook.Proofs.Text.Cuts

/-!
# Groups of types

A group of types is written in braces with a bar between each two types. A bar separates only with
a space on either side, so a type may hold bars of its own, as long as none of them can be taken for
a separator. Reading a written group gives its types back.
-/

namespace Stylebook.Item

open Text

variable {c : Char} {s r t : List Char} {types : List String}

/-! ### Splitting at bars -/

/-- What stands between two types. -/
def bar : List Char := [' ', '|', ' ']

lemma splitTypes_ne_nil (s : List Char) : splitTypes s ≠ [] := by
  fun_cases splitTypes s with
  | case1 => simp
  | case2 => simp
  | case3 c s => cases splitTypes s <;> simp [extendFirst]

lemma splitTypes_bar (r : List Char) : splitTypes (bar ++ r) = [] :: splitTypes r := by
  simp [bar, splitTypes]

/-- A character that does not open a separator belongs to the first type. -/
lemma splitTypes_cons (h : ¬ bar <+: c :: s) :
    splitTypes (c :: s) = extendFirst c (splitTypes s) := by
  rw [splitTypes.eq_def]
  split
  · contradiction
  · rename_i r heq
    exact absurd ⟨r, heq.symm⟩ h
  · rename_i heq
    cases heq
    rfl

lemma splitTypes_of_no_bar (h : ¬ bar <:+: t) : splitTypes t = [t] := by
  induction t with
  | nil => rfl
  | cons c t ih =>
    have htail : ¬ bar <:+: t := fun ht => h (List.infix_cons ht)
    rw [splitTypes_cons fun hp => h hp.isInfix, ih htail]
    rfl

/-- The first separator ends the first type. The type may end with neither a separator nor the
beginning of one that the space behind it would complete. -/
lemma splitTypes_append_bar (h : ¬ bar <:+: t ++ [' ', '|']) (r : List Char) :
    splitTypes (t ++ (bar ++ r)) = t :: splitTypes r := by
  induction t with
  | nil => exact splitTypes_bar r
  | cons c t ih =>
    have htail : ¬ bar <:+: t ++ [' ', '|'] := fun ht => h (List.infix_cons ht)
    have hhead : ¬ bar <+: c :: (t ++ (bar ++ r)) := by
      intro hp
      have hsplit : c :: (t ++ (bar ++ r)) = (c :: t ++ [' ', '|']) ++ (' ' :: r) := by
        simp [bar]
      rw [hsplit] at hp
      have hle : bar.length ≤ (c :: t ++ [' ', '|']).length := by simp [bar]
      exact h (List.prefix_of_prefix_length_le hp (List.prefix_append _ _) hle).isInfix
    rw [List.cons_append, splitTypes_cons hhead, ih htail]
    rfl

/-- The types of a text with bars between them are the text again. -/
lemma intercalate_splitTypes (s : List Char) : List.intercalate bar (splitTypes s) = s := by
  fun_induction splitTypes s with
  | case1 => rfl
  | case2 s ih =>
    obtain ⟨t, ts, hts⟩ := List.exists_cons_of_ne_nil (splitTypes_ne_nil s)
    rw [hts, List.intercalate_cons_cons, ← hts, ih]
    rfl
  | case3 c s _ ih => rw [intercalate_extendFirst, ih]

/-- A part of a joined text begins behind a separator or at the start of the text, and ends before a
separator or at its end. -/
lemma exists_of_mem_intercalate {sep : List Char} {ws : List (List Char)} (h : t ∈ ws) :
    ∃ a b, List.intercalate sep ws = a ++ (t ++ b) ∧ (a = [] ∨ sep <:+ a) ∧
      (b = [] ∨ sep <+: b) := by
  induction ws with
  | nil => cases h
  | cons w ws ih =>
    cases ws with
    | nil =>
      obtain rfl := List.mem_singleton.1 h
      exact ⟨[], [], by simp, Or.inl rfl, Or.inl rfl⟩
    | cons v ws =>
      rw [List.intercalate_cons_cons]
      rcases List.mem_cons.1 h with rfl | h
      · exact ⟨[], sep ++ List.intercalate sep (v :: ws), by simp, Or.inl rfl,
          Or.inr (List.prefix_append sep _)⟩
      · obtain ⟨a, b, hab, ha, hb⟩ := ih h
        refine ⟨w ++ sep ++ a, b, by simp [hab], Or.inr ?_, hb⟩
        rcases ha with rfl | ha
        · simp
        · exact ha.trans (List.suffix_append _ a)

/-- A type of a group stands between separators, or at an end of the group. -/
lemma exists_of_mem_splitTypes (ht : t ∈ splitTypes s) :
    ∃ a b, s = a ++ (t ++ b) ∧ (a = [] ∨ bar <:+ a) ∧ (b = [] ∨ bar <+: b) := by
  rw [← intercalate_splitTypes s]
  exact exists_of_mem_intercalate ht

/-- Each type of a collapsed group is collapsed. -/
lemma isSpaced_of_mem_splitTypes (h : IsSpaced s) (ht : t ∈ splitTypes s) : IsSpaced t := by
  obtain ⟨a, b, rfl, ha, hb⟩ := exists_of_mem_splitTypes ht
  -- A separator ends and begins with a space.
  refine h.part (ha.imp_right ?_) (hb.imp_right ?_)
  · exact List.IsSuffix.trans ⟨[' ', '|'], rfl⟩
  · exact List.IsPrefix.trans ⟨['|', ' '], rfl⟩

/-! ### Written groups -/

/-- The types of a group with a bar between each two. -/
def joinTypes (types : List String) : List Char :=
  List.intercalate bar (types.map String.toList)

/-- A group of types in braces. -/
def typeGroup (types : List String) : List Char :=
  '{' :: joinTypes types ++ ['}']

/-- A type that can stand in a group: normal, with no separator and no closing brace in it. -/
structure IsType (t : String) : Prop where
  normal : IsNormal t
  ne_empty : t ≠ ""
  no_brace : '}' ∉ t.toList
  no_bar : ¬ bar <:+: t.toList

/-- Types with bars between them. Only the last one may end with a bar behind a space. -/
inductive AreTypes : List String → Prop where
  | one {t : String} (ht : IsType t) : AreTypes [t]
  | cons {t u : String} {types : List String} (ht : IsType t) (hend : ¬ [' ', '|'] <:+ t.toList)
      (h : AreTypes (u :: types)) : AreTypes (t :: u :: types)

/-- Types that can be written as a group; an empty group has one type without a name. -/
def IsGroup (types : List String) : Prop :=
  types = [""] ∨ AreTypes types

instance (t : String) : Decidable (IsType t) :=
  decidable_of_iff (IsNormal t ∧ t ≠ "" ∧ '}' ∉ t.toList ∧ ¬ bar <:+: t.toList)
    ⟨fun ⟨h₁, h₂, h₃, h₄⟩ => ⟨h₁, h₂, h₃, h₄⟩, fun ⟨h₁, h₂, h₃, h₄⟩ => ⟨h₁, h₂, h₃, h₄⟩⟩

instance decidableAreTypes : (types : List String) → Decidable (AreTypes types)
  | [] => .isFalse nofun
  | [t] => decidable_of_iff (IsType t) ⟨.one, fun | .one ht => ht⟩
  | t :: u :: types =>
    have := decidableAreTypes (u :: types)
    decidable_of_iff (IsType t ∧ ¬ [' ', '|'] <:+ t.toList ∧ AreTypes (u :: types))
      ⟨fun ⟨ht, hend, h⟩ => .cons ht hend h, fun | .cons ht hend h => ⟨ht, hend, h⟩⟩

instance (types : List String) : Decidable (IsGroup types) :=
  inferInstanceAs (Decidable (_ ∨ _))

lemma joinTypes_cons_cons (t u : String) (types : List String) :
    joinTypes (t :: u :: types) = t.toList ++ (bar ++ joinTypes (u :: types)) := by
  simp [joinTypes, List.intercalate_cons_cons]

@[simp] lemma joinTypes_singleton (t : String) : joinTypes [t] = t.toList := by
  simp [joinTypes]

/-- A separator in a type followed by the beginning of a separator lies inside the type, or the type
ends with the beginning of one. -/
lemma not_infix_append_bar (h : ¬ bar <:+: t) (hend : ¬ [' ', '|'] <:+ t) :
    ¬ bar <:+: t ++ [' ', '|'] := by
  induction t with
  | nil => decide
  | cons c t ih =>
    have htail : ¬ bar <:+: t := fun ht => h (List.infix_cons ht)
    have hendtail : ¬ [' ', '|'] <:+ t := fun ht => hend (ht.trans (List.suffix_cons _ _))
    rw [List.cons_append, List.infix_cons_iff, not_or]
    refine ⟨?_, ih htail hendtail⟩
    rintro ⟨u, hu⟩
    match t with
    | [] => simp [bar] at hu
    | [d] =>
      simp only [bar, List.cons_append, List.nil_append, List.cons.injEq] at hu
      obtain ⟨rfl, rfl, -⟩ := hu
      exact hend List.suffix_rfl
    | d :: e :: t =>
      simp only [bar, List.cons_append, List.nil_append, List.cons.injEq] at hu
      obtain ⟨rfl, rfl, rfl, -⟩ := hu
      exact h (List.IsPrefix.isInfix ⟨t, rfl⟩)

lemma splitTypes_joinTypes (h : IsGroup types) :
    splitTypes (joinTypes types) = types.map String.toList := by
  rcases h with rfl | h
  · rfl
  · induction h with
    | one ht => simp [splitTypes_of_no_bar ht.no_bar]
    | cons ht hend _ ih =>
      rw [joinTypes_cons_cons, splitTypes_append_bar (not_infix_append_bar ht.no_bar hend), ih]
      rfl

/-! ### Reading a written group -/

lemma intercalate_append {sep : List Char} {ws vs : List (List Char)} (hw : ws ≠ [])
    (hv : vs ≠ []) :
    List.intercalate sep (ws ++ vs) =
      List.intercalate sep ws ++ (sep ++ List.intercalate sep vs) := by
  induction ws with
  | nil => exact absurd rfl hw
  | cons w ws ih =>
    cases ws with
    | nil =>
      obtain ⟨v, vs, rfl⟩ := List.exists_cons_of_ne_nil hv
      simp [List.intercalate_cons_cons]
    | cons u ws =>
      have := ih (by simp)
      simp only [List.cons_append, List.intercalate_cons_cons, List.append_assoc] at this ⊢
      rw [this]

/-- Words on both sides of a bar stay apart, and the bar is a word of its own. -/
lemma words_append_gaps {a b : List Char} (ha : IsGap a) (hb : IsGap b) (s r : List Char) :
    words (s ++ (a ++ '|' :: (b ++ r))) = words s ++ ([['|']] ++ words r) := by
  have hbar : words ('|' :: (b ++ r)) = [['|']] ++ words r := hb.words_append ['|'] r
  rw [ha.words_append, hbar]

lemma isGap_space : IsGap [' '] where
  ne_nil := by simp
  blank := by simp

lemma words_append_bar (s r : List Char) :
    words (s ++ (bar ++ r)) = words s ++ ([['|']] ++ words r) :=
  words_append_gaps isGap_space isGap_space s r

lemma collapse_append_bar (hs : words s ≠ []) (hr : words r ≠ []) :
    collapse (s ++ (bar ++ r)) = collapse s ++ (bar ++ collapse r) := by
  simp only [collapse, words_append_bar]
  rw [intercalate_append hs (by simp), intercalate_append (by simp) hr]
  simp [bar]

lemma IsType.words_ne_nil {t : String} (h : IsType t) : words t.toList ≠ [] := by
  intro hw
  have hcollapse := h.normal.collapse_toList
  rw [collapse, hw] at hcollapse
  exact h.ne_empty (String.toList_eq_nil_iff.1 hcollapse.symm)

lemma AreTypes.words_ne_nil (h : AreTypes types) : words (joinTypes types) ≠ [] := by
  cases h with
  | one ht => simpa using ht.words_ne_nil
  | cons ht =>
    rw [joinTypes_cons_cons, bar, List.cons_append, words_append_blank isBlank_space]
    exact List.append_ne_nil_of_left_ne_nil ht.words_ne_nil _

lemma collapse_joinTypes (h : IsGroup types) : collapse (joinTypes types) = joinTypes types := by
  rcases h with rfl | h
  · rfl
  · induction h with
    | one ht => simpa using ht.normal.collapse_toList
    | cons ht _ h ih =>
      rw [joinTypes_cons_cons, collapse_append_bar ht.words_ne_nil h.words_ne_nil, ih,
        ht.normal.collapse_toList]

/-- A type of a group is normal and holds no closing brace. -/
lemma IsGroup.forall_type (h : IsGroup types) : ∀ t ∈ types, IsNormal t ∧ '}' ∉ t.toList := by
  rcases h with rfl | h
  · decide
  · induction h with
    | one ht => simpa using ⟨ht.normal, ht.no_brace⟩
    | cons ht _ _ ih =>
      intro v hv
      rcases List.mem_cons.1 hv with rfl | hv
      · exact ⟨ht.normal, ht.no_brace⟩
      · exact ih v hv

/-- A written group holds neither a closing brace nor a blank other than the space. -/
lemma IsGroup.not_mem_joinTypes (h : IsGroup types) {x : Char}
    (hx : x = '}' ∨ isBlank x = true ∧ x ≠ ' ') : x ∉ joinTypes types := by
  have hall : ∀ y ∈ joinTypes types, y ≠ x := by
    refine intercalate_forall ?_ ?_
    · rintro y hy rfl
      rcases hx with rfl | ⟨hb, hs⟩
      · simp [bar] at hy
      · simp only [bar, List.mem_cons, List.not_mem_nil, or_false] at hy
        rcases hy with rfl | rfl | rfl
        · exact hs rfl
        · simp [isBlank] at hb
        · exact hs rfl
    · rintro w hw y hy rfl
      obtain ⟨t, ht, rfl⟩ := List.mem_map.1 hw
      obtain ⟨hn, hbrace⟩ := h.forall_type t ht
      rcases hx with rfl | ⟨hb, hs⟩
      · exact hbrace hy
      · exact hn.not_mem hb hs hy
  exact fun hm => hall x hm rfl

lemma skipSpaces_typeGroup (types : List String) (r : List Char) :
    skipSpaces (typeGroup types ++ r) = typeGroup types ++ r := by
  rw [typeGroup, List.cons_append, List.cons_append, skipSpaces_cons (by decide)]

lemma readTypes_braces {g : List Char} (hg : '}' ∉ g) (r : List Char) :
    readTypes ('{' :: (g ++ '}' :: r)) =
      .ok ((splitTypes (collapse g)).map String.ofList, r) := by
  have hbrace : isSpaceOrTab '{' = false := by decide
  simp [readTypes, skipSpaces_cons hbrace, cutAt?_append_char hg r]

theorem readTypes_typeGroup (h : IsGroup types) (r : List Char) :
    readTypes (typeGroup types ++ r) = .ok (types, r) := by
  have htext : typeGroup types ++ r = '{' :: (joinTypes types ++ '}' :: r) := by simp [typeGroup]
  rw [htext, readTypes_braces (h.not_mem_joinTypes (Or.inl rfl)), collapse_joinTypes h,
    splitTypes_joinTypes h]
  simp

end Stylebook.Item
