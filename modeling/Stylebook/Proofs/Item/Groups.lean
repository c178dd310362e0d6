import Mathlib
import Stylebook.Proofs.Item.Types

/-!
# Splitting groups of types

Whatever stands in a group, its types with bars between them are the collapsed text of the group,
and no type holds a separator. A bar at either end of a group or without a space on both sides
belongs to a type, and of two bars that share a space only the first one separates. Types without
bars are read back from every way to write them, with any blanks around the bars.
-/

namespace Stylebook.Item

open Text

variable {s t a b g : List Char} {types : List String}

/-! ### Types of any group -/

/-- The first type of a group begins the group. -/
lemma prefix_of_splitTypes {ts : List (List Char)} (h : splitTypes s = t :: ts) : t <+: s := by
  rw [← intercalate_splitTypes s, h]
  cases ts with
  | nil => simp
  | cons u ts =>
    rw [List.intercalate_cons_cons, List.append_assoc]
    exact List.prefix_append t _

lemma not_infix_of_mem_splitTypes (s : List Char) : ∀ t ∈ splitTypes s, ¬ bar <:+: t := by
  fun_induction splitTypes s with
  | case1 =>
    intro t ht
    rw [List.mem_singleton.1 ht]
    decide
  | case2 s ih =>
    intro t ht
    rcases List.mem_cons.1 ht with rfl | ht
    · decide
    · exact ih t ht
  | case3 c s hbar ih =>
    obtain ⟨w, ws, hws⟩ := List.exists_cons_of_ne_nil (splitTypes_ne_nil s)
    rw [hws] at ih ⊢
    intro t ht
    rcases List.mem_cons.1 ht with rfl | ht
    · rw [List.infix_cons_iff, not_or]
      refine ⟨?_, ih w List.mem_cons_self⟩
      -- A separator at the start of the first type would be one at the start of the group.
      intro hp
      obtain ⟨u, hu⟩ := hp.trans (List.cons_prefix_cons.2 ⟨rfl, prefix_of_splitTypes hws⟩)
      cases hu
      exact hbar u rfl rfl
    · exact ih t (List.mem_cons_of_mem _ ht)

/-- A type that another one follows does not end with a bar behind a space, since that bar would
have been the separator. -/
lemma isChain_splitTypes (s : List Char) :
    (splitTypes s).IsChain fun t _ => ¬ [' ', '|'] <:+ t := by
  fun_induction splitTypes s with
  | case1 => simp
  | case2 s ih =>
    obtain ⟨w, ws, hws⟩ := List.exists_cons_of_ne_nil (splitTypes_ne_nil s)
    rw [hws] at ih ⊢
    exact List.isChain_cons_cons.2 ⟨by decide, ih⟩
  | case3 c s hbar ih =>
    obtain ⟨w, ws, hws⟩ := List.exists_cons_of_ne_nil (splitTypes_ne_nil s)
    have hjoined : List.intercalate bar (w :: ws) = s := by rw [← hws, intercalate_splitTypes]
    rw [hws] at ih ⊢
    cases ws with
    | nil => simp [extendFirst]
    | cons u us =>
      obtain ⟨hw, hrest⟩ := List.isChain_cons_cons.1 ih
      refine List.isChain_cons_cons.2 ⟨?_, hrest⟩
      rw [List.suffix_cons_iff, not_or]
      refine ⟨?_, hw⟩
      intro heq
      cases heq
      rw [List.intercalate_cons_cons] at hjoined
      exact hbar _ rfl hjoined.symm

/-- Only an empty group has a type without a name. -/
lemma eq_nil_of_nil_mem_splitTypes (h : IsSpaced s) (hmem : [] ∈ splitTypes s) : s = [] := by
  obtain ⟨a, b, rfl, ha, hb⟩ := exists_of_mem_splitTypes hmem
  rcases ha with rfl | ⟨a, rfl⟩
  · rcases hb with rfl | ⟨b, rfl⟩
    · rfl
    · exact absurd (by simp [bar]) h.head
  · rcases hb with rfl | ⟨b, rfl⟩
    · exact absurd (by simp [bar]) h.last
    · exact absurd ⟨a ++ [' ', '|'], '|' :: ' ' :: b, by simp [bar]⟩ h.single

lemma splitTypes_intercalate {ts : List (List Char)} (hne : ts ≠ [])
    (hbar : ∀ t ∈ ts, ¬ bar <:+: t) (hchain : ts.IsChain fun t _ => ¬ [' ', '|'] <:+ t) :
    splitTypes (List.intercalate bar ts) = ts := by
  induction ts with
  | nil => exact absurd rfl hne
  | cons t ts ih =>
    obtain ⟨ht, hts⟩ := List.forall_mem_cons.1 hbar
    cases ts with
    | nil => simp [splitTypes_of_no_bar ht]
    | cons u us =>
      obtain ⟨hend, hrest⟩ := List.isChain_cons_cons.1 hchain
      rw [List.intercalate_cons_cons, List.append_assoc,
        splitTypes_append_bar (not_infix_append_bar ht hend), ih (by simp) hts hrest]

/-- The types that a text between braces has: its parts between separators, which are taken from the
left. -/
structure IsSplit (g : List Char) (types : List String) : Prop where
  joined : joinTypes types = collapse g
  no_bar : ∀ t ∈ types, ¬ bar <:+: t.toList
  leftmost : types.IsChain fun t _ => ¬ [' ', '|'] <:+ t.toList
  head : ∀ t ∈ types, ∀ c ∈ t.toList.head?, isBlank c = false
  last : ∀ t ∈ types, ∀ c ∈ t.toList.getLast?, isBlank c = false
  ne_empty : collapse g ≠ [] → ∀ t ∈ types, t ≠ ""
  of_empty : collapse g = [] → types = [""]

lemma isSplit_splitTypes (g : List Char) :
    IsSplit g ((splitTypes (collapse g)).map String.ofList) := by
  have hspaced : IsSpaced (collapse g) := isSpaced_of_collapse_eq (collapse_collapse g)
  refine ⟨?_, ?_, ?_, ?_, ?_, ?_, ?_⟩
  · simp [joinTypes, Function.comp_def, intercalate_splitTypes]
  · simpa using not_infix_of_mem_splitTypes (collapse g)
  · simpa [List.isChain_map] using isChain_splitTypes (collapse g)
  · intro t ht c hc
    obtain ⟨part, hpart, rfl⟩ := List.mem_map.1 ht
    rw [String.toList_ofList] at hc
    exact (isSpaced_of_mem_splitTypes hspaced hpart).isBlank_head hc
  · intro t ht c hc
    obtain ⟨part, hpart, rfl⟩ := List.mem_map.1 ht
    rw [String.toList_ofList] at hc
    exact (isSpaced_of_mem_splitTypes hspaced hpart).isBlank_last hc
  · intro hne t ht hempty
    obtain ⟨part, hpart, rfl⟩ := List.mem_map.1 ht
    obtain rfl : part = [] := by simpa using congrArg String.toList hempty
    exact hne (eq_nil_of_nil_mem_splitTypes hspaced hpart)
  · intro hempty
    rw [hempty]
    rfl

lemma IsSplit.eq_map_splitTypes (h : IsSplit g types) :
    types = (splitTypes (collapse g)).map String.ofList := by
  have hne : types.map String.toList ≠ [] := by
    intro hnil
    have hempty := h.joined
    rw [joinTypes, hnil] at hempty
    rw [h.of_empty hempty.symm] at hnil
    cases hnil
  have hsplit : splitTypes (joinTypes types) = types.map String.toList := by
    refine splitTypes_intercalate hne ?_ ?_
    · simpa using h.no_bar
    · simpa [List.isChain_map] using h.leftmost
  rw [← h.joined, hsplit]
  simp

/-! ### Types in any spelling -/

/-- A type that cannot be split, and that no brace ends. -/
structure IsPlainType (t : String) : Prop where
  normal : IsNormal t
  ne_empty : t ≠ ""
  no_bar : '|' ∉ t.toList
  no_brace : '}' ∉ t.toList

instance (t : String) : Decidable (IsPlainType t) :=
  decidable_of_iff (IsNormal t ∧ t ≠ "" ∧ '|' ∉ t.toList ∧ '}' ∉ t.toList)
    ⟨fun ⟨h₁, h₂, h₃, h₄⟩ => ⟨h₁, h₂, h₃, h₄⟩, fun ⟨h₁, h₂, h₃, h₄⟩ => ⟨h₁, h₂, h₃, h₄⟩⟩

lemma IsPlainType.isType {t : String} (h : IsPlainType t) : IsType t where
  normal := h.normal
  ne_empty := h.ne_empty
  no_brace := h.no_brace
  no_bar := fun hbar => h.no_bar (hbar.subset (by simp [bar]))

lemma IsPlainType.not_suffix_bar {t : String} (h : IsPlainType t) : ¬ [' ', '|'] <:+ t.toList :=
  fun hbar => h.no_bar (hbar.subset (by simp))

/-- Types with a bar between each two, and blanks on both sides of each bar. -/
inductive TypesWritten : List String → List Char → Prop
  | one (t : String) : TypesWritten [t] t.toList
  | cons (t : String) {a b s : List Char} {types : List String} (ha : IsGap a) (hb : IsGap b)
      (h : TypesWritten types s) : TypesWritten (t :: types) (t.toList ++ (a ++ '|' :: (b ++ s)))

lemma not_mem_brace_of_blank (h : ∀ c ∈ a, isBlank c = true) : '}' ∉ a := by
  intro hmem
  exact absurd (h '}' hmem) (by decide)

namespace TypesWritten

lemma exists_cons (h : TypesWritten types s) : ∃ t rest, types = t :: rest := by
  cases h with
  | one t => exact ⟨t, [], rfl⟩
  | cons t => exact ⟨t, _, rfl⟩

lemma words_eq (h : TypesWritten types s) : words s = words (joinTypes types) := by
  induction h with
  | one t => rw [joinTypes_singleton]
  | cons t ha hb h ih =>
    obtain ⟨u, rest, rfl⟩ := h.exists_cons
    rw [words_append_gaps ha hb, ih, joinTypes_cons_cons, words_append_bar]

lemma areTypes (h : TypesWritten types s) (htypes : ∀ t ∈ types, IsPlainType t) :
    AreTypes types := by
  induction h with
  | one t => exact .one (htypes t List.mem_cons_self).isType
  | cons t ha hb h ih =>
    obtain ⟨ht, hrest⟩ := List.forall_mem_cons.1 htypes
    obtain ⟨u, rest, rfl⟩ := h.exists_cons
    exact .cons ht.isType ht.not_suffix_bar (ih hrest)

lemma not_mem_brace (h : TypesWritten types s) (htypes : ∀ t ∈ types, IsPlainType t) :
    '}' ∉ s := by
  induction h with
  | one t => exact (htypes t List.mem_cons_self).no_brace
  | @cons t a b s types ha hb h ih =>
    obtain ⟨ht, hrest⟩ := List.forall_mem_cons.1 htypes
    have hgaps : '}' ∉ a ∧ '}' ∉ b :=
      ⟨not_mem_brace_of_blank ha.blank, not_mem_brace_of_blank hb.blank⟩
    simp [ht.no_brace, hgaps, ih hrest]

lemma collapse_eq (h : TypesWritten types s) (htypes : ∀ t ∈ types, IsPlainType t)
    (ha : ∀ c ∈ a, isBlank c = true) (hb : ∀ c ∈ b, isBlank c = true) :
    collapse (a ++ s ++ b) = joinTypes types := by
  rw [collapse, words_append_blanks hb, words_blanks_append ha, h.words_eq, ← collapse,
    collapse_joinTypes (Or.inr (h.areTypes htypes))]

end TypesWritten

/-- A group is split at its separators and nowhere else, and types without bars are read back from
every way to write them. -/
theorem readTypes_splits :
    (∀ g r : List Char, '}' ∉ g → ∃ types, readTypes ('{' :: (g ++ '}' :: r)) = .ok (types, r) ∧
      IsSplit g types ∧ ∀ others, IsSplit g others → others = types) ∧
      ∀ (types : List String) (s a b r : List Char), (∀ t ∈ types, IsPlainType t) →
        TypesWritten types s → (∀ c ∈ a, isBlank c = true) → (∀ c ∈ b, isBlank c = true) →
          readTypes ('{' :: (a ++ s ++ b ++ '}' :: r)) = .ok (types, r) := by
  constructor
  · intro g r hg
    exact ⟨_, readTypes_braces hg r, isSplit_splitTypes g, fun _ h => h.eq_map_splitTypes⟩
  · intro types s a b r htypes h ha hb
    have hgroup : IsGroup types := Or.inr (h.areTypes htypes)
    have hbrace : '}' ∉ a ++ s ++ b := by
      simp [not_mem_brace_of_blank ha, h.not_mem_brace htypes, not_mem_brace_of_blank hb]
    rw [readTypes_braces hbrace, h.collapse_eq htypes ha hb, splitTypes_joinTypes hgroup]
    simp

/-- Three types, with bars on lines of their own. -/
def columnGroup : List Char :=
  "map".toList ++ ("\n\t".toList ++ '|' :: ("\n  ".toList ++
    ("list of maps".toList ++ (" ".toList ++ '|' :: ("\u3000".toList ++ "null".toList)))))

lemma typesWritten_columnGroup : TypesWritten ["map", "list of maps", "null"] columnGroup := by
  have hgap : ∀ {a : List Char}, a ≠ [] → a.all isBlank = true → IsGap a := by
    intro a hne hall
    exact ⟨hne, List.all_eq_true.1 hall⟩
  apply TypesWritten.cons "map" (hgap (by decide) (by decide)) (hgap (by decide) (by decide))
  apply TypesWritten.cons "list of maps" (hgap (by decide) (by decide)) (hgap (by decide) (by decide))
  exact .one "null"

theorem readTypes_splits_columnGroup :
    readTypes "\x7b| a |\n | b|c |\x7d".toList = .ok (["| a", "| b|c |"], []) ∧
      IsSplit "| a |\n | b|c |".toList ["| a", "| b|c |"] ∧
      readTypes ('{' :: (" ".toList ++ columnGroup ++ "\n".toList ++ ['}'])) =
        .ok (["map", "list of maps", "null"], []) := by
  obtain ⟨hsplit, hread⟩ := readTypes_splits
  have hbars : readTypes "\x7b| a |\n | b|c |\x7d".toList = .ok (["| a", "| b|c |"], []) := by
    decide +kernel
  obtain ⟨types, htypes, hparts, -⟩ := hsplit "| a |\n | b|c |".toList [] (by decide)
  cases hbars.symm.trans htypes
  refine ⟨hbars, hparts, hread _ _ _ _ _ ?_ typesWritten_columnGroup (by simp) (by simp [isBlank])⟩
  decide +kernel

end Stylebook.Item
