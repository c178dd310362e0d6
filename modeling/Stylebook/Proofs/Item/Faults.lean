import Mathlib
import Stylebook.Proofs.Item.Rest

/-!
# Where the reading of a passage gets stuck

A fault of a reader keeps the text that was left when it arose. What is left shows the cause: the
stop character that does not follow, the character that stands in place of another, the unknown tag,
or, just before it, the group that names no kind of item.
-/

namespace Stylebook.Item

open Text

variable {s r t : List Char} {c : Char} {item : Item} {f : Fault}

/-- The ways in which the reading of a passage can get stuck. -/
inductive Stuck (s : List Char) : Fault → Prop where
  | unterminated {stop : Char} {r : List Char} (hstop : stop ∈ ['}', ')', ';']) (hr : r <:+ s)
      (hnone : stop ∉ r) : Stuck s ⟨.unterminated [String.singleton stop], r⟩
  | unexpected {wanted : Char} {r : List Char} (hwanted : wanted ∈ ['{', '$']) (hr : r <:+ s)
      (hhead : r.head? ≠ some wanted) : Stuck s ⟨.unexpected (String.singleton wanted) r.head?, r⟩
  | unknownTag {r : List Char} (hr : '@' :: r <:+ s)
      (hkeyword : Tag.ofKeyword? (before isWordEnd r) = none) :
      Stuck s ⟨.unknownTag (before isWordEnd r), '@' :: r⟩
  | invalidRequirement {keyword spaces group r : List Char}
      (hr : '@' :: (keyword ++ (spaces ++ '{' :: (group ++ '}' :: r))) <:+ s)
      (hkeyword : Tag.ofKeyword? keyword = some .requires)
      (hspaces : ∀ x ∈ spaces, isSpaceOrTab x = true) (hgroup : '}' ∉ group)
      (hkind : Requirement.kinds.lookup (captured group) = none) :
      Stuck s ⟨.invalidRequirement (collapse group), r⟩

lemma Stuck.of_suffix (h : Stuck t f) (ht : t <:+ s) : Stuck s f := by
  cases h with
  | unterminated hstop hr hnone => exact .unterminated hstop (hr.trans ht) hnone
  | unexpected hwanted hr hhead => exact .unexpected hwanted (hr.trans ht) hhead
  | unknownTag hr hkeyword => exact .unknownTag (hr.trans ht) hkeyword
  | invalidRequirement hr hkeyword hspaces hgroup hkind =>
    exact .invalidRequirement (hr.trans ht) hkeyword hspaces hgroup hkind

/-! ### Parts of a line -/

lemma stuck_of_readTypes (h : readTypes s = .error f) : Stuck s f := by
  have hs := skipSpaces_suffix s
  unfold readTypes at h
  split at h
  · rename_i r heq
    rw [heq] at hs
    split at h
    · cases h
    · rename_i hcut
      cases h
      exact .unterminated (by simp) ((List.suffix_cons _ _).trans hs) (cutAt?_eq_none_iff.1 hcut)
  · rename_i hother
    cases h
    exact .unexpected (by simp) hs (head?_ne_of_forall hother)

lemma stuck_of_readDefault (h : readDefault s = .error f) : Stuck s f := by
  unfold readDefault at h
  split at h
  · split at h
    · cases h
    · rename_i hcut
      cases h
      exact .unterminated (by simp) (List.suffix_cons _ _) (cutAt?_eq_none_iff.1 hcut)
  · cases h

lemma stuck_of_readParameter (h : readParameter s = .error f) : Stuck s f := by
  have hsuffix := leavesSuffix_readTypes s
  unfold readParameter at h
  split at h
  · rename_i htypes
    cases h
    exact stuck_of_readTypes htypes
  · rename_i types r htypes
    rw [htypes] at hsuffix
    have hr : skipSpaces r <:+ s := (skipSpaces_suffix r).trans hsuffix
    split at h
    · rename_i r' heq
      rw [heq] at hr
      split at h
      · rename_i hdefault
        cases h
        have hname : skipSpaces (fromStop endsParameterName r') <:+ r' :=
          (skipSpaces_suffix _).trans (fromStop_suffix _ r')
        exact (stuck_of_readDefault hdefault).of_suffix
          (hname.trans ((List.suffix_cons _ _).trans hr))
      · cases h
    · rename_i hother
      cases h
      exact .unexpected (by simp) hr (head?_ne_of_forall hother)

lemma stuck_of_readReturned (h : readReturned s = .error f) : Stuck s f := by
  unfold readReturned at h
  split at h
  · rename_i htypes
    cases h
    exact stuck_of_readTypes htypes
  · cases h

lemma stuck_of_readVariable (h : readVariable item s = .error f) : Stuck s f := by
  have hvalue : skipColon (skipSpaces (fromStop endsVariableName s)) <:+ s :=
    ((skipColon_suffix _).trans (skipSpaces_suffix _)).trans (fromStop_suffix _ s)
  unfold readVariable at h
  simp only at h
  split at h
  · rename_i hcut
    cases h
    exact .unterminated (by simp) hvalue (cutAt?_eq_none_iff.1 hcut)
  · cases h

lemma stuck_of_readVarTag (h : readVarTag item s = .error f) : Stuck s f := by
  unfold readVarTag at h
  split at h
  · rename_i htypes
    cases h
    exact stuck_of_readTypes htypes
  · simp only at h
    split at h <;> cases h

/-! ### Tags -/

section Tags

variable {keyword spaces : List Char} (hspaces : ∀ x ∈ spaces, isSpaceOrTab x = true)

include hspaces

/-- The group of a requirement stands right behind its tag. -/
lemma stuck_of_readRequirement (hkeyword : Tag.ofKeyword? keyword = some .requires)
    (h : readRequirement s = .error f) : Stuck ('@' :: (keyword ++ (spaces ++ s))) f := by
  unfold readRequirement at h
  split at h
  · rename_i hread
    cases h
    unfold readRequiredKind at hread
    split at hread
    · rename_i r
      split at hread
      · rename_i hcut
        cases hread
        exact .unterminated (by simp) ⟨'@' :: (keyword ++ (spaces ++ ['{'])), by simp⟩
          (cutAt?_eq_none_iff.1 hcut)
      · rename_i group rest hcut
        split at hread
        · cases hread
        · rename_i hkind
          cases hread
          obtain ⟨rfl, hgroup⟩ := eq_append_of_cutAt? hcut
          exact .invalidRequirement List.suffix_rfl hkeyword hspaces hgroup hkind
    · cases hread
  · cases h

lemma stuck_of_readTag {tag : Tag} (hkeyword : Tag.ofKeyword? keyword = some tag)
    (h : readTag item tag s = .error f) : Stuck ('@' :: (keyword ++ (spaces ++ s))) f := by
  have hs : s <:+ '@' :: (keyword ++ (spaces ++ s)) := ⟨'@' :: (keyword ++ spaces), by simp⟩
  cases tag with
  | deprecated =>
    simp only [readTag] at h
    split at h <;> cases h
  | requires =>
    simp only [readTag] at h
    split at h
    · rename_i hread
      cases h
      exact stuck_of_readRequirement hspaces hkeyword hread
    · cases h
  | param =>
    simp only [readTag] at h
    split at h
    · rename_i hread
      cases h
      exact (stuck_of_readParameter hread).of_suffix hs
    · cases h
  | returns =>
    simp only [readTag] at h
    split at h
    · rename_i hread
      cases h
      exact (stuck_of_readReturned hread).of_suffix hs
    · cases h
  | var => exact (stuck_of_readVarTag h).of_suffix hs
  | _ => cases h

end Tags

/-! ### Whole passages -/

lemma stuck_of_step (h : step item c s = .error f) : Stuck (c :: s) f := by
  unfold step at h
  split at h
  · cases h
  · split at h
    · rename_i hat
      subst hat
      simp only at h
      split at h
      · rename_i hkeyword
        cases h
        exact .unknownTag List.suffix_rfl hkeyword
      · rename_i tag hkeyword
        -- The text of the tag begins behind the keyword and some spaces.
        have hspaces : ∀ x ∈ (fromStop isWordEnd s).takeWhile isSpaceOrTab,
            isSpaceOrTab x = true := fun x hx => List.mem_takeWhile_imp hx
        have htag := stuck_of_readTag hspaces hkeyword h
        rwa [skipSpaces, List.takeWhile_append_dropWhile, before_append_fromStop] at htag
    · split at h
      · exact (stuck_of_readVariable h).of_suffix (List.suffix_cons _ _)
      · cases h

/-- The reading of a passage gets stuck in one of these ways, if it does. -/
theorem stuck_of_readOn (h : readOn item s = .error f) : Stuck s f := by
  fun_induction readOn item s with
  | case1 => cases h
  | case2 item c s g hstep =>
    cases h
    exact stuck_of_step hstep
  | case3 item c s item' rest hstep ih =>
    have hsuffix := leavesSuffix_step item c s
    rw [hstep] at hsuffix
    exact (ih h).of_suffix hsuffix

end Stylebook.Item
