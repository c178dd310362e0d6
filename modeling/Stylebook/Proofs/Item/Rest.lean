import Mathlib
import Stylebook.Item.Reader
import Stylebook.Proofs.Text.Cuts

/-!
# What readers leave

Each reader of an item takes a piece off the front of a text, and a fault keeps the text that was
left when it arose. So what is left is a suffix in either case. On a text that ends with a line
break, a reader that succeeds does so within the text: it reads the same when more text follows,
and leaves whole lines.
-/

namespace Stylebook.Item

open Text

variable {α : Type} {s q r rest : List Char} {c : Char} {item item' : Item} {f : Fault}

/-! ### One step of a reading -/

lemma mem_keywords_of_ofKeyword? {word : List Char} {tag : Tag}
    (h : Tag.ofKeyword? word = some tag) : (String.ofList word, tag) ∈ Tag.keywords := by
  obtain ⟨l₁, l₂, hkeywords, -⟩ := List.lookup_eq_some_iff.1 h
  simp [hkeywords]

lemma readOn_of_step (h : step item c s = .ok (item', rest)) :
    readOn item (c :: s) = readOn item' rest := by
  rw [readOn]
  split
  · rename_i heq
    rw [h] at heq
    cases heq
  · rename_i heq
    rw [h] at heq
    cases heq
    rfl

lemma readOn_of_step_eq_error (h : step item c s = .error f) :
    readOn item (c :: s) = .error f := by
  rw [readOn]
  split
  · rename_i heq
    rw [h] at heq
    cases heq
    rfl
  · rename_i heq
    rw [h] at heq
    cases heq

/-! ### Remainders are suffixes -/

/-- What is left of `s`, after a reading or by a fault, is a suffix of it. -/
def LeavesSuffix (s : List Char) : Except Fault (α × List Char) → Prop
  | .ok (_, rest) => rest <:+ s
  | .error f => f.rest <:+ s

lemma LeavesSuffix.trans {result : Except Fault (α × List Char)} (h : LeavesSuffix r result)
    (hr : r <:+ s) : LeavesSuffix s result := by
  cases result with
  | error f => exact List.IsSuffix.trans h hr
  | ok p => exact List.IsSuffix.trans h hr

lemma skipHyphen_suffix (s : List Char) : skipHyphen s <:+ s := by
  unfold skipHyphen
  split
  · exact (skipSpaces_suffix _).trans (List.suffix_cons _ _)
  · exact List.suffix_rfl

lemma skipColon_suffix (s : List Char) : skipColon s <:+ s := by
  unfold skipColon
  split
  · exact (skipSpaces_suffix _).trans (List.suffix_cons _ _)
  · exact List.suffix_rfl

lemma leavesSuffix_readTypes (s : List Char) : LeavesSuffix s (readTypes s) := by
  have hs := skipSpaces_suffix s
  unfold readTypes
  split
  · rename_i r heq
    rw [heq] at hs
    have hr : r <:+ s := (List.suffix_cons _ _).trans hs
    split
    · rename_i hcut
      exact (suffix_of_cutAt? hcut).trans hr
    · exact hr
  · exact hs

lemma leavesSuffix_readDefault (s : List Char) : LeavesSuffix s (readDefault s) := by
  unfold readDefault
  split
  · rename_i r
    split
    · rename_i hcut
      exact ((skipSpaces_suffix _).trans (suffix_of_cutAt? hcut)).trans (List.suffix_cons _ _)
    · exact List.suffix_cons _ _
  · exact List.suffix_rfl

lemma leavesSuffix_readParameter (s : List Char) : LeavesSuffix s (readParameter s) := by
  have htypes := leavesSuffix_readTypes s
  unfold readParameter
  split
  · rename_i hread
    rwa [hread] at htypes
  · rename_i types r hread
    rw [hread] at htypes
    have hr : skipSpaces r <:+ s := (skipSpaces_suffix r).trans htypes
    split
    · rename_i r' heq
      rw [heq] at hr
      have hname : skipSpaces (fromStop endsParameterName r') <:+ s :=
        ((skipSpaces_suffix _).trans (fromStop_suffix _ r')).trans ((List.suffix_cons _ _).trans hr)
      have hdefault := (leavesSuffix_readDefault _).trans hname
      split
      · rename_i hvalue
        rwa [hvalue] at hdefault
      · rename_i hvalue
        rw [hvalue] at hdefault
        exact ((nextLine_suffix _).trans (skipHyphen_suffix _)).trans hdefault
    · exact hr

lemma leavesSuffix_readReturned (s : List Char) : LeavesSuffix s (readReturned s) := by
  have htypes := leavesSuffix_readTypes s
  unfold readReturned
  split
  · rename_i hread
    rwa [hread] at htypes
  · rename_i r hread
    rw [hread] at htypes
    have hr := (skipHyphen_suffix _).trans ((skipSpaces_suffix r).trans htypes)
    exact (nextLine_suffix _).trans hr

lemma leavesSuffix_readRequiredKind (s : List Char) : LeavesSuffix s (readRequiredKind s) := by
  unfold readRequiredKind
  split
  · split
    · exact List.suffix_cons _ _
    · rename_i hcut
      have hrest := (suffix_of_cutAt? hcut).trans (List.suffix_cons '{' _)
      split
      · exact (skipSpaces_suffix _).trans hrest
      · exact hrest
  · exact List.suffix_rfl

lemma leavesSuffix_readRequirement (s : List Char) : LeavesSuffix s (readRequirement s) := by
  have hkind := leavesSuffix_readRequiredKind s
  unfold readRequirement
  split
  · rename_i hread
    rwa [hread] at hkind
  · rename_i hread
    rw [hread] at hkind
    exact (nextLine_suffix _).trans hkind

lemma leavesSuffix_readVariable (item : Item) (s : List Char) :
    LeavesSuffix s (readVariable item s) := by
  have hvalue : skipColon (skipSpaces (fromStop endsVariableName s)) <:+ s :=
    ((skipColon_suffix _).trans (skipSpaces_suffix _)).trans (fromStop_suffix _ s)
  unfold readVariable
  simp only
  split
  · exact hvalue
  · rename_i hcut
    exact ((nextLine_suffix _).trans (suffix_of_cutAt? hcut)).trans hvalue

lemma leavesSuffix_readVarTag (item : Item) (s : List Char) :
    LeavesSuffix s (readVarTag item s) := by
  have htypes := leavesSuffix_readTypes s
  unfold readVarTag
  split
  · rename_i hread
    rwa [hread] at htypes
  · rename_i r hread
    rw [hread] at htypes
    have hr := ((skipHyphen_suffix _).trans (skipSpaces_suffix r)).trans htypes
    simp only
    split
    · rename_i heq
      rwa [heq] at hr
    · exact (nextLine_suffix _).trans hr

lemma leavesSuffix_readTag (item : Item) (tag : Tag) (s : List Char) :
    LeavesSuffix s (readTag item tag s) := by
  cases tag with
  | deprecated =>
    simp only [readTag]
    split
    · exact List.suffix_rfl
    · exact nextLine_suffix s
  | requires =>
    have h := leavesSuffix_readRequirement s
    simp only [readTag]
    split <;> rename_i hread <;> rwa [hread] at h
  | param =>
    have h := leavesSuffix_readParameter s
    simp only [readTag]
    split <;> rename_i hread <;> rwa [hread] at h
  | returns =>
    have h := leavesSuffix_readReturned s
    simp only [readTag]
    split <;> rename_i hread <;> rwa [hread] at h
  | link =>
    exact ((nextLine_suffix _).trans (skipSpaces_suffix _)).trans (fromStop_suffix _ s)
  | var => exact leavesSuffix_readVarTag item s
  | signature kind => exact List.nil_suffix
  | _ => exact nextLine_suffix s

lemma leavesSuffix_step (item : Item) (c : Char) (s : List Char) :
    LeavesSuffix (c :: s) (step item c s) := by
  have hs : s <:+ c :: s := List.suffix_cons c s
  unfold step
  split
  · exact hs
  · split
    · simp only
      split
      · exact List.suffix_rfl
      · exact (leavesSuffix_readTag item _ _).trans
          (((skipSpaces_suffix _).trans (fromStop_suffix _ s)).trans hs)
    · split
      · exact (leavesSuffix_readVariable item s).trans hs
      · exact (nextLine_suffix s).trans hs

/-- A fault keeps a suffix of the text. -/
theorem suffix_of_readOn_eq_error (h : readOn item s = .error f) : f.rest <:+ s := by
  fun_induction readOn item s with
  | case1 => cases h
  | case2 item c s g hstep =>
    cases h
    have hs := leavesSuffix_step item c s
    rwa [hstep] at hs
  | case3 item c s item' rest hstep ih =>
    have hs := leavesSuffix_step item c s
    rw [hstep] at hs
    exact (ih h).trans hs

/-! ### Reading within whole lines -/

lemma endsLine_skipHyphen (h : EndsLine s) : EndsLine (skipHyphen s) := by
  unfold skipHyphen
  split
  · exact (h.tail (by decide)).skipSpaces
  · exact h

lemma skipHyphen_append (h : EndsLine s) (q : List Char) :
    skipHyphen (s ++ q) = skipHyphen s ++ q := by
  obtain ⟨c, s, rfl⟩ := List.exists_cons_of_ne_nil h.ne_nil
  by_cases hc : c = '-'
  · subst hc
    exact (h.tail (by decide)).skipSpaces_append q
  · simp [skipHyphen, hc]

lemma endsLine_skipColon (h : EndsLine s) : EndsLine (skipColon s) := by
  unfold skipColon
  split
  · exact (h.tail (by decide)).skipSpaces
  · exact h

lemma skipColon_append (h : EndsLine s) (q : List Char) :
    skipColon (s ++ q) = skipColon s ++ q := by
  obtain ⟨c, s, rfl⟩ := List.exists_cons_of_ne_nil h.ne_nil
  by_cases hc : c = ':'
  · subst hc
    exact (h.tail (by decide)).skipSpaces_append q
  · simp [skipColon, hc]

lemma restOfLine_append (h : EndsLine s) (q : List Char) :
    restOfLine (s ++ q) = restOfLine s := by
  rw [restOfLine, restOfLine, h.line_append]

lemma readTypes_eq_ok_iff {types : List String} : readTypes s = .ok (types, rest) ↔
    ∃ r group, skipSpaces s = '{' :: r ∧ cutAt? (· == '}') r = some (group, rest) ∧
      types = (splitTypes (collapse group)).map String.ofList := by
  unfold readTypes
  constructor
  · intro h
    split at h
    · rename_i r heq
      split at h
      · rename_i group rest' hcut
        cases h
        exact ⟨r, group, heq, hcut, rfl⟩
      · cases h
    · cases h
  · rintro ⟨r, group, hs, hcut, rfl⟩
    simp only [hs, hcut]

lemma endsLine_of_readTypes {types : List String} (h : EndsLine s)
    (hread : readTypes s = .ok (types, rest)) : EndsLine rest := by
  obtain ⟨r, group, hs, hcut, -⟩ := readTypes_eq_ok_iff.1 hread
  have hskip : EndsLine ('{' :: r) := hs ▸ h.skipSpaces
  exact (hskip.tail (by decide)).of_cutAt? (by decide) hcut

lemma readTypes_append {types : List String} (h : EndsLine s)
    (hread : readTypes s = .ok (types, rest)) (q : List Char) :
    readTypes (s ++ q) = .ok (types, rest ++ q) := by
  obtain ⟨r, group, hs, hcut, rfl⟩ := readTypes_eq_ok_iff.1 hread
  refine readTypes_eq_ok_iff.2 ⟨r ++ q, group, ?_, cutAt?_append hcut q, rfl⟩
  rw [h.skipSpaces_append, hs, List.cons_append]

lemma readDefault_eq_ok_iff {value : String} : readDefault s = .ok (value, rest) ↔
    (∃ r text left, s = '(' :: r ∧ cutAt? (· == ')') r = some (text, left) ∧
      value = captured text ∧ rest = skipSpaces left) ∨
    (s.head? ≠ some '(' ∧ value = "" ∧ rest = s) := by
  unfold readDefault
  constructor
  · intro h
    split at h
    · rename_i r
      split at h
      · rename_i text left hcut
        cases h
        exact Or.inl ⟨r, text, left, rfl, hcut, rfl, rfl⟩
      · cases h
    · rename_i hs
      cases h
      refine Or.inr ⟨fun hhead => ?_, rfl, rfl⟩
      obtain ⟨r, rfl⟩ := List.head?_eq_some_iff.1 hhead
      exact hs r rfl
  · rintro (⟨r, text, left, rfl, hcut, rfl, rfl⟩ | ⟨hs, rfl, rfl⟩)
    · simp only [hcut]
    · split
      · simp at hs
      · rfl

lemma endsLine_of_readDefault {value : String} (h : EndsLine s)
    (hread : readDefault s = .ok (value, rest)) : EndsLine rest := by
  rcases readDefault_eq_ok_iff.1 hread with ⟨r, text, left, rfl, hcut, -, rfl⟩ | ⟨-, -, rfl⟩
  · exact ((h.tail (by decide)).of_cutAt? (by decide) hcut).skipSpaces
  · exact h

lemma readDefault_append {value : String} (h : EndsLine s)
    (hread : readDefault s = .ok (value, rest)) (q : List Char) :
    readDefault (s ++ q) = .ok (value, rest ++ q) := by
  rcases readDefault_eq_ok_iff.1 hread with ⟨r, text, left, rfl, hcut, rfl, rfl⟩ | ⟨hs, rfl, rfl⟩
  · have hleft : EndsLine left := (h.tail (by decide)).of_cutAt? (by decide) hcut
    exact readDefault_eq_ok_iff.2 (Or.inl ⟨r ++ q, text, left ++ q, rfl, cutAt?_append hcut q, rfl,
      (hleft.skipSpaces_append q).symm⟩)
  · refine readDefault_eq_ok_iff.2 (Or.inr ⟨?_, rfl, rfl⟩)
    rwa [List.head?_append_of_ne_nil _ h.ne_nil]

lemma readParameter_append {p : Parameter} (h : EndsLine s)
    (hread : readParameter s = .ok (p, rest)) (q : List Char) :
    readParameter (s ++ q) = .ok (p, rest ++ q) := by
  unfold readParameter at hread ⊢
  split at hread
  · cases hread
  · rename_i types r htypes
    have hr : EndsLine r := endsLine_of_readTypes h htypes
    simp only [readTypes_append h htypes q, hr.skipSpaces_append]
    split at hread
    · rename_i r' heq
      have hdollar : EndsLine ('$' :: r') := heq ▸ hr.skipSpaces
      have hname : EndsLine r' := hdollar.tail (by decide)
      have hvalue : EndsLine (fromStop endsParameterName r') := hname.fromStop _ rfl
      simp only [heq, List.cons_append, hname.fromStop_append endsParameterName rfl,
        hvalue.skipSpaces_append]
      split at hread
      · cases hread
      · rename_i value left hdefault
        cases hread
        have hleft : EndsLine left := endsLine_of_readDefault hvalue.skipSpaces hdefault
        have htext : EndsLine (skipHyphen left) := endsLine_skipHyphen hleft
        simp only [readDefault_append hvalue.skipSpaces hdefault q, skipHyphen_append hleft,
          hname.before_append endsParameterName rfl, restOfLine_append htext, htext.nextLine_append]
    · cases hread

lemma readReturned_append {returned : Returned} (h : EndsLine s)
    (hread : readReturned s = .ok (returned, rest)) (q : List Char) :
    readReturned (s ++ q) = .ok (returned, rest ++ q) := by
  unfold readReturned at hread ⊢
  split at hread
  · cases hread
  · rename_i types r htypes
    cases hread
    have hr : EndsLine r := endsLine_of_readTypes h htypes
    have htext : EndsLine (skipHyphen (skipSpaces r)) := endsLine_skipHyphen hr.skipSpaces
    simp only [readTypes_append h htypes q, hr.skipSpaces_append, skipHyphen_append hr.skipSpaces,
      restOfLine_append htext, htext.nextLine_append]

lemma readRequiredKind_eq_ok_iff {kind : Option Kind} : readRequiredKind s = .ok (kind, rest) ↔
    (∃ r group left found, s = '{' :: r ∧ cutAt? (· == '}') r = some (group, left) ∧
      Requirement.kinds.lookup (captured group) = some found ∧
      kind = some found ∧ rest = skipSpaces left) ∨
    (s.head? ≠ some '{' ∧ kind = none ∧ rest = s) := by
  unfold readRequiredKind
  constructor
  · intro h
    split at h
    · rename_i r
      split at h
      · cases h
      · rename_i group left hcut
        split at h
        · rename_i found hfound
          cases h
          exact Or.inl ⟨r, group, left, found, rfl, hcut, hfound, rfl, rfl⟩
        · cases h
    · rename_i hs
      cases h
      refine Or.inr ⟨fun hhead => ?_, rfl, rfl⟩
      obtain ⟨r, rfl⟩ := List.head?_eq_some_iff.1 hhead
      exact hs r rfl
  · rintro (⟨r, group, left, found, rfl, hcut, hfound, rfl, rfl⟩ | ⟨hs, rfl, rfl⟩)
    · simp only [hcut, hfound]
    · split
      · simp at hs
      · rfl

lemma endsLine_of_readRequiredKind {kind : Option Kind} (h : EndsLine s)
    (hread : readRequiredKind s = .ok (kind, rest)) : EndsLine rest := by
  rcases readRequiredKind_eq_ok_iff.1 hread with
    ⟨r, group, left, found, rfl, hcut, -, -, rfl⟩ | ⟨-, -, rfl⟩
  · exact ((h.tail (by decide)).of_cutAt? (by decide) hcut).skipSpaces
  · exact h

lemma readRequiredKind_append {kind : Option Kind} (h : EndsLine s)
    (hread : readRequiredKind s = .ok (kind, rest)) (q : List Char) :
    readRequiredKind (s ++ q) = .ok (kind, rest ++ q) := by
  rcases readRequiredKind_eq_ok_iff.1 hread with
    ⟨r, group, left, found, rfl, hcut, hfound, rfl, rfl⟩ | ⟨hs, rfl, rfl⟩
  · have hleft : EndsLine left := (h.tail (by decide)).of_cutAt? (by decide) hcut
    exact readRequiredKind_eq_ok_iff.2 (Or.inl ⟨r ++ q, group, left ++ q, found, rfl,
      cutAt?_append hcut q, hfound, rfl, (hleft.skipSpaces_append q).symm⟩)
  · refine readRequiredKind_eq_ok_iff.2 (Or.inr ⟨?_, rfl, rfl⟩)
    rwa [List.head?_append_of_ne_nil _ h.ne_nil]

lemma readRequirement_append {requirement : Requirement} (h : EndsLine s)
    (hread : readRequirement s = .ok (requirement, rest)) (q : List Char) :
    readRequirement (s ++ q) = .ok (requirement, rest ++ q) := by
  unfold readRequirement at hread ⊢
  split at hread
  · cases hread
  · rename_i kind r hkind
    cases hread
    have hr : EndsLine r := endsLine_of_readRequiredKind h hkind
    simp only [readRequiredKind_append h hkind q, restOfLine_append hr, hr.nextLine_append]

lemma readLink_append (h : EndsLine s) (q : List Char) :
    readLink (s ++ q) = ((readLink s).1, (readLink s).2 ++ q) := by
  have hlabel : EndsLine (fromStop isWordEnd s) := h.fromStop _ rfl
  simp only [readLink, h.before_append isWordEnd rfl, h.fromStop_append isWordEnd rfl,
    hlabel.skipSpaces_append, restOfLine_append hlabel.skipSpaces,
    hlabel.skipSpaces.nextLine_append]

lemma readVariable_append (h : EndsLine s) (hread : readVariable item s = .ok (item', rest))
    (q : List Char) : readVariable item (s ++ q) = .ok (item', rest ++ q) := by
  have hname : EndsLine (fromStop endsVariableName s) := h.fromStop _ rfl
  have hvalue := endsLine_skipColon hname.skipSpaces
  unfold readVariable at hread ⊢
  simp only [h.fromStop_append endsVariableName rfl, h.before_append endsVariableName rfl,
    hname.skipSpaces_append, skipColon_append hname.skipSpaces] at hread ⊢
  split at hread
  · cases hread
  · rename_i value left hcut
    cases hread
    have hleft : EndsLine left := hvalue.of_cutAt? (by decide) hcut
    simp only [cutAt?_append hcut q, hleft.nextLine_append]

lemma readVarTag_append (h : EndsLine s) (hread : readVarTag item s = .ok (item', rest))
    (q : List Char) : readVarTag item (s ++ q) = .ok (item', rest ++ q) := by
  unfold readVarTag at hread ⊢
  split at hread
  · cases hread
  · rename_i types r htypes
    have hr : EndsLine r := endsLine_of_readTypes h htypes
    have htext : EndsLine (skipHyphen (skipSpaces r)) := endsLine_skipHyphen hr.skipSpaces
    simp only [readTypes_append h htypes q, hr.skipSpaces_append, skipHyphen_append hr.skipSpaces]
    simp only at hread
    split at hread
    · rename_i heq
      cases hread
      simp only [heq, List.cons_append]
    · rename_i hdollar
      cases hread
      obtain ⟨c, t, ht⟩ := List.exists_cons_of_ne_nil htext.ne_nil
      split
      · rename_i r' heq
        rw [ht, List.cons_append] at heq
        cases heq
        exact absurd ht (hdollar t)
      · rw [restOfLine_append htext, htext.nextLine_append]

lemma readTag_append {tag : Tag} (h : EndsLine s) (htag : ∀ kind, tag ≠ .signature kind)
    (hread : readTag item tag s = .ok (item', rest)) (q : List Char) :
    readTag item tag (s ++ q) = .ok (item', rest ++ q) := by
  cases tag with
  | deprecated =>
    simp only [readTag, List.head?_append_of_ne_nil _ h.ne_nil] at hread ⊢
    split at hread
    · rename_i hat
      cases hread
      rw [if_pos hat]
    · rename_i hat
      cases hread
      rw [if_neg hat, restOfLine_append h, h.nextLine_append]
  | requires =>
    simp only [readTag] at hread ⊢
    split at hread
    · cases hread
    · rename_i hrequirement
      cases hread
      simp only [readRequirement_append h hrequirement q]
  | param =>
    simp only [readTag] at hread ⊢
    split at hread
    · cases hread
    · rename_i hparameter
      cases hread
      simp only [readParameter_append h hparameter q]
  | link =>
    cases hread
    simp only [readTag, readLink_append h]
    rfl
  | returns =>
    simp only [readTag] at hread ⊢
    split at hread
    · cases hread
    · rename_i hreturned
      cases hread
      simp only [readReturned_append h hreturned q]
  | var => exact readVarTag_append h hread q
  | signature kind => exact absurd rfl (htag kind)
  | _ =>
    cases hread
    simp only [readTag, restOfLine_append h, h.nextLine_append]

/-- A signature ends with its line. -/
lemma readTag_signature_append {kind : Kind} (h : EndsLine s) (q : List Char) :
    readTag item (.signature kind) (s ++ q) = readTag item (.signature kind) s := by
  simp only [readTag, h.before_append endsSignatureName rfl]

end Stylebook.Item
