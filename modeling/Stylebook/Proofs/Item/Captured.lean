import Mathlib
import Stylebook.Proofs.Item.Merge

/-!
# Captured items

Every text that is read into an item has a fixed form: names and addresses end at the first blank,
all other texts are collapsed, and types are the parts of a collapsed group. This holds of the empty
item, each step of the reading keeps it, and so it holds of every item that a passage is read into.
Only lines of the description are taken as they are, hence no other text holds a line break.
-/

namespace Stylebook

open Text

/-! ### The form of what is captured -/

/-- A parameter as it is read. -/
structure Parameter.IsCaptured (p : Parameter) : Prop where
  types_ne_nil : p.types ≠ []
  types : ∀ t ∈ p.types, IsNormal t
  name : HasNo isWordEnd p.name
  defaultValue : IsNormal p.defaultValue
  description : IsNormal p.description

/-- A result as it is read. -/
structure Returned.IsCaptured (r : Returned) : Prop where
  types_ne_nil : r.types ≠ []
  types : ∀ t ∈ r.types, IsNormal t
  description : IsNormal r.description

/-- A link as it is read. Its label is that of the text, or the address for want of one. -/
structure Link.IsCaptured (l : Link) : Prop where
  url : HasNo isWordEnd l.url
  label : l.label ≠ "" ∧ IsNormal l.label ∨ l.label = l.url

namespace Item

variable {c : Char} {s rest : List Char} {item item' : Item}

/-- An item as it is read. The name in a signature may consist of several words; any other name is
a single one. -/
structure IsCaptured (item : Item) : Prop where
  signedName : item.isSigned = true →
    IsNormal item.name ∧ '(' ∉ item.name.toList ∧ '{' ∉ item.name.toList
  otherName : item.isSigned = false → HasNo isWordEnd item.name
  parameters : ∀ p ∈ item.parameters, p.IsCaptured
  returns : ∀ r ∈ item.returns, r.IsCaptured
  requires : ∀ r ∈ item.requires, IsNormal r.target
  links : ∀ l ∈ item.links, l.IsCaptured
  aliasOf : ∀ t ∈ item.aliasOf, IsNormal t
  aliased : item.aliased = []
  usedBy : item.usedBy = []
  access : ∀ t ∈ item.access, IsNormal t
  datatype : ∀ t ∈ item.datatype, IsNormal t
  value : ∀ t ∈ item.value, IsNormal t
  deprecated : ∀ t ∈ item.deprecated, IsNormal t
  since : ∀ t ∈ item.since, IsNormal t
  author : ∀ t ∈ item.author, IsNormal t
  throws : ∀ t ∈ item.throws, IsNormal t
  todo : ∀ t ∈ item.todo, IsNormal t

/-! ### Parts of a line -/

lemma isNormal_captured (s : List Char) : IsNormal (captured s) := by
  simp [IsNormal, Text.normalize, captured, collapse_collapse]

lemma isNormal_restOfLine (s : List Char) : IsNormal (restOfLine s) :=
  isNormal_captured (line s)

/-- A word that is read up to a stop holds no character at which words end, if they are stops. -/
lemma hasNo_before {stop : Char → Bool} (h : ∀ x, isWordEnd x = true → stop x = true)
    (s : List Char) : HasNo isWordEnd (String.ofList (before stop s)) := by
  intro x hx
  rw [String.toList_ofList] at hx
  by_contra hend
  have hstop := h x (by simpa using hend)
  simp [stop_of_mem_before hx] at hstop

/-- A stop that is not a space is not in the text captured before it. -/
lemma not_mem_captured_before {stop : Char → Bool} (hstop : stop c = true) (hc : c ≠ ' ')
    (s : List Char) : c ∉ (captured (before stop s)).toList := by
  intro hmem
  rw [captured, String.toList_ofList] at hmem
  simp [stop_of_mem_before (mem_of_mem_collapse hmem hc)] at hstop

lemma isNormal_of_readTypes {types : List String} (h : readTypes s = .ok (types, rest)) :
    ∀ t ∈ types, IsNormal t := by
  obtain ⟨r, group, -, -, rfl⟩ := readTypes_eq_ok_iff.1 h
  intro t ht
  obtain ⟨part, hpart, rfl⟩ := List.mem_map.1 ht
  have hgroup : IsSpaced (collapse group) := isSpaced_of_collapse_eq (collapse_collapse group)
  rw [isNormal_iff_isSpaced, String.toList_ofList]
  exact isSpaced_of_mem_splitTypes hgroup hpart

lemma isNormal_of_readDefault {value : String} (h : readDefault s = .ok (value, rest)) :
    IsNormal value := by
  rcases readDefault_eq_ok_iff.1 h with ⟨r, text, left, -, -, rfl, -⟩ | ⟨-, rfl, -⟩
  · exact isNormal_captured text
  · decide

/-! ### Each reading captures -/

lemma isCaptured_of_readParameter {p : Parameter} (h : readParameter s = .ok (p, rest)) :
    p.IsCaptured := by
  unfold readParameter at h
  split at h
  · cases h
  · rename_i types r htypes
    split at h
    · rename_i r _
      split at h
      · cases h
      · rename_i value left hvalue
        cases h
        constructor
        · exact ne_nil_of_readTypes htypes
        · exact isNormal_of_readTypes htypes
        · exact hasNo_before (fun x hx => by simp [endsParameterName, hx]) r
        · exact isNormal_of_readDefault hvalue
        · exact isNormal_restOfLine _
    · cases h

lemma isCaptured_of_readReturned {r : Returned} (h : readReturned s = .ok (r, rest)) :
    r.IsCaptured := by
  unfold readReturned at h
  split at h
  · cases h
  · rename_i htypes
    cases h
    constructor
    · exact ne_nil_of_readTypes htypes
    · exact isNormal_of_readTypes htypes
    · exact isNormal_restOfLine _

lemma isNormal_of_readRequirement {r : Requirement} (h : readRequirement s = .ok (r, rest)) :
    IsNormal r.target := by
  unfold readRequirement at h
  split at h
  · cases h
  · cases h
    exact isNormal_restOfLine _

lemma isCaptured_readLink (s : List Char) : (readLink s).1.IsCaptured := by
  constructor
  · exact hasNo_before (fun x hx => hx) s
  · simp only [readLink, Link.of]
    split
    · exact Or.inr rfl
    · rename_i hlabel
      refine Or.inl ⟨?_, isNormal_restOfLine _⟩
      intro hempty
      simp [hempty] at hlabel

lemma isCaptured_readVarTag (hitem : item.IsCaptured) (hsigned : item.isSigned = false)
    (h : readVarTag item s = .ok (item', rest)) : item'.IsCaptured := by
  unfold readVarTag at h
  split at h
  · cases h
  · rename_i types r htypes
    have htyped : IsCaptured { item with kind := some .var, datatype := types } :=
      { hitem with
        signedName := by simp [isSigned]
        otherName := fun _ => hitem.otherName hsigned
        datatype := isNormal_of_readTypes htypes }
    split at h
    · cases h
      exact htyped
    · cases h
      split
      · exact htyped
      · exact { htyped with }

lemma isCaptured_readVariable (hitem : item.IsCaptured) (hsigned : item.isSigned = false)
    (h : readVariable item s = .ok (item', rest)) : item'.IsCaptured := by
  have hsigned' := isSigned_of_readVariable hsigned h
  unfold readVariable at h
  simp only at h
  split at h
  · cases h
  · cases h
    refine { hitem with
      signedName := fun hs => absurd (hsigned'.symm.trans hs) Bool.false_ne_true
      otherName := fun _ => hasNo_before (fun x hx => by simp [endsVariableName, hx]) s
      access := ?_
      value := ?_ }
    · intro t ht
      obtain rfl := Option.some.inj ht
      split <;> decide
    · simpa using isNormal_captured _

/-- Each tag keeps the form of the item, one case for each field that a tag gives. -/
lemma isCaptured_readTag {tag : Tag} (htag : ∀ kind, tag = .signature kind → kind ≠ .var)
    (hitem : item.IsCaptured) (hsigned : item.isSigned = false)
    (h : readTag item tag s = .ok (item', rest)) : item'.IsCaptured := by
  have hsome : ∀ t ∈ some (restOfLine s), IsNormal t := by
    simpa using isNormal_restOfLine s
  have hone : ∀ t ∈ [restOfLine s], IsNormal t := by
    simpa using isNormal_restOfLine s
  cases tag with
  | access =>
    cases h
    exact { hitem with access := hsome }
  | since =>
    cases h
    exact { hitem with since := hsome }
  | aliasOf =>
    cases h
    exact { hitem with aliasOf := hsome }
  | author =>
    cases h
    exact { hitem with author := hsome }
  | deprecated =>
    simp only [readTag] at h
    split at h
    · cases h
      refine { hitem with deprecated := ?_ }
      intro t ht
      obtain rfl := Option.some.inj ht
      decide
    · cases h
      exact { hitem with deprecated := hsome }
  | throws =>
    cases h
    exact { hitem with throws := List.forall_mem_append.2 ⟨hitem.throws, hone⟩ }
  | todo =>
    cases h
    exact { hitem with todo := List.forall_mem_append.2 ⟨hitem.todo, hone⟩ }
  | requires =>
    simp only [readTag] at h
    split at h
    · cases h
    · rename_i hread
      cases h
      refine { hitem with requires := List.forall_mem_append.2 ⟨hitem.requires, ?_⟩ }
      simpa using isNormal_of_readRequirement hread
  | ignore =>
    cases h
    exact hitem
  | param =>
    simp only [readTag] at h
    split at h
    · cases h
    · rename_i hread
      cases h
      refine { hitem with parameters := List.forall_mem_append.2 ⟨hitem.parameters, ?_⟩ }
      simpa using isCaptured_of_readParameter hread
  | link =>
    cases h
    refine { hitem with links := List.forall_mem_append.2 ⟨hitem.links, ?_⟩ }
    exact List.forall_mem_singleton.2 (isCaptured_readLink s)
  | returns =>
    simp only [readTag] at h
    split at h
    · cases h
    · rename_i hread
      cases h
      refine { hitem with returns := ?_ }
      simpa using isCaptured_of_readReturned hread
  | var => exact isCaptured_readVarTag hitem hsigned h
  | signature kind =>
    have hkind := htag kind rfl
    cases h
    refine { hitem with signedName := fun _ => ⟨isNormal_captured _, ?_, ?_⟩, otherName := ?_ }
    · exact not_mem_captured_before rfl (by decide) s
    · exact not_mem_captured_before rfl (by decide) s
    · intro hother
      cases kind with
      | function | mixin => simp [isSigned] at hother
      | var => exact absurd rfl hkind

/-! ### Texts without line breaks -/

/-- All texts of an item but its description. -/
def texts (item : Item) : List String :=
  [[item.name],
    item.parameters.flatMap fun p => p.name :: p.defaultValue :: p.description :: p.types,
    item.returns.toList.flatMap fun r => r.description :: r.types,
    item.requires.map (·.target),
    item.links.flatMap fun l => [l.url, l.label],
    item.aliased, item.usedBy.map (·.name),
    item.aliasOf.toList, item.access.toList, item.value.toList,
    item.deprecated.toList, item.since.toList, item.author.toList,
    item.datatype, item.throws, item.todo].flatten

lemma break_not_mem_of_isNormal {t : String} (h : IsNormal t) : '\n' ∉ t.toList :=
  h.not_mem (by decide) (by decide)

lemma break_not_mem_of_hasNo {t : String} (h : HasNo isWordEnd t) : '\n' ∉ t.toList :=
  fun hmem => absurd (h _ hmem) (by decide)

lemma IsCaptured.break_not_mem_name (h : item.IsCaptured) : '\n' ∉ item.name.toList := by
  by_cases hsigned : item.isSigned = true
  · exact break_not_mem_of_isNormal (h.signedName hsigned).1
  · exact break_not_mem_of_hasNo (h.otherName (by simpa using hsigned))

lemma IsCaptured.break_not_mem (h : item.IsCaptured) : ∀ t ∈ item.texts, '\n' ∉ t.toList := by
  intro t ht
  simp only [texts, List.flatten_cons, List.flatten_nil, List.append_nil, List.mem_append,
    List.mem_flatMap, List.mem_map, List.mem_cons, List.not_mem_nil, or_false, false_or,
    Option.mem_toList, h.aliased, h.usedBy, List.map_nil] at ht
  rcases ht with rfl | ⟨p, hp, ht⟩ | ⟨r, hr, ht⟩ | ⟨r, hr, rfl⟩ | ⟨l, hl, ht⟩ | ht
  · exact h.break_not_mem_name
  · have hcaptured := h.parameters p hp
    rcases ht with rfl | rfl | rfl | ht
    · exact break_not_mem_of_hasNo hcaptured.name
    · exact break_not_mem_of_isNormal hcaptured.defaultValue
    · exact break_not_mem_of_isNormal hcaptured.description
    · exact break_not_mem_of_isNormal (hcaptured.types t ht)
  · have hcaptured := h.returns r hr
    rcases ht with rfl | ht
    · exact break_not_mem_of_isNormal hcaptured.description
    · exact break_not_mem_of_isNormal (hcaptured.types t ht)
  · exact break_not_mem_of_isNormal (h.requires r hr)
  · have hcaptured := h.links l hl
    rcases ht with rfl | rfl
    · exact break_not_mem_of_hasNo hcaptured.url
    · rcases hcaptured.label with ⟨-, hlabel⟩ | hlabel
      · exact break_not_mem_of_isNormal hlabel
      · exact hlabel ▸ break_not_mem_of_hasNo hcaptured.url
  · apply break_not_mem_of_isNormal
    rcases ht with ht | ht | ht | ht | ht | ht | ht | ht | ht
    · exact h.aliasOf t ht
    · exact h.access t ht
    · exact h.value t ht
    · exact h.deprecated t ht
    · exact h.since t ht
    · exact h.author t ht
    · exact h.datatype t ht
    · exact h.throws t ht
    · exact h.todo t ht

/-! ### Whole passages -/

lemma isCaptured_empty : IsCaptured {} := by
  constructor <;> simp [isSigned, HasNo]

lemma isCaptured_step (hitem : item.IsCaptured) (hsigned : item.isSigned = false)
    (h : step item c s = .ok (item', rest)) : item'.IsCaptured := by
  unfold step at h
  split at h
  · cases h
    exact hitem
  · split at h
    · simp only at h
      split at h
      · cases h
      · rename_i tag hkeyword
        refine isCaptured_readTag ?_ hitem hsigned h
        exact fun kind heq => ne_var_of_ofKeyword? (heq ▸ hkeyword)
    · split at h
      · exact isCaptured_readVariable hitem hsigned h
      · cases h
        exact { hitem with }

/-- A step is made from an item without a signature: after a signature nothing is left to read. -/
lemma isCaptured_readOn (hitem : item.IsCaptured) (hsigned : item.isSigned = false)
    (h : readOn item s = .ok item') : item'.IsCaptured := by
  fun_induction readOn item s with
  | case1 item =>
    cases h
    exact hitem
  | case2 => cases h
  | case3 item c s next rest hstep ih =>
    have hnext := isCaptured_step hitem hsigned hstep
    by_cases hlast : next.isSigned = true
    · rw [rest_eq_nil_of_step hsigned hstep hlast, readOn] at h
      cases h
      exact hnext
    · exact ih hnext (by simpa using hlast) h

/-- Every item that is read has captured texts, of which the normal ones are those without blanks but
single spaces between words. Only its description can hold a line break. -/
theorem isCaptured_of_ofPassage {passage : List Char} (h : ofPassage passage = .ok item) :
    item.IsCaptured ∧ (∀ t, IsNormal t ↔ IsSpaced t.toList) ∧
      ∀ t ∈ item.texts, '\n' ∉ t.toList := by
  have hread : readOn {} passage = .ok item := by
    unfold ofPassage at h
    split at h
    · rename_i hread
      cases h
      exact hread
    · cases h
  have hcaptured := isCaptured_readOn isCaptured_empty rfl hread
  exact ⟨hcaptured, fun _ => isNormal_iff_isSpaced, hcaptured.break_not_mem⟩

/-- A passage in which groups, default values and declarations go over several lines. -/
def mistPassage : List Char :=
  "A layer  of mist.\n * Two  lines.\n@deprecated @since\t1.2  beta\n".toList
    ++ "@param \x7b color |\n map |  \x7d $tint(\n pale   blue ) -  The  tint.\n".toList
    ++ "@return \x7b\x7d\n@link a.example\n@link b.example  See   there\n".toList
    ++ "@requires \x7b var \x7d  depth  map\n@throws\tToo  deep\n".toList
    ++ "$depth:\n 1px\n !global 2px;\n@mixin  mist  layer (".toList

/-- The item of `mistPassage`. -/
def mistItem : Item where
  name := "mist layer"
  kind := some .mixin
  description := some "A layer  of mist.\nTwo  lines."
  parameters := [⟨["color", "map |"], "tint", "pale blue", "The tint."⟩]
  returns := some ⟨[""], ""⟩
  requires := [⟨"depth map", some .var⟩]
  links := [⟨"a.example", "a.example"⟩, ⟨"b.example", "See there"⟩]
  access := some "global"
  value := some "1px 2px"
  deprecated := some ""
  since := some "1.2 beta"
  throws := ["Too deep"]

theorem isCaptured_of_ofPassage_mistPassage :
    ofPassage mistPassage = .ok mistItem ∧ mistItem.IsCaptured ∧
      (∀ t ∈ mistItem.texts, '\n' ∉ t.toList) ∧ (∃ d ∈ mistItem.description, '\n' ∈ d.toList) := by
  have hitem : ofPassage mistPassage = .ok mistItem := by decide +kernel
  obtain ⟨hcaptured, -, hbreak⟩ := isCaptured_of_ofPassage hitem
  exact ⟨hitem, hcaptured, hbreak, _, rfl, by decide +kernel⟩

end Item

end Stylebook
