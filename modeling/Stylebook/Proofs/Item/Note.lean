import Mathlib
import Stylebook.Proofs.Item.Rest
import Stylebook.Proofs.Item.Types

/-!
# Notes

The documentation of an item is a sequence of notes, one to a line: lines of the description and
tags with their texts. Each note has a written line and an effect on the item. A note is canonical
if its line says all that the note holds; reading the line of a canonical note then has the effect
of the note, whatever has been read before and whatever follows.
-/

namespace Stylebook

open Text

/-- One line of documentation. -/
inductive Note where
  | description (text : List Char)
  | param (p : Parameter)
  | returns (r : Returned)
  | requires (r : Requirement)
  | link (l : Link)
  | access (text : String)
  | since (text : String)
  | aliasOf (text : String)
  | author (text : String)
  | deprecated (text : String)
  | throws (text : String)
  | todo (text : String)
  | var (types : List String)

/-! ### Written notes -/

/-- The line of a tag. -/
def tagLine (keyword : String) (text : List Char) : List Char :=
  '@' :: (keyword.toList ++ ' ' :: text)

/-- The word that declares the kind of a requirement. -/
def Kind.word : Kind → String
  | .function => "function"
  | .mixin => "mixin"
  | .var => "var"

namespace Note

/-- The default value of a parameter in parentheses, nothing if it is empty. -/
def defaultText (value : String) : List Char :=
  if value = "" then [] else ' ' :: '(' :: (value.toList ++ [')'])

/-- The text of a parameter. -/
def paramText (p : Parameter) : List Char :=
  Item.typeGroup p.types ++ ' ' :: '$' :: (p.name.toList
    ++ (defaultText p.defaultValue ++ ' ' :: '-' :: ' ' :: p.description.toList))

/-- The text of a requirement. -/
def requirementText (r : Requirement) : List Char :=
  match r.kind with
  | some kind => '{' :: (kind.word.toList ++ '}' :: ' ' :: r.target.toList)
  | none => r.target.toList

/-- A note as a line, without the line break. -/
def line : Note → List Char
  | description text => text
  | param p => tagLine "param" (paramText p)
  | returns r => tagLine "return"
      (Item.typeGroup r.types ++ ' ' :: '-' :: ' ' :: r.description.toList)
  | requires r => tagLine "requires" (requirementText r)
  | link l => tagLine "link" (l.url.toList ++ ' ' :: l.label.toList)
  | access text => tagLine "access" text.toList
  | since text => tagLine "since" text.toList
  | aliasOf text => tagLine "alias" text.toList
  | author text => tagLine "author" text.toList
  | deprecated text => tagLine "deprecated" text.toList
  | throws text => tagLine "throws" text.toList
  | todo text => tagLine "todo" text.toList
  | var types => tagLine "var" (Item.typeGroup types)

/-- The item to which a note has been added. -/
def addTo (item : Item) : Note → Item
  | description text => item.describe (String.ofList text)
  | param p => { item with parameters := item.parameters ++ [p] }
  | returns r => { item with returns := some r }
  | requires r => { item with requires := item.requires ++ [r] }
  | link l => { item with links := item.links ++ [l] }
  | access text => { item with access := some text }
  | since text => { item with since := some text }
  | aliasOf text => { item with aliasOf := some text }
  | author text => { item with author := some text }
  | deprecated text => { item with deprecated := some text }
  | throws text => { item with throws := item.throws ++ [text] }
  | todo text => { item with todo := item.todo ++ [text] }
  | var types => { item with kind := some .var, datatype := types }

/-! ### Canonical notes -/

/-- Whether a line that starts with `c` belongs to the description. -/
def opensDescription (c : Char) : Bool :=
  !Item.isPassedOver c && c != '@' && c != '$'

/-- Notes whose lines say all that they hold. -/
def IsCanonical : Note → Prop
  | description text => IsLine text ∧ text.head?.any opensDescription = true
  | param p => Item.IsGroup p.types ∧ HasNo Item.endsParameterName p.name
      ∧ IsNormal p.defaultValue ∧ ')' ∉ p.defaultValue.toList ∧ IsNormal p.description
  | returns r => Item.IsGroup r.types ∧ IsNormal r.description
  | requires r => IsNormal r.target ∧ (r.kind = none → r.target.toList.head? ≠ some '{')
  | link l => HasNo isWordEnd l.url ∧ IsNormal l.label ∧ (l.label = "" ↔ l.url = "")
  | deprecated text => IsNormal text ∧ text.toList.head? ≠ some '@'
  | access text | since text | aliasOf text | author text | throws text | todo text =>
    IsNormal text
  | var types => Item.IsGroup types

instance (s : List Char) : Decidable (IsLine s) :=
  inferInstanceAs (Decidable (_ ∧ _))

instance : (n : Note) → Decidable n.IsCanonical
  | description _ | param _ | returns _ | requires _ | link _ | deprecated _ =>
    inferInstanceAs (Decidable (_ ∧ _))
  | access text | since text | aliasOf text | author text | throws text | todo text =>
    inferInstanceAs (Decidable (IsNormal text))
  | var types => inferInstanceAs (Decidable (Item.IsGroup types))

end Note

/-! ### Normal texts at the end of a line -/

namespace Text.IsNormal

variable {t : String}

lemma not_mem_break (h : IsNormal t) : '\n' ∉ t.toList :=
  h.not_mem (by decide) (by decide)

lemma skipSpaces_append_cons (h : IsNormal t) {c : Char} (hc : isSpaceOrTab c = false)
    (r : List Char) : skipSpaces (t.toList ++ c :: r) = t.toList ++ c :: r := by
  cases hlist : t.toList with
  | nil => exact skipSpaces_cons hc
  | cons x s =>
    have hx : isBlank x = false := h.isBlank_head (by rw [hlist]; rfl)
    apply skipSpaces_cons
    by_contra hspace
    have hword := isWordEnd_of_isSpaceOrTab (by simpa using hspace)
    simp [isBlank_of_isWordEnd hword] at hx

lemma skipSpaces_append (h : IsNormal t) (r : List Char) :
    skipSpaces (t.toList ++ '\n' :: r) = t.toList ++ '\n' :: r :=
  h.skipSpaces_append_cons (by decide) r

lemma restOfLine_append (h : IsNormal t) (r : List Char) :
    Item.restOfLine (t.toList ++ '\n' :: r) = t := by
  rw [Item.restOfLine, line_append_break h.not_mem_break]
  exact h

lemma nextLine_append (h : IsNormal t) (r : List Char) : nextLine (t.toList ++ '\n' :: r) = r :=
  nextLine_append_break h.not_mem_break r

end Text.IsNormal

/-! ### Notes stay on their lines -/

namespace Note

/-- Characters that neither break a line nor merge with its break. -/
def staysOnLine (c : Char) : Bool :=
  c != '\n' && c != '\r'

lemma isLine_of_forall {s : List Char} (h : ∀ x ∈ s, staysOnLine x = true) : IsLine s := by
  refine ⟨fun hm => by simpa [staysOnLine] using h _ hm, fun hlast => ?_⟩
  simpa [staysOnLine] using h _ (List.mem_of_getLast? hlast)

lemma staysOnLine_of_not_mem {s : List Char} (hn : '\n' ∉ s) (hr : '\r' ∉ s) :
    ∀ x ∈ s, staysOnLine x = true := by
  intro x hx
  have hxn : x ≠ '\n' := fun h => hn (h ▸ hx)
  have hxr : x ≠ '\r' := fun h => hr (h ▸ hx)
  simp [staysOnLine, hxn, hxr]

lemma staysOnLine_of_word {w : List Char} (h : ∀ x ∈ w, isWordEnd x = false) :
    ∀ x ∈ w, staysOnLine x = true :=
  staysOnLine_of_not_mem (fun hm => absurd (h _ hm) (by decide))
    fun hm => absurd (h _ hm) (by decide)

lemma staysOnLine_of_normal {t : String} (h : IsNormal t) :
    ∀ x ∈ t.toList, staysOnLine x = true :=
  staysOnLine_of_not_mem h.not_mem_break (h.not_mem (by decide) (by decide))

lemma staysOnLine_of_group {types : List String} (h : Item.IsGroup types) :
    ∀ x ∈ Item.typeGroup types, staysOnLine x = true := by
  have hn : '\n' ∉ Item.joinTypes types := h.not_mem_joinTypes (Or.inr ⟨by decide, by decide⟩)
  have hr : '\r' ∉ Item.joinTypes types := h.not_mem_joinTypes (Or.inr ⟨by decide, by decide⟩)
  exact staysOnLine_of_not_mem (by simp [Item.typeGroup, hn]) (by simp [Item.typeGroup, hr])

lemma isLine_tagLine {keyword : String} {text : List Char}
    (hk : keyword.toList.all staysOnLine = true) (ht : ∀ x ∈ text, staysOnLine x = true) :
    IsLine (tagLine keyword text) := by
  apply isLine_of_forall
  simp only [tagLine, List.forall_mem_cons, List.forall_mem_append]
  exact ⟨by decide, List.all_eq_true.1 hk, by decide, ht⟩

lemma staysOnLine_paramText {p : Parameter} (h : (param p).IsCanonical) :
    ∀ x ∈ paramText p, staysOnLine x = true := by
  obtain ⟨htypes, hname, hdefault, -, hdescription⟩ := h
  have hword : ∀ x ∈ p.name.toList, isWordEnd x = false := fun x hx => by
    have := hname x hx
    simp only [Item.endsParameterName, Bool.or_eq_false_iff] at this
    exact this.1
  have hvalue : ∀ x ∈ defaultText p.defaultValue, staysOnLine x = true := by
    rw [defaultText]
    split
    · simp
    · simp only [List.forall_mem_cons, List.forall_mem_append]
      exact ⟨by decide, by decide, staysOnLine_of_normal hdefault, by decide, by simp⟩
  simp only [paramText, List.forall_mem_cons, List.forall_mem_append]
  exact ⟨staysOnLine_of_group htypes, by decide, by decide, staysOnLine_of_word hword, hvalue,
    by decide, by decide, by decide, staysOnLine_of_normal hdescription⟩

lemma staysOnLine_requirementText {r : Requirement} (h : (requires r).IsCanonical) :
    ∀ x ∈ requirementText r, staysOnLine x = true := by
  have htarget := staysOnLine_of_normal h.1
  unfold requirementText
  split
  · rename_i kind _
    have hword : kind.word.toList.all staysOnLine = true := by cases kind <;> decide
    simp only [List.forall_mem_cons, List.forall_mem_append]
    exact ⟨by decide, List.all_eq_true.1 hword, by decide, by decide, htarget⟩
  · exact htarget

/-- A canonical note is written on one line. -/
theorem isLine_line {n : Note} (h : n.IsCanonical) : IsLine n.line := by
  cases n with
  | description text => exact h.1
  | param p => exact isLine_tagLine (by decide) (staysOnLine_paramText h)
  | returns r =>
    refine isLine_tagLine (by decide) ?_
    simp only [List.forall_mem_cons, List.forall_mem_append]
    exact ⟨staysOnLine_of_group h.1, by decide, by decide, by decide, staysOnLine_of_normal h.2⟩
  | requires r => exact isLine_tagLine (by decide) (staysOnLine_requirementText h)
  | link l =>
    refine isLine_tagLine (by decide) ?_
    simp only [List.forall_mem_cons, List.forall_mem_append]
    exact ⟨staysOnLine_of_word h.1, by decide, staysOnLine_of_normal h.2.1⟩
  | deprecated text => exact isLine_tagLine (by decide) (staysOnLine_of_normal h.1)
  | access text => exact isLine_tagLine (by decide) (staysOnLine_of_normal h)
  | since text => exact isLine_tagLine (by decide) (staysOnLine_of_normal h)
  | aliasOf text => exact isLine_tagLine (by decide) (staysOnLine_of_normal h)
  | author text => exact isLine_tagLine (by decide) (staysOnLine_of_normal h)
  | throws text => exact isLine_tagLine (by decide) (staysOnLine_of_normal h)
  | todo text => exact isLine_tagLine (by decide) (staysOnLine_of_normal h)
  | var types => exact isLine_tagLine (by decide) (staysOnLine_of_group h)

/-- The line of a canonical note starts with a character that is neither space nor tab. -/
lemma skipSpaces_line {n : Note} (h : n.IsCanonical) (r : List Char) :
    skipSpaces (n.line ++ r) = n.line ++ r := by
  cases n with
  | description text =>
    obtain ⟨-, hopens⟩ := h
    cases text with
    | nil => simp at hopens
    | cons x s =>
      apply skipSpaces_cons
      by_contra hspace
      have hword := isWordEnd_of_isSpaceOrTab (by simpa using hspace)
      simp [opensDescription, Item.isPassedOver, hword] at hopens
  | _ => exact skipSpaces_cons (by decide)

end Note

/-! ### Reading notes -/

namespace Item

variable {item item' : Item} {c : Char} {s rest text : List Char} {keyword : String} {tag : Tag}

/-- Keywords are words. -/
lemma isWordEnd_of_ofKeyword? {word : List Char} (h : Tag.ofKeyword? word = some tag) :
    ∀ x ∈ word, isWordEnd x = false := by
  have hall : ∀ p ∈ Tag.keywords, p.1.toList.all (!isWordEnd ·) = true := by
    unfold Tag.keywords
    decide
  simpa using hall _ (mem_keywords_of_ofKeyword? h)

lemma step_tagLine (hk : Tag.ofKeyword? keyword.toList = some tag) (item : Item)
    (text : List Char) :
    step item '@' (keyword.toList ++ ' ' :: text) = readTag item tag (skipSpaces text) := by
  have hword := isWordEnd_of_ofKeyword? hk
  have hbefore : before isWordEnd (keyword.toList ++ ' ' :: text) = keyword.toList :=
    before_append_cons hword (by decide)
  have hfrom : fromStop isWordEnd (keyword.toList ++ ' ' :: text) = ' ' :: text :=
    fromStop_append_cons hword (by decide)
  simp [step, isPassedOver, isWordEnd, hbefore, hfrom, hk]

lemma readOn_tagLine (hk : Tag.ofKeyword? keyword.toList = some tag)
    (hr : readTag item tag (skipSpaces (text ++ '\n' :: rest)) = .ok (item', rest)) :
    readOn item (tagLine keyword text ++ '\n' :: rest) = readOn item' rest := by
  rw [tagLine, List.cons_append, List.append_assoc]
  exact readOn_of_step ((step_tagLine hk item _).trans hr)

/-- A tag that captures the rest of its line captures a normal text as it is. -/
lemma readOn_textLine {t : String} (note : String → Note)
    (hk : Tag.ofKeyword? keyword.toList = some tag) (hn : IsNormal t)
    (hr : ∀ s, readTag item tag s = .ok ((note (restOfLine s)).addTo item, nextLine s)) :
    readOn item (tagLine keyword t.toList ++ '\n' :: rest) = readOn ((note t).addTo item) rest := by
  refine readOn_tagLine hk ?_
  rw [hn.skipSpaces_append, hr, hn.restOfLine_append, hn.nextLine_append]

lemma readDefault_defaultText {value : String} (hn : IsNormal value) (hp : ')' ∉ value.toList)
    (s : List Char) :
    readDefault (skipSpaces (Note.defaultText value ++ ' ' :: '-' :: s)) =
      .ok (value, '-' :: s) := by
  have hhyphen : skipSpaces (' ' :: '-' :: s) = '-' :: s := by
    rw [skipSpaces_space, skipSpaces_cons (by decide)]
  by_cases hv : value = ""
  · rw [Note.defaultText, if_pos hv, List.nil_append, hhyphen, hv]
    rfl
  · have hcut : cutAt? (· == ')') (value.toList ++ ')' :: ' ' :: '-' :: s) =
        some (value.toList, ' ' :: '-' :: s) := cutAt?_append_char hp _
    have hskip : skipSpaces (Note.defaultText value ++ ' ' :: '-' :: s) =
        '(' :: (value.toList ++ ')' :: ' ' :: '-' :: s) := by
      simp [Note.defaultText, hv, skipSpaces_cons (show isSpaceOrTab '(' = false by decide)]
    have hcaptured : captured value.toList = value := hn
    simp only [hskip, readDefault, hcut, hcaptured, hhyphen]

/-- The text behind a hyphen is not looked at. -/
lemma skipHyphen_normal {t : String} (h : IsNormal t) (rest : List Char) :
    skipHyphen ('-' :: ' ' :: (t.toList ++ '\n' :: rest)) = t.toList ++ '\n' :: rest := by
  rw [skipHyphen, skipSpaces_space, h.skipSpaces_append]

lemma readParameter_paramText {p : Parameter} (h : (Note.param p).IsCanonical)
    (rest : List Char) :
    readParameter (Note.paramText p ++ '\n' :: rest) = .ok (p, rest) := by
  obtain ⟨htypes, hname, hdefault, hparen, hdescription⟩ := h
  have htext : Note.paramText p ++ '\n' :: rest = typeGroup p.types ++ ' ' :: '$' ::
      (p.name.toList ++ (Note.defaultText p.defaultValue ++
        ' ' :: '-' :: ' ' :: (p.description.toList ++ '\n' :: rest))) := by
    simp [Note.paramText]
  -- The name is followed by a space, whether or not a default value is written.
  obtain ⟨s, hs⟩ : ∃ s, Note.defaultText p.defaultValue ++
      ' ' :: '-' :: ' ' :: (p.description.toList ++ '\n' :: rest) = ' ' :: s := by
    rw [Note.defaultText]
    split
    · exact ⟨_, rfl⟩
    · exact ⟨_, rfl⟩
  have hbefore : before endsParameterName (p.name.toList ++ ' ' :: s) = p.name.toList :=
    before_append_cons hname (by decide)
  have hfrom : fromStop endsParameterName (p.name.toList ++ ' ' :: s) = ' ' :: s :=
    fromStop_append_cons hname (by decide)
  have hvalue := readDefault_defaultText hdefault hparen
    (' ' :: (p.description.toList ++ '\n' :: rest))
  rw [hs] at htext hvalue
  have hdollar : skipSpaces (' ' :: '$' :: (p.name.toList ++ ' ' :: s)) =
      '$' :: (p.name.toList ++ ' ' :: s) := by
    rw [skipSpaces_space, skipSpaces_cons (by decide)]
  simp only [readParameter, htext, readTypes_typeGroup htypes, hdollar, hbefore, hfrom, hvalue,
    skipHyphen_normal hdescription, hdescription.restOfLine_append, hdescription.nextLine_append,
    String.ofList_toList]

lemma readReturned_text {r : Returned} (h : (Note.returns r).IsCanonical) (rest : List Char) :
    readReturned
        (typeGroup r.types ++ ' ' :: '-' :: ' ' :: (r.description.toList ++ '\n' :: rest)) =
      .ok (r, rest) := by
  obtain ⟨htypes, hdescription⟩ := h
  simp only [readReturned, readTypes_typeGroup htypes, skipSpaces_space,
    skipSpaces_cons (show isSpaceOrTab '-' = false by decide), skipHyphen_normal hdescription,
    hdescription.restOfLine_append, hdescription.nextLine_append]

lemma skipSpaces_requirementText {r : Requirement} (h : (Note.requires r).IsCanonical)
    (rest : List Char) :
    skipSpaces (Note.requirementText r ++ '\n' :: rest) =
      Note.requirementText r ++ '\n' :: rest := by
  unfold Note.requirementText
  split
  · rw [List.cons_append, skipSpaces_cons (by decide)]
  · exact h.1.skipSpaces_append rest

lemma readRequirement_text {r : Requirement} (h : (Note.requires r).IsCanonical)
    (rest : List Char) :
    readRequirement (Note.requirementText r ++ '\n' :: rest) = .ok (r, rest) := by
  obtain ⟨target, kind⟩ := r
  obtain ⟨hn, hbrace⟩ := h
  cases kind with
  | none =>
    have hkind : readRequiredKind (target.toList ++ '\n' :: rest) =
        .ok (none, target.toList ++ '\n' :: rest) := by
      unfold readRequiredKind
      split
      · rename_i heq
        cases hlist : target.toList with
        | nil => simp [hlist] at heq
        | cons x s =>
          rw [hlist, List.cons_append] at heq
          cases heq
          exact absurd (by rw [hlist]; rfl) (hbrace rfl)
      · rfl
    simp only [readRequirement, Note.requirementText, hkind, hn.restOfLine_append,
      hn.nextLine_append]
  | some kind =>
    have hword : '}' ∉ kind.word.toList := by cases kind <;> decide
    have hlookup : Requirement.kinds.lookup (captured kind.word.toList) = some kind := by
      cases kind <;> decide
    have hkind : readRequiredKind ('{' :: (kind.word.toList ++ '}' :: ' ' ::
        (target.toList ++ '\n' :: rest))) = .ok (some kind, target.toList ++ '\n' :: rest) := by
      simp only [readRequiredKind, cutAt?_append_char hword, hlookup, skipSpaces_space,
        hn.skipSpaces_append]
    simp only [readRequirement, Note.requirementText, List.cons_append, List.append_assoc, hkind,
      hn.restOfLine_append, hn.nextLine_append]

lemma readLink_text {l : Link} (h : (Note.link l).IsCanonical) (rest : List Char) :
    readLink (skipSpaces (l.url.toList ++ ' ' :: (l.label.toList ++ '\n' :: rest))) =
      (l, rest) := by
  obtain ⟨url, label⟩ := l
  obtain ⟨hurl, hlabel, hempty⟩ := h
  by_cases hu : url = ""
  · have hl : label = "" := hempty.2 hu
    subst hu hl
    rfl
  · have hskip : skipSpaces (url.toList ++ ' ' :: (label.toList ++ '\n' :: rest)) =
        url.toList ++ ' ' :: (label.toList ++ '\n' :: rest) :=
      skipSpaces_word (by simpa using hu) hurl _
    have hbefore : before isWordEnd (url.toList ++ ' ' :: (label.toList ++ '\n' :: rest)) =
        url.toList := before_append_cons hurl (by decide)
    have hfrom : fromStop isWordEnd (url.toList ++ ' ' :: (label.toList ++ '\n' :: rest)) =
        ' ' :: (label.toList ++ '\n' :: rest) := fromStop_append_cons hurl (by decide)
    have hl : label.isEmpty = false := by simpa using fun hl => hu (hempty.1 hl)
    simp only [readLink, hskip, hbefore, hfrom, skipSpaces_space, hlabel.skipSpaces_append,
      hlabel.restOfLine_append, hlabel.nextLine_append, Link.of, hl, String.ofList_toList,
      Bool.false_eq_true, ↓reduceIte]

/-- Reading the line of a canonical note adds the note. -/
theorem readOn_line {n : Note} (h : n.IsCanonical) (item : Item) (rest : List Char) :
    readOn item (n.line ++ '\n' :: rest) = readOn (n.addTo item) rest := by
  cases n with
  | description text =>
    obtain ⟨⟨hbreak, -⟩, hopens⟩ := h
    obtain ⟨x, s, rfl⟩ : ∃ x s, text = x :: s := by
      cases text with
      | nil => simp at hopens
      | cons x s => exact ⟨x, s, rfl⟩
    simp only [List.head?_cons, Option.any_some, Note.opensDescription, Bool.and_eq_true,
      Bool.not_eq_true', bne_iff_ne, ne_eq] at hopens
    obtain ⟨⟨hpassed, hat⟩, hdollar⟩ := hopens
    have hs : '\n' ∉ s := fun hm => hbreak (List.mem_cons_of_mem _ hm)
    refine readOn_of_step (s := s ++ '\n' :: rest) ?_
    simp only [step, hpassed, hat, hdollar, Bool.false_eq_true, ↓reduceIte, Note.addTo,
      line_append_break hs, nextLine_append_break hs]
  | param p =>
    have hk : Tag.ofKeyword? "param".toList = some .param := rfl
    have hskip : skipSpaces (Note.paramText p ++ '\n' :: rest) =
        Note.paramText p ++ '\n' :: rest := by
      rw [Note.paramText, List.append_assoc, skipSpaces_typeGroup]
    refine readOn_tagLine hk ?_
    simp only [readTag, hskip, readParameter_paramText h, Note.addTo]
  | returns r =>
    have hk : Tag.ofKeyword? "return".toList = some .returns := rfl
    refine readOn_tagLine hk ?_
    simp only [readTag, List.append_assoc, List.cons_append, skipSpaces_typeGroup,
      readReturned_text h, Note.addTo]
  | requires r =>
    have hk : Tag.ofKeyword? "requires".toList = some .requires := rfl
    refine readOn_tagLine hk ?_
    simp only [readTag, skipSpaces_requirementText h, readRequirement_text h, Note.addTo]
  | link l =>
    have hk : Tag.ofKeyword? "link".toList = some .link := rfl
    refine readOn_tagLine hk ?_
    simp only [readTag, List.append_assoc, List.cons_append, readLink_text h, Note.addTo]
  | access text =>
    have hk : Tag.ofKeyword? "access".toList = some .access := rfl
    exact readOn_textLine .access hk h fun _ => rfl
  | since text =>
    have hk : Tag.ofKeyword? "since".toList = some .since := rfl
    exact readOn_textLine .since hk h fun _ => rfl
  | aliasOf text =>
    have hk : Tag.ofKeyword? "alias".toList = some .aliasOf := rfl
    exact readOn_textLine .aliasOf hk h fun _ => rfl
  | author text =>
    have hk : Tag.ofKeyword? "author".toList = some .author := rfl
    exact readOn_textLine .author hk h fun _ => rfl
  | deprecated text =>
    obtain ⟨hn, hat⟩ := h
    have hk : Tag.ofKeyword? "deprecated".toList = some .deprecated := rfl
    have hhead : (text.toList ++ '\n' :: rest).head? ≠ some '@' := by
      cases hlist : text.toList with
      | nil => simp
      | cons x s => simpa [hlist] using hat
    refine readOn_tagLine hk ?_
    simp only [readTag, hn.skipSpaces_append, hhead, hn.restOfLine_append, hn.nextLine_append,
      Note.addTo, ↓reduceIte]
  | throws text =>
    have hk : Tag.ofKeyword? "throws".toList = some .throws := rfl
    exact readOn_textLine .throws hk h fun _ => rfl
  | todo text =>
    have hk : Tag.ofKeyword? "todo".toList = some .todo := rfl
    exact readOn_textLine .todo hk h fun _ => rfl
  | var types =>
    have hk : Tag.ofKeyword? "var".toList = some .var := rfl
    refine readOn_tagLine hk ?_
    simp only [readTag, readVarTag, skipSpaces_typeGroup, readTypes_typeGroup h]
    rfl

end Item

end Stylebook
