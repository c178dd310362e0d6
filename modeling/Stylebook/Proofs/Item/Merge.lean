import Mathlib
import Stylebook.Proofs.Item.Rest
import Stylebook.Proofs.Item.Types

/-!
# Reading passages in pieces

A passage that is cut between two lines can be read in two pieces. What the first piece says about
an item never changes how the second one is read, so the item of the whole is the merge of the two
items, unless a signature in the first piece has ended the reading. A fault of the second piece
stays the same fault, further down.
-/

namespace Stylebook

open Text

/-- The error with `p` in front of the text. -/
def ParseError.after (p : List Char) (e : ParseError) : ParseError :=
  { e with offset := e.offset + p.length, line := e.line + breaks p }

namespace Item

variable {p q s rest : List Char} {c : Char} {a b item item' : Item} {f : Fault}

/-- Whether a signature was read: the item is a function or a mixin. -/
def isSigned (item : Item) : Bool :=
  item.kind == some .function || item.kind == some .mixin

/-- The item of two pieces. Lists are joined, and so are descriptions, by a line break. Elsewhere
the later piece wins if it says anything; it gives a name only by a declaration. -/
def merge (a b : Item) : Item where
  name := if b.value.isSome || b.isSigned then b.name else a.name
  kind := b.kind <|> a.kind
  description := match a.description, b.description with
    | some x, some y => some (x ++ "\n" ++ y)
    | x, none => x
    | none, y => y
  parameters := a.parameters ++ b.parameters
  returns := b.returns <|> a.returns
  requires := a.requires ++ b.requires
  links := a.links ++ b.links
  aliasOf := b.aliasOf <|> a.aliasOf
  aliased := a.aliased ++ b.aliased
  usedBy := a.usedBy ++ b.usedBy
  access := b.access <|> a.access
  datatype := if b.datatype = [] then a.datatype else b.datatype
  value := b.value <|> a.value
  deprecated := b.deprecated <|> a.deprecated
  since := b.since <|> a.since
  author := b.author <|> a.author
  throws := a.throws ++ b.throws
  todo := a.todo ++ b.todo

@[simp] lemma merge_empty (a : Item) : a.merge {} = a := by
  obtain ⟨_, _, _ | _, _⟩ := a <;> simp [merge, isSigned]

lemma kind_of_isSigned_eq_false (h : item.isSigned = false) :
    item.kind = none ∨ item.kind = some .var := by
  unfold isSigned at h
  rcases hkind : item.kind with _ | _ | _ | _ <;> simp_all

@[simp] lemma isSigned_describe (item : Item) (text : String) :
    (item.describe text).isSigned = item.isSigned :=
  rfl

/-! ### Earlier pieces do not change how later ones are read -/

lemma merge_describe (a b : Item) (text : String) :
    (a.merge b).describe text = a.merge (b.describe text) := by
  cases ha : a.description <;> cases hb : b.description <;>
    simp [merge, describe, isSigned, ha, hb, String.append_assoc]

/-- A reading of a later piece, for the item of both. -/
def mergeRead (a : Item) (result : Except Fault (Item × List Char)) :
    Except Fault (Item × List Char) :=
  result.map (Prod.map a.merge id)

lemma readVariable_merge (ha : a.isSigned = false) (b : Item) (s : List Char) :
    readVariable (a.merge b) s = a.mergeRead (readVariable b s) := by
  unfold readVariable
  simp only
  split
  · rfl
  · -- A kind of the earlier piece can only be that of a variable, which a declaration gives anyway.
    rcases kind_of_isSigned_eq_false ha with hkind | hkind <;> cases hb : b.kind <;>
      simp [mergeRead, merge, Except.map, hkind, hb]

lemma ne_nil_of_readTypes {types : List String} (h : readTypes s = .ok (types, rest)) :
    types ≠ [] := by
  obtain ⟨r, group, -, -, rfl⟩ := readTypes_eq_ok_iff.1 h
  simp [splitTypes_ne_nil]

lemma readVarTag_merge (hb : b.isSigned = false) (s : List Char) :
    readVarTag (a.merge b) s = a.mergeRead (readVarTag b s) := by
  unfold readVarTag
  split
  · rfl
  · rename_i types r htypes
    -- The types are never empty, so they replace those of the earlier piece.
    have hmerge : { a.merge b with kind := some .var, datatype := types } =
        a.merge { b with kind := some .var, datatype := types } := by
      simp [merge, isSigned, ne_nil_of_readTypes htypes] at hb ⊢
      simp [hb]
    simp only [hmerge]
    split
    · rfl
    · split
      · rfl
      · rw [merge_describe]
        rfl

/-- A signature is that of a function or a mixin. -/
lemma ne_var_of_ofKeyword? {keyword : List Char} {kind : Kind}
    (h : Tag.ofKeyword? keyword = some (.signature kind)) : kind ≠ .var := by
  have hmem := mem_keywords_of_ofKeyword? h
  rintro rfl
  simp [Tag.keywords] at hmem

lemma readTag_merge {tag : Tag} (htag : ∀ kind, tag = .signature kind → kind ≠ .var)
    (hb : b.isSigned = false) (s : List Char) :
    readTag (a.merge b) tag s = a.mergeRead (readTag b tag s) := by
  cases tag with
  | deprecated =>
    simp only [readTag]
    split <;> rfl
  | requires =>
    simp only [readTag]
    split
    · rfl
    · simp [mergeRead, merge, isSigned, Except.map]
  | param =>
    simp only [readTag]
    split
    · rfl
    · simp [mergeRead, merge, isSigned, Except.map]
  | returns =>
    simp only [readTag]
    split <;> rfl
  | throws | todo | link => simp [readTag, mergeRead, merge, isSigned, Except.map]
  | var => exact readVarTag_merge hb s
  | signature kind =>
    have hkind := htag kind rfl
    cases kind with
    | function | mixin => simp [readTag, mergeRead, merge, isSigned, Except.map]
    | var => exact absurd rfl hkind
  | _ => rfl

lemma step_merge (ha : a.isSigned = false) (hb : b.isSigned = false) (c : Char) (s : List Char) :
    step (a.merge b) c s = a.mergeRead (step b c s) := by
  unfold step
  split
  · rfl
  · split
    · simp only
      split
      · rfl
      · rename_i tag hkeyword
        exact readTag_merge (fun kind heq => ne_var_of_ofKeyword? (heq ▸ hkeyword)) hb _
    · split
      · exact readVariable_merge ha b s
      · rw [merge_describe]
        rfl

/-! ### Signatures -/

lemma isSigned_of_readTag {tag : Tag} (htag : ∀ kind, tag ≠ .signature kind)
    (hitem : item.isSigned = false) (hread : readTag item tag s = .ok (item', rest)) :
    item'.isSigned = false := by
  cases tag with
  | deprecated =>
    simp only [readTag] at hread
    split at hread <;> cases hread <;> exact hitem
  | requires | param | returns =>
    simp only [readTag] at hread
    split at hread
    · cases hread
    · cases hread
      exact hitem
  | var =>
    simp only [readTag, readVarTag] at hread
    split at hread
    · cases hread
    · split at hread
      · cases hread
        rfl
      · cases hread
        split <;> rfl
  | signature kind => exact absurd rfl (htag kind)
  | _ =>
    cases hread
    exact hitem

lemma isSigned_of_readVariable (hitem : item.isSigned = false)
    (hread : readVariable item s = .ok (item', rest)) : item'.isSigned = false := by
  unfold readVariable at hread
  simp only at hread
  split at hread
  · cases hread
  · cases hread
    rcases kind_of_isSigned_eq_false hitem with hkind | hkind <;> simp [isSigned, hkind]

/-- Nothing is left after a signature. -/
lemma rest_eq_nil_of_step (hitem : item.isSigned = false)
    (hread : step item c s = .ok (item', rest)) (hsigned : item'.isSigned = true) : rest = [] := by
  unfold step at hread
  split at hread
  · cases hread
    simp [hitem] at hsigned
  · split at hread
    · simp only at hread
      split at hread
      · cases hread
      · rename_i tag _
        by_cases htag : ∃ kind, tag = .signature kind
        · obtain ⟨kind, rfl⟩ := htag
          cases hread
          rfl
        · simp [isSigned_of_readTag (fun kind heq => htag ⟨kind, heq⟩) hitem hread] at hsigned
    · split at hread
      · simp [isSigned_of_readVariable hitem hread] at hsigned
      · cases hread
        simp [hitem] at hsigned

/-! ### Reading in two pieces -/

/-- More text behind whole lines is what a tag leaves, unless the tag is a signature. -/
lemma readTag_append_whole {tag : Tag} (htag : ∀ kind, tag = .signature kind → kind ≠ .var)
    (h : EndsLine s) (hitem : item.isSigned = false)
    (hread : readTag item tag s = .ok (item', rest)) (q : List Char) :
    readTag item tag (s ++ q) = .ok (item', if item'.isSigned then [] else rest ++ q) := by
  by_cases hsignature : ∃ kind, tag = .signature kind
  · obtain ⟨kind, rfl⟩ := hsignature
    have hkind := htag kind rfl
    rw [readTag_signature_append h, hread]
    cases hread
    cases kind with
    | function | mixin => rfl
    | var => exact absurd rfl hkind
  · have hother : ∀ kind, tag ≠ .signature kind := fun kind heq => hsignature ⟨kind, heq⟩
    rw [readTag_append h hother hread, isSigned_of_readTag hother hitem hread]
    rfl

lemma step_append (h : EndsLine (c :: s)) (hitem : item.isSigned = false)
    (hread : step item c s = .ok (item', rest)) (q : List Char) :
    step item c (s ++ q) = .ok (item', if item'.isSigned then [] else rest ++ q) := by
  unfold step at hread ⊢
  split at hread
  · rename_i hpassed
    cases hread
    simp [hpassed, hitem]
  · rename_i hpassed
    have hs : EndsLine s := h.tail fun hc => hpassed (hc ▸ rfl)
    rw [if_neg hpassed]
    split at hread
    · rename_i hat
      have hword : EndsLine (fromStop isWordEnd s) := hs.fromStop _ rfl
      simp only [hat, if_true, hs.before_append isWordEnd rfl, hs.fromStop_append isWordEnd rfl,
        hword.skipSpaces_append] at hread ⊢
      split at hread
      · cases hread
      · rename_i tag hkeyword
        exact readTag_append_whole (fun kind heq => ne_var_of_ofKeyword? (heq ▸ hkeyword))
          hword.skipSpaces hitem hread q
    · rename_i hat
      rw [if_neg hat]
      split at hread
      · rename_i hdollar
        rw [if_pos hdollar, readVariable_append hs hread,
          isSigned_of_readVariable hitem hread]
        rfl
      · rename_i hdollar
        cases hread
        rw [if_neg hdollar, hs.line_append, hs.nextLine_append, isSigned_describe, hitem]
        rfl

/-- A reading of whole lines goes on with the text behind them, unless it has found a signature. -/
lemma readOn_append (hp : IsWhole p) (hitem : item.isSigned = false)
    (hread : readOn item p = .ok a) (q : List Char) :
    readOn item (p ++ q) = if a.isSigned then .ok a else readOn a q := by
  fun_induction readOn item p with
  | case1 item =>
    cases hread
    simp [hitem]
  | case2 => cases hread
  | case3 item c s item' rest hstep ih =>
    have hline : EndsLine (c :: s) := by simpa [IsWhole] using hp
    have hsuffix := leavesSuffix_step item c s
    rw [hstep] at hsuffix
    rw [List.cons_append, readOn_of_step (step_append hline hitem hstep q)]
    by_cases hsigned : item'.isSigned = true
    · -- Nothing is left of the first piece, and the second is not looked at.
      rw [rest_eq_nil_of_step hitem hstep hsigned, readOn] at hread
      cases hread
      simp [hsigned, readOn]
    · simp only [hsigned]
      exact ih (hline.isWhole_of_suffix hsuffix) (by simpa using hsigned) hread

/-- Reading on from a merged item merges what is read. -/
lemma readOn_merge (ha : a.isSigned = false) (hb : b.isSigned = false) (s : List Char) :
    readOn (a.merge b) s = (readOn b s).map a.merge := by
  fun_induction readOn b s with
  | case1 b => rw [readOn]; rfl
  | case2 b c s f hstep =>
    have hmerge := step_merge ha hb c s
    rw [hstep] at hmerge
    exact readOn_of_step_eq_error hmerge
  | case3 b c s b' rest hstep ih =>
    have hmerge := step_merge ha hb c s
    rw [hstep] at hmerge
    rw [readOn_of_step hmerge]
    by_cases hsigned : b'.isSigned = true
    · rw [rest_eq_nil_of_step hb hstep hsigned, id, readOn, readOn]
      rfl
    · exact ih (by simpa using hsigned)

/-- A fault of the later piece lies further down in the whole. -/
lemma ofFault_append (p : List Char) (h : f.rest <:+ q) :
    ParseError.ofFault (p ++ q) f = (ParseError.ofFault q f).after p := by
  have hlen : f.rest.length ≤ q.length := h.length_le
  have hoffset : (p ++ q).length - f.rest.length = p.length + (q.length - f.rest.length) := by
    rw [List.length_append]
    omega
  simp only [ParseError.ofFault, ParseError.after, hoffset, List.take_length_add_append, breaks,
    List.count_append, ParseError.mk.injEq, true_and]
  omega

/-- The item of a passage that is cut between two lines. -/
theorem ofPassage_append (hp : IsWhole p) (ha : ofPassage p = .ok a) (q : List Char) :
    ofPassage (p ++ q) =
      if a.isSigned then .ok a
      else match ofPassage q with
        | .ok b => .ok (a.merge b)
        | .error e => .error (e.after p) := by
  have hread : readOn {} p = .ok a := by
    unfold ofPassage at ha
    split at ha
    · rename_i hread
      cases ha
      exact hread
    · cases ha
  have happend := readOn_append hp rfl hread q
  by_cases hsigned : a.isSigned = true
  · rw [if_pos hsigned] at happend ⊢
    simp only [ofPassage, happend]
  · rw [if_neg hsigned] at happend ⊢
    -- The rest of the reading starts from `a`, which is `a` merged with nothing.
    have hmerge := readOn_merge (by simpa using hsigned) (b := {}) rfl q
    rw [merge_empty] at hmerge
    rw [hmerge] at happend
    unfold ofPassage
    cases hq : readOn {} q with
    | ok b => simp only [happend, hq, Except.map]
    | error f =>
      simp only [happend, hq, Except.map, ofFault_append p (suffix_of_readOn_eq_error hq)]

/-- Documentation of a variable, cut before its declaration. -/
def sizeNotes : List Char :=
  "Size of a column.\n@deprecated @since 1.2\n@var \x7blength | number\x7d - In pixels.\n".toList

/-- The item of `sizeNotes`. -/
def sizeItem : Item where
  kind := some .var
  description := some "Size of a column.\nIn pixels."
  datatype := ["length", "number"]
  deprecated := some ""
  since := some "1.2"

theorem ofPassage_append_sizeNotes :
    IsWhole sizeNotes ∧ ofPassage sizeNotes = .ok sizeItem ∧
      ofPassage (sizeNotes ++ "$size:\n 12px !global;\nNever zero.".toList) =
        .ok { sizeItem with
          name := "size"
          access := some "global"
          value := some "12px"
          description := some "Size of a column.\nIn pixels.\nNever zero." } ∧
      ofPassage (sizeNotes ++ "\n@requires \x7bcolor\x7d red".toList) =
        .error
          { kind := .invalidRequirement
            text := "'color' is not a valid kind of @requires, use `function`, `mixin` or `var`"
            offset := 95
            line := 5 } := by
  have hwhole : IsWhole sizeNotes := by decide
  have hitem : ofPassage sizeNotes = .ok sizeItem := by decide +kernel
  refine ⟨hwhole, hitem, ?_, ?_⟩
  · rw [ofPassage_append hwhole hitem]
    decide +kernel
  · rw [ofPassage_append hwhole hitem]
    decide +kernel

end Item

end Stylebook
