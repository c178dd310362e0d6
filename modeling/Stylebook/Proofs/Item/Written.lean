import Mathlib
import Stylebook.Proofs.Item.Note

/-!
# Written items

An item is written as its notes, line by line, followed by the line that declares it. The item is
canonical if its notes are and if nothing of it goes missing in the declaration. Reading the notes
and the declaration of a canonical item gives the item.
-/

namespace Stylebook.Item

open Text

/-! ### Notes and declaration of an item -/

/-- The lines of the description. -/
def descriptionNotes (item : Item) : List Note :=
  item.description.toList.flatMap fun d => (splitOn '\n' d.toList).map .description

/-- The types of a variable, if it has some. -/
def datatypeNotes (item : Item) : List Note :=
  if item.kind = some .var ∧ item.datatype ≠ [] then [.var item.datatype] else []

/-- All that documents an item, in the order in which it is written. -/
def notes (item : Item) : List Note :=
  item.descriptionNotes
  ++ item.parameters.map .param
  ++ item.returns.toList.map .returns
  ++ item.requires.map .requires
  ++ item.links.map .link
  ++ item.access.toList.map .access
  ++ item.since.toList.map .since
  ++ item.aliasOf.toList.map .aliasOf
  ++ item.author.toList.map .author
  ++ item.deprecated.toList.map .deprecated
  ++ item.throws.map .throws
  ++ item.todo.map .todo
  ++ item.datatypeNotes

/-- The line that declares an item: a variable with its value, a function or mixin with its name and
whatever follows the parenthesis behind the name. -/
def declaration (item : Item) (tail : List Char) : List Char :=
  match item.kind with
  | none => []
  | some .var => '$' :: (item.name.toList ++ ':' :: ' ' :: ((item.value.getD "").toList ++ [';']))
  | some kind => tagLine kind.name (item.name.toList ++ '(' :: tail)

/-- The flag that makes a variable global. -/
def globalFlag : List Char := ['!', 'g', 'l', 'o', 'b', 'a', 'l']

/-- A value that a declaration can hold. -/
structure IsValue (v : String) : Prop where
  normal : IsNormal v
  no_semicolon : ';' ∉ v.toList
  no_flag : ¬ globalFlag <:+: v.toList

/-- Items of which nothing goes missing in their declaration. -/
def IsDeclared (item : Item) : Prop :=
  match item.kind with
  | none => False
  | some .var => HasNo endsVariableName item.name ∧ (∃ v ∈ item.value, IsValue v)
      ∧ item.access = some "scoped"
  | some _ => IsNormal item.name ∧ HasNo endsSignatureName item.name
      ∧ item.value = none ∧ item.datatype = []

/-- Items whose written form says all that they hold. Nothing is written about the items that name
an item, so there may be none. -/
structure IsCanonical (item : Item) : Prop where
  notes : ∀ n ∈ item.notes, n.IsCanonical
  declared : item.IsDeclared
  named : item.name ≠ ""
  aliased : item.aliased = []
  usedBy : item.usedBy = []

instance (v : String) : Decidable (IsValue v) :=
  decidable_of_iff (IsNormal v ∧ ';' ∉ v.toList ∧ ¬ globalFlag <:+: v.toList)
    ⟨fun ⟨h₁, h₂, h₃⟩ => ⟨h₁, h₂, h₃⟩, fun ⟨h₁, h₂, h₃⟩ => ⟨h₁, h₂, h₃⟩⟩

instance (item : Item) : Decidable item.IsDeclared :=
  match hkind : item.kind with
  | none => .isFalse (by simp [IsDeclared, hkind])
  | some .var =>
    decidable_of_iff (HasNo endsVariableName item.name ∧ (∃ v ∈ item.value, IsValue v)
      ∧ item.access = some "scoped") (by simp only [IsDeclared, hkind])
  | some .function | some .mixin =>
    decidable_of_iff (IsNormal item.name ∧ HasNo endsSignatureName item.name
      ∧ item.value = none ∧ item.datatype = []) (by simp only [IsDeclared, hkind])

instance (item : Item) : Decidable item.IsCanonical :=
  decidable_of_iff ((∀ n ∈ item.notes, n.IsCanonical) ∧ item.IsDeclared ∧ item.name ≠ ""
      ∧ item.aliased = [] ∧ item.usedBy = [])
    ⟨fun ⟨h₁, h₂, h₃, h₄, h₅⟩ => ⟨h₁, h₂, h₃, h₄, h₅⟩,
      fun ⟨h₁, h₂, h₃, h₄, h₅⟩ => ⟨h₁, h₂, h₃, h₄, h₅⟩⟩

/-! ### Adding all notes -/

variable {item : Item} {rest : List Char}

/-- Add some notes in order. -/
def addNotes (item : Item) (ns : List Note) : Item :=
  ns.foldl Note.addTo item

@[simp] lemma addNotes_nil (item : Item) : item.addNotes [] = item := rfl

@[simp] lemma addNotes_cons (item : Item) (n : Note) (ns : List Note) :
    item.addNotes (n :: ns) = (n.addTo item).addNotes ns := rfl

@[simp] lemma addNotes_append (item : Item) (ns ms : List Note) :
    item.addNotes (ns ++ ms) = (item.addNotes ns).addNotes ms :=
  List.foldl_append

/-- Notes that each add an element to a list of the item add all the elements. -/
lemma addNotes_map {α : Type} (note : α → Note) (add : Item → List α → Item)
    (hnil : ∀ item, add item [] = item)
    (hcons : ∀ item a as, add ((note a).addTo item) as = add item (a :: as))
    (item : Item) (as : List α) : item.addNotes (as.map note) = add item as := by
  induction as generalizing item with
  | nil => exact (hnil item).symm
  | cons a as ih => rw [List.map_cons, addNotes_cons, ih, hcons]

lemma addNotes_param (item : Item) (ps : List Parameter) :
    item.addNotes (ps.map .param) = { item with parameters := item.parameters ++ ps } :=
  addNotes_map .param (fun i ps => { i with parameters := i.parameters ++ ps })
    (by simp) (by simp [Note.addTo]) item ps

lemma addNotes_requires (item : Item) (rs : List Requirement) :
    item.addNotes (rs.map .requires) = { item with requires := item.requires ++ rs } :=
  addNotes_map .requires (fun i rs => { i with requires := i.requires ++ rs })
    (by simp) (by simp [Note.addTo]) item rs

lemma addNotes_link (item : Item) (ls : List Link) :
    item.addNotes (ls.map .link) = { item with links := item.links ++ ls } :=
  addNotes_map .link (fun i ls => { i with links := i.links ++ ls })
    (by simp) (by simp [Note.addTo]) item ls

lemma addNotes_throws (item : Item) (ts : List String) :
    item.addNotes (ts.map .throws) = { item with throws := item.throws ++ ts } :=
  addNotes_map .throws (fun i ts => { i with throws := i.throws ++ ts })
    (by simp) (by simp [Note.addTo]) item ts

lemma addNotes_todo (item : Item) (ts : List String) :
    item.addNotes (ts.map .todo) = { item with todo := item.todo ++ ts } :=
  addNotes_map .todo (fun i ts => { i with todo := i.todo ++ ts })
    (by simp) (by simp [Note.addTo]) item ts

/-- A note that there may be replaces what the item has. -/
lemma addNotes_toList {α : Type} (note : α → Note) (put : Item → Option α → Item)
    (hnone : ∀ item, put item none = item)
    (hsome : ∀ item a, (note a).addTo item = put item (some a)) (item : Item) (a : Option α) :
    item.addNotes (a.toList.map note) = put item a := by
  cases a with
  | none => exact (hnone item).symm
  | some a => exact hsome item a

lemma addNotes_returns (item : Item) (r : Option Returned) :
    item.addNotes (r.toList.map .returns) = { item with returns := r <|> item.returns } :=
  addNotes_toList .returns (fun i r => { i with returns := r <|> i.returns })
    (fun _ => rfl) (fun _ _ => rfl) item r

lemma addNotes_access (item : Item) (t : Option String) :
    item.addNotes (t.toList.map .access) = { item with access := t <|> item.access } :=
  addNotes_toList .access (fun i t => { i with access := t <|> i.access })
    (fun _ => rfl) (fun _ _ => rfl) item t

lemma addNotes_since (item : Item) (t : Option String) :
    item.addNotes (t.toList.map .since) = { item with since := t <|> item.since } :=
  addNotes_toList .since (fun i t => { i with since := t <|> i.since })
    (fun _ => rfl) (fun _ _ => rfl) item t

lemma addNotes_aliasOf (item : Item) (t : Option String) :
    item.addNotes (t.toList.map .aliasOf) = { item with aliasOf := t <|> item.aliasOf } :=
  addNotes_toList .aliasOf (fun i t => { i with aliasOf := t <|> i.aliasOf })
    (fun _ => rfl) (fun _ _ => rfl) item t

lemma addNotes_author (item : Item) (t : Option String) :
    item.addNotes (t.toList.map .author) = { item with author := t <|> item.author } :=
  addNotes_toList .author (fun i t => { i with author := t <|> i.author })
    (fun _ => rfl) (fun _ _ => rfl) item t

lemma addNotes_deprecated (item : Item) (t : Option String) :
    item.addNotes (t.toList.map .deprecated) =
      { item with deprecated := t <|> item.deprecated } :=
  addNotes_toList .deprecated (fun i t => { i with deprecated := t <|> i.deprecated })
    (fun _ => rfl) (fun _ _ => rfl) item t

/-- Lines of a description follow what the description has already. -/
lemma addNotes_description (item : Item) (d : String) (h : item.description = some d)
    (ls : List (List Char)) :
    item.addNotes (ls.map .description) =
      { item with description := some (d ++ String.ofList (ls.flatMap ('\n' :: ·))) } := by
  induction ls generalizing item d with
  | nil => simp [← h]
  | cons l ls ih =>
    have hnext : ((Note.description l).addTo item).description =
        some (d ++ "\n" ++ String.ofList l) := by
      simp [Note.addTo, describe, h]
    rw [List.map_cons, addNotes_cons, ih _ _ hnext]
    simp [Note.addTo, describe, String.append_assoc]

/-- The parts of a text with separators between them are the text. -/
lemma exists_splitOn_eq_cons (sep : Char) (s : List Char) :
    ∃ l ls, splitOn sep s = l :: ls ∧ l ++ ls.flatMap (sep :: ·) = s := by
  induction s with
  | nil => exact ⟨[], [], rfl, rfl⟩
  | cons c s ih =>
    obtain ⟨l, ls, hsplit, hjoin⟩ := ih
    by_cases hc : c = sep
    · exact ⟨[], l :: ls, by simp [splitOn, hc, hsplit], by simp [hc, hjoin]⟩
    · exact ⟨c :: l, ls, by simp [splitOn, hc, hsplit, extendFirst], by simp [hjoin]⟩

lemma addNotes_descriptionNotes (item : Item) :
    Item.addNotes {} item.descriptionNotes = { description := item.description } := by
  cases hd : item.description with
  | none => simp [descriptionNotes, hd]
  | some d =>
    obtain ⟨l, ls, hsplit, hjoin⟩ := exists_splitOn_eq_cons '\n' d.toList
    have hnotes : item.descriptionNotes = .description l :: ls.map .description := by
      simp [descriptionNotes, hd, hsplit]
    have hfirst : ((Note.description l).addTo {}).description = some (String.ofList l) := rfl
    rw [hnotes, addNotes_cons, addNotes_description _ _ hfirst, ← String.ofList_append, hjoin]
    simp [Note.addTo, describe]

lemma addNotes_datatypeNotes (item other : Item) :
    other.addNotes item.datatypeNotes =
      if item.kind = some .var ∧ item.datatype ≠ []
      then { other with kind := some .var, datatype := item.datatype } else other := by
  unfold datatypeNotes
  split <;> rfl

/-- All notes together give all of an item but its declaration. -/
lemma addNotes_notes (item : Item) :
    Item.addNotes {} item.notes =
      { item with
        name := ""
        kind := if item.kind = some .var ∧ item.datatype ≠ [] then some .var else none
        aliased := []
        usedBy := []
        datatype := if item.kind = some .var then item.datatype else []
        value := none } := by
  simp only [notes, addNotes_append, addNotes_descriptionNotes, addNotes_param, addNotes_returns,
    addNotes_requires, addNotes_link, addNotes_access, addNotes_since, addNotes_aliasOf,
    addNotes_author, addNotes_deprecated, addNotes_throws, addNotes_todo, addNotes_datatypeNotes]
  by_cases hk : item.kind = some .var
  · by_cases ht : item.datatype = []
    · simp [hk, ht]
    · simp [hk, ht]
  · simp [hk]

/-! ### Reading all notes -/

/-- Reading the lines of canonical notes adds the notes. -/
lemma readOn_lines {ns : List Note} (h : ∀ n ∈ ns, n.IsCanonical) (item : Item)
    (rest : List Char) :
    readOn item (ns.flatMap (fun n => n.line ++ ['\n']) ++ rest) =
      readOn (item.addNotes ns) rest := by
  induction ns generalizing item with
  | nil => rfl
  | cons n ns ih =>
    rw [List.flatMap_cons, List.append_assoc, List.append_assoc, List.singleton_append,
      readOn_line (h n List.mem_cons_self), ih fun m hm => h m (List.mem_cons_of_mem _ hm),
      addNotes_cons]

/-! ### Reading the declaration -/

lemma hasGlobalFlag_eq_false {s : List Char} (h : ¬ globalFlag <:+: s) :
    hasGlobalFlag s = false := by
  fun_induction hasGlobalFlag s with
  | case1 => rfl
  | case2 s => exact absurd (List.IsPrefix.isInfix ⟨s, rfl⟩) h
  | case3 c s _ ih => exact ih fun hs => h (List.infix_cons hs)

lemma dropGlobalFlag_eq_self {s : List Char} (h : ¬ globalFlag <:+: s) : dropGlobalFlag s = s := by
  fun_induction dropGlobalFlag s with
  | case1 => rfl
  | case2 s _ => exact absurd (List.IsPrefix.isInfix ⟨s, rfl⟩) h
  | case3 c s _ ih => rw [ih fun hs => h (List.infix_cons hs)]

/-- A variable declaration sets name, access and value, and the kind if there is none. -/
lemma readVariable_text {name v : String} (hname : HasNo endsVariableName name)
    (hv : IsValue v) (item : Item) (rest : List Char) :
    readVariable item (name.toList ++ ':' :: ' ' :: (v.toList ++ ';' :: '\n' :: rest)) =
      .ok ({ item with
        kind := item.kind <|> some .var
        name := name
        access := some "scoped"
        value := some v }, rest) := by
  have hbefore (s : List Char) : before endsVariableName (name.toList ++ ':' :: s) = name.toList :=
    before_append_cons hname (by decide)
  have hfrom (s : List Char) : fromStop endsVariableName (name.toList ++ ':' :: s) = ':' :: s :=
    fromStop_append_cons hname (by decide)
  have hcolon : skipColon (skipSpaces (':' :: ' ' :: (v.toList ++ ';' :: '\n' :: rest))) =
      v.toList ++ ';' :: '\n' :: rest := by
    rw [skipSpaces_cons (by decide), skipColon, skipSpaces_space,
      hv.normal.skipSpaces_append_cons (by decide)]
  have hcaptured : captured v.toList = v := hv.normal
  simp only [readVariable, hbefore, hfrom, hcolon, cutAt?_append_char hv.no_semicolon,
    hasGlobalFlag_eq_false hv.no_flag, dropGlobalFlag_eq_self hv.no_flag, hcaptured,
    String.ofList_toList, Bool.false_eq_true, ↓reduceIte]
  rfl

lemma step_dollar (item : Item) (s : List Char) : step item '$' s = readVariable item s := rfl

/-- A signature sets kind and name, and ends the reading. -/
lemma readOn_signature {keyword name : String} {kind : Kind}
    (hk : Tag.ofKeyword? keyword.toList = some (.signature kind)) (hn : IsNormal name)
    (hname : HasNo endsSignatureName name) (item : Item) (rest : List Char) :
    readOn item (tagLine keyword (name.toList ++ '(' :: rest)) =
      .ok { item with kind := some kind, name := name } := by
  have hstep : step item '@' (keyword.toList ++ ' ' :: (name.toList ++ '(' :: rest)) =
      .ok ({ item with kind := some kind, name := name }, []) := by
    rw [step_tagLine hk, hn.skipSpaces_append_cons (by decide)]
    have hcaptured : captured name.toList = name := hn
    simp only [readTag, before_append_cons hname (show endsSignatureName '(' = true by decide),
      hcaptured]
  rw [tagLine, readOn_of_step hstep, readOn]

lemma declaration_var {v : String} (hkind : item.kind = some .var) (hvalue : item.value = some v)
    (tail : List Char) :
    item.declaration tail = '$' :: (item.name.toList ++ ':' :: ' ' :: (v.toList ++ [';'])) := by
  simp only [declaration, hkind, hvalue, Option.getD_some]

/-- Kinds other than the variable are declared by a signature. -/
lemma declaration_signature {kind : Kind} (hkind : item.kind = some kind) (hvar : kind ≠ .var)
    (tail : List Char) :
    item.declaration tail = tagLine kind.name (item.name.toList ++ '(' :: tail) := by
  cases kind with
  | var => exact absurd rfl hvar
  | _ => simp only [declaration, hkind]

lemma ofKeyword?_name {kind : Kind} (hvar : kind ≠ .var) :
    Tag.ofKeyword? kind.name.toList = some (.signature kind) := by
  cases kind with
  | var => exact absurd rfl hvar
  | _ => rfl

lemma IsDeclared.exists_kind (h : item.IsDeclared) : ∃ kind, item.kind = some kind := by
  cases hkind : item.kind with
  | none => simp [IsDeclared, hkind] at h
  | some kind => exact ⟨kind, rfl⟩

lemma IsDeclared.var (h : item.IsDeclared) (hkind : item.kind = some .var) :
    HasNo endsVariableName item.name ∧ (∃ v ∈ item.value, IsValue v)
      ∧ item.access = some "scoped" := by
  simpa only [IsDeclared, hkind] using h

lemma IsDeclared.signature (h : item.IsDeclared) {kind : Kind} (hkind : item.kind = some kind)
    (hvar : kind ≠ .var) :
    IsNormal item.name ∧ HasNo endsSignatureName item.name
      ∧ item.value = none ∧ item.datatype = [] := by
  cases kind with
  | var => exact absurd rfl hvar
  | _ => simpa only [IsDeclared, hkind] using h

/-- The declaration completes what the notes give. -/
lemma readOn_declaration (h : item.IsCanonical) (tail : List Char) :
    readOn (Item.addNotes {} item.notes) (item.declaration tail ++ ['\n']) = .ok item := by
  obtain ⟨-, hdeclared, -, haliased, husedBy⟩ := h
  obtain ⟨kind, hkind⟩ := hdeclared.exists_kind
  rw [addNotes_notes]
  by_cases hvar : kind = .var
  · subst hvar
    obtain ⟨hname, ⟨v, hvalue, hv⟩, haccess⟩ := hdeclared.var hkind
    clear hdeclared
    have htext : item.declaration tail ++ ['\n'] =
        '$' :: (item.name.toList ++ ':' :: ' ' :: (v.toList ++ ';' :: '\n' :: [])) := by
      simp [declaration_var hkind hvalue]
    rw [htext, readOn_of_step ((step_dollar _ _).trans (readVariable_text hname hv _ [])), readOn]
    obtain ⟨⟩ := item
    simp_all
    split <;> rfl
  · obtain ⟨hn, hname, hvalue, hdatatype⟩ := hdeclared.signature hkind hvar
    have htext : item.declaration tail ++ ['\n'] =
        tagLine kind.name (item.name.toList ++ '(' :: (tail ++ ['\n'])) := by
      simp [declaration_signature hkind hvar, tagLine]
    rw [htext, readOn_signature (ofKeyword?_name hvar) hn hname]
    obtain ⟨⟩ := item
    simp_all

/-! ### The passage of an item -/

/-- An item as a passage: its notes, or an empty line if it has none, and its declaration. -/
def passage (item : Item) (tail : List Char) : List Char :=
  (if item.notes = [] then ['\n'] else item.notes.flatMap fun n => n.line ++ ['\n'])
    ++ (item.declaration tail ++ ['\n'])

/-- Reading the passage of a canonical item gives the item. -/
theorem ofPassage_passage (h : item.IsCanonical) (tail : List Char) :
    ofPassage (item.passage tail) = .ok item := by
  have hread : readOn {} (item.passage tail) = .ok item := by
    by_cases hnotes : item.notes = []
    · have hdeclaration := readOn_declaration h tail
      rw [hnotes, addNotes_nil] at hdeclaration
      rw [passage, if_pos hnotes, List.singleton_append, readOn_of_step, hdeclaration]
      rfl
    · rw [passage, if_neg hnotes, readOn_lines h.notes, readOn_declaration h]
  simp only [ofPassage, hread]

end Stylebook.Item
