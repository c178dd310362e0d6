import Mathlib
import Stylebook.Output
import Stylebook.Proofs.Disk.Written
import Stylebook.Proofs.Json.Reading
import Stylebook.Proofs.Json.Writing

/-!
# Reading the output back

The JSON text of a catalog writes the records of its items and nothing else, so whoever reads it by
the grammar gets the catalog back. An indentation has to be a number of spaces that fits into a word
and into memory.
-/

namespace Stylebook

open Json (IsPlain)

/-! ### Records -/

/-- Entries with plain values, under some of the given keys and in their order. -/
structure PlainEntries (keys : List String) (es : Assoc Value) : Prop where
  sublist : (Assoc.keys es).Sublist keys
  isPlain : ∀ e ∈ es, IsPlain e.2

namespace PlainEntries

variable {α : Type} {keys more : List String} {es fs : Assoc Value} {key : String} {f : α → Value}

lemma append (hes : PlainEntries keys es) (hfs : PlainEntries more fs) :
    PlainEntries (keys ++ more) (es ++ fs) where
  sublist := by
    rw [Assoc.keys, List.map_append]
    exact hes.sublist.append hfs.sublist
  isPlain := by
    intro e he
    rcases List.mem_append.1 he with he | he
    · exact hes.isPlain e he
    · exact hfs.isPlain e he

lemma singleton {v : Value} (hv : IsPlain v) : PlainEntries [key] [(key, v)] where
  sublist := .refl _
  isPlain := by
    intro e he
    rwa [List.mem_singleton.1 he]

lemma cons {v : Value} (hv : IsPlain v) (hes : PlainEntries keys es) :
    PlainEntries (key :: keys) ((key, v) :: es) :=
  (singleton hv).append hes

lemma nil : PlainEntries keys [] where
  sublist := List.nil_sublist _
  isPlain := by
    intro e he
    cases he

lemma optionalEntry (hf : ∀ a, IsPlain (f a)) (a : Option α) :
    PlainEntries [key] (Item.optionalEntry key f a) := by
  cases a with
  | none => exact nil
  | some a => exact singleton (hf a)

lemma listEntry (hf : ∀ a, IsPlain (f a)) (as : List α) :
    PlainEntries [key] (Item.listEntry key f as) := by
  cases as with
  | nil => exact nil
  | cons a as =>
    refine singleton (.list fun v hv => ?_)
    obtain ⟨a, -, rfl⟩ := List.mem_map.1 hv
    exact hf a

lemma isPlain_map (h : PlainEntries keys es) (hkeys : keys.Nodup) : IsPlain (.map es) :=
  .map (hkeys.sublist h.sublist) h.isPlain

end PlainEntries

lemma isPlain_ofTexts (ss : List String) : IsPlain (.ofTexts ss) := by
  refine .list fun v hv => ?_
  obtain ⟨s, -, rfl⟩ := List.mem_map.1 hv
  exact .text s

lemma Kind.isPlain_value (kind : Option Kind) : IsPlain (Kind.value kind) := by
  cases kind with
  | none => exact .null
  | some kind => exact .text kind.name

lemma Parameter.isPlain_record (p : Parameter) : IsPlain p.record :=
  PlainEntries.isPlain_map
    (.cons (isPlain_ofTexts _) (.cons (.text _) (.cons (.text _) (.singleton (.text _)))))
    (by decide)

lemma Returned.isPlain_record (r : Returned) : IsPlain r.record :=
  PlainEntries.isPlain_map (.cons (isPlain_ofTexts _) (.singleton (.text _))) (by decide)

lemma Requirement.isPlain_record (r : Requirement) : IsPlain r.record :=
  PlainEntries.isPlain_map (.cons (.text _) (.singleton (Kind.isPlain_value _))) (by decide)

lemma Link.isPlain_record (l : Link) : IsPlain l.record :=
  PlainEntries.isPlain_map (.cons (.text _) (.singleton (.text _))) (by decide)

lemma Usage.isPlain_record (u : Usage) : IsPlain u.record :=
  PlainEntries.isPlain_map (.cons (.text _) (.singleton (Kind.isPlain_value _))) (by decide)

lemma Item.isPlain_record (item : Item) : IsPlain item.record := by
  have htext : ∀ s : String, IsPlain (.text s) := .text
  unfold record entries
  apply PlainEntries.isPlain_map
  · exact ((PlainEntries.cons (.text _) (.singleton (Kind.isPlain_value _)))
      |>.append (.optionalEntry htext _)
      |>.append (.listEntry Parameter.isPlain_record _)
      |>.append (.optionalEntry Returned.isPlain_record _)
      |>.append (.listEntry Requirement.isPlain_record _)
      |>.append (.listEntry Link.isPlain_record _)
      |>.append (.listEntry htext _)
      |>.append (.listEntry Usage.isPlain_record _)
      |>.append (.listEntry htext _)
      |>.append (.optionalEntry htext _)
      |>.append (.optionalEntry htext _)
      |>.append (.optionalEntry htext _)
      |>.append (.optionalEntry htext _)
      |>.append (.optionalEntry htext _)
      |>.append (.optionalEntry htext _)
      |>.append (.listEntry htext _)
      |>.append (.listEntry htext _))
  · decide

lemma Catalog.isPlain_record (c : Catalog) : IsPlain c.record := by
  have hitems : ∀ items : List Item, IsPlain (.list (items.map Item.record)) := by
    intro items
    refine .list fun v hv => ?_
    obtain ⟨item, -, rfl⟩ := List.mem_map.1 hv
    exact item.isPlain_record
  exact PlainEntries.isPlain_map
    (.cons (hitems _) (.cons (hitems _) (.singleton (hitems _)))) (by decide)

namespace Output

/-! ### Layouts -/

lemma maxWidth_eq : (maxWidth : Int) = 2 ^ 63 - 1 := by
  decide

/-- Whether a number of spaces fits into a word. -/
lemma hasNoWord_iff (n : Int) :
    (n > maxWidth || n < -(maxWidth : Int) - 1) = true ↔ n < -2 ^ 63 ∨ 2 ^ 63 ≤ n := by
  rw [Bool.or_eq_true, decide_eq_true_eq, decide_eq_true_eq, maxWidth_eq]
  omega

lemma Indent.layout_width_eq_hugeIndent (room : Nat) {n : Int} (h : n < -2 ^ 63 ∨ 2 ^ 63 ≤ n) :
    (Indent.width n).layout room = .error .hugeIndent := by
  rw [Indent.layout, if_pos ((hasNoWord_iff n).2 h)]

lemma Indent.exists_layout_of_width {room : Nat} {n : Int} (hlow : -2 ^ 63 ≤ n)
    (hhigh : n < 2 ^ 63) (hroom : n ≤ room) :
    ∃ layout, (Indent.width n).layout room = .ok layout ∧ layout.IsBlank := by
  have hword : ¬ (n > maxWidth || n < -(maxWidth : Int) - 1) = true := by
    rw [hasNoWord_iff]
    omega
  refine ⟨{ unit := some (List.replicate n.toNat ' ') }, ?_, ?_⟩
  · rw [Indent.layout, if_neg hword, if_neg (not_lt.2 hroom)]
  · rintro _ ⟨⟩ c hc
    rw [List.eq_of_mem_replicate hc]
    decide

/-! ### Files -/

/-- The text of a catalog is written wherever an empty file can be. -/
lemma exists_write {room : Nat} {format : Format} {indent : Indent} {catalog : Catalog}
    {text : String} {disk opened empty : Disk} {target : Path}
    (htext : Output.text room format indent catalog = .ok text)
    (hopened : disk.makeDirectories target.parent = .ok opened)
    (hempty : opened.setFile target [] = .ok empty) :
    ∃ disk', write room format indent catalog disk target = (disk', .ok ()) ∧
      disk'.fileBytes target = .ok (Utf8.encode text) := by
  obtain ⟨disk', hset⟩ := Disk.exists_setFile_of_setFile hempty (Utf8.encode text)
  refine ⟨disk', ?_, Disk.fileBytes_setFile hset⟩
  rw [write, hopened]
  simp only [hempty, htext, hset]

/-! ### Reading back -/

/-- The JSON text of a catalog is there for every indentation that is absent or a number of spaces
that fits into a word and that there is room for, also a negative one, which counts as zero. By the
grammar it writes the records of the items by sections, in order, and it writes nothing else;
reading gives these records. A file that can be opened has this text afterwards. -/
theorem text_json_read_back (room : Nat) (items : List Item) (indent : Indent)
    (hindent : indent = .none ∨
      ∃ n, indent = .width n ∧ -2 ^ 63 ≤ n ∧ n < 2 ^ 63 ∧ n ≤ room) :
    ∃ text record, Output.text room .json indent (Catalog.ofItems items) = .ok text ∧
      record = .map
        [("functions", .list ((Catalog.ofKind .function items).map Item.record)),
          ("mixins", .list ((Catalog.ofKind .mixin items).map Item.record)),
          ("variables", .list ((Catalog.ofKind .var items).map Item.record))] ∧
      (∀ v, Json.Writes text.toList v ↔ v = record) ∧
      Json.read? text.toList = some record ∧
      ∀ (disk opened empty : Disk) (target : Path),
        disk.makeDirectories target.parent = .ok opened → opened.setFile target [] = .ok empty →
        ∃ disk' bytes,
          write room .json indent (Catalog.ofItems items) disk target = (disk', .ok ()) ∧
          disk'.fileBytes target = .ok bytes ∧ Utf8.decode bytes = .ok text.toList := by
  obtain ⟨layout, hlayout, hblank⟩ :
      ∃ layout, indent.layout room = .ok layout ∧ layout.IsBlank := by
    rcases hindent with rfl | ⟨n, rfl, hlow, hhigh, hroom⟩
    · exact ⟨{}, rfl, by rintro _ ⟨⟩⟩
    · exact Indent.exists_layout_of_width hlow hhigh hroom
  have htext : Output.text room .json indent (Catalog.ofItems items) =
      .ok (Json.text layout (Catalog.ofItems items).record ++ "\n") := by
    rw [Output.text, hlayout]
    rfl
  have hwrites := Json.writes_text hblank (Catalog.ofItems items).isPlain_record
  refine ⟨_, _, htext, rfl, ?_, hwrites.read?_eq, ?_⟩
  · intro v
    constructor
    · intro hv
      exact hv.unique hwrites
    · rintro rfl
      exact hwrites
  · intro disk opened empty target hopened hempty
    obtain ⟨disk', hwrite, hbytes⟩ := exists_write htext hopened hempty
    exact ⟨disk', _, hwrite, hbytes, Utf8.decode_encode _⟩

/-- An item whose texts have quotes, a backslash, a control and a character of four bytes. -/
def quotedItem : Item :=
  { name := "say \"hi\"", kind := some .mixin, description := some "a\\b\n\x01😀" }

/-- The output of this item in a directory that is made for it, with no more room than needed. -/
theorem text_json_read_back_quotedItem :
    (-2 ^ 63 ≤ (2 : Int) ∧ (2 : Int) < 2 ^ 63 ∧ (2 : Int) ≤ (2 : Nat)) ∧
      ∃ text record, Output.text 2 .json (.width 2) (Catalog.ofItems [quotedItem]) = .ok text ∧
        record = .map [("functions", .list []), ("mixins", .list [quotedItem.record]),
          ("variables", .list [])] ∧
        (∀ v, Json.Writes text.toList v ↔ v = record) ∧ Json.read? text.toList = some record ∧
        ∃ disk bytes, write 2 .json (.width 2) (Catalog.ofItems [quotedItem]) {}
            ⟨"", ["out", "docs.json"]⟩ = (disk, .ok ()) ∧
          disk.fileBytes ⟨"", ["out", "docs.json"]⟩ = .ok bytes ∧
          Utf8.decode bytes = .ok text.toList := by
  obtain ⟨text, record, htext, hrecord, hwrites, hread, hfile⟩ :=
    text_json_read_back 2 [quotedItem] (.width 2) (.inr ⟨2, rfl, by decide, by decide, le_rfl⟩)
  have hopened : ({} : Disk).makeDirectories ⟨"", ["out"]⟩ =
      .ok { top := .directory [("out", .directory [])] } := by
    cbv
  have hempty : ({ top := .directory [("out", .directory [])] } : Disk).setFile
      ⟨"", ["out", "docs.json"]⟩ [] = .ok
        { top := .directory [("out", .directory [("docs.json", .file [])])] } := by
    rfl
  refine ⟨by decide, text, record, htext, ?_, hwrites, hread, hfile _ _ _ _ hopened hempty⟩
  rw [hrecord]
  simp [Catalog.ofKind, Text.sortedBy, quotedItem]

/-- There is no text for a number of spaces that does not fit into a word, also if there is room
enough and nothing would be indented. -/
theorem text_json_without_word :
    Output.text (2 ^ 64) .json (.width (-2 ^ 63 - 1)) (Catalog.ofItems []) =
      .error .hugeIndent := by
  rw [Output.text, Indent.layout_width_eq_hugeIndent _ (.inl (by decide))]
  rfl

end Output

end Stylebook
