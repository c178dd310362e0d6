import Mathlib
import Stylebook.Json.Printer
import Stylebook.Proofs.Json.Grammar
import Stylebook.Proofs.Text.Bytes

/-!
# Printing by the grammar

What the printer gives for a value without floating-point numbers follows the grammar of JSON and
writes this value, on one line or with lines that are indented by blanks.
-/

namespace Stylebook

namespace Json

/-! ### Strings -/

lemma hexDigit_mem {n : Nat} (h : n < 16) : (Text.hexDigit n, n) ∈ hexTable := by
  interval_cases n <;> decide

lemma unitWritten_unitEscape {n : Nat} (h : n < 0x10000) : UnitWritten (unitEscape n) n := by
  have hn : (((n / 16 / 16 / 16 % 16) * 16 + n / 16 / 16 % 16) * 16 + n / 16 % 16) * 16 + n % 16 =
      n := by omega
  have hdigits : UnitWritten (unitEscape n)
      ((((n / 16 / 16 / 16 % 16) * 16 + n / 16 / 16 % 16) * 16 + n / 16 % 16) * 16 + n % 16) :=
    .digits (hexDigit_mem (Nat.mod_lt _ (by norm_num))) (hexDigit_mem (Nat.mod_lt _ (by norm_num)))
      (hexDigit_mem (Nat.mod_lt _ (by norm_num))) (hexDigit_mem (Nat.mod_lt _ (by norm_num)))
  rwa [hn] at hdigits

lemma charWritten_charEscape (c : Char) : CharWritten (charEscape c.toNat) c := by
  unfold charEscape
  split
  next h => exact .unit (unitWritten_unitEscape h)
  next h =>
    have hc : c.toNat < 0x110000 := Text.toNat_lt c
    exact .pair (not_lt.1 h) (unitWritten_unitEscape (by omega)) (unitWritten_unitEscape (by omega))

lemma eq_of_toNat_beq {c : Char} {n : Nat} (h : (c.toNat == n) = true) : c = Char.ofNat n := by
  rw [← Char.ofNat_toNat c, beq_iff_eq.1 h]

lemma charWritten_charText (ascii : Bool) (c : Char) : CharWritten (charText ascii c) c := by
  unfold charText
  split_ifs with hquote hescape hnewline hreturn htab hback hfeed hother
  · rw [beq_iff_eq.1 hquote]
    exact .short (by decide)
  · rw [beq_iff_eq.1 hescape]
    exact .short (by decide)
  · rw [beq_iff_eq.1 hnewline]
    exact .short (by decide)
  · rw [beq_iff_eq.1 hreturn]
    exact .short (by decide)
  · rw [beq_iff_eq.1 htab]
    exact .short (by decide)
  · rw [eq_of_toNat_beq hback]
    exact .short (by decide)
  · rw [eq_of_toNat_beq hfeed]
    exact .short (by decide)
  · exact charWritten_charEscape c
  · refine .plain ?_ (by simpa using hquote) (by simpa using hescape)
    rw [Bool.or_eq_true, not_or] at hother
    simpa using hother.1

lemma charsWritten_flatMap (ascii : Bool) (cs : List Char) :
    CharsWritten (cs.flatMap (charText ascii)) cs := by
  induction cs with
  | nil => exact .nil
  | cons c cs ih => exact .cons (charWritten_charText ascii c) ih

lemma stringWritten_stringText (ascii : Bool) (s : String) :
    StringWritten (stringText ascii s) s :=
  .quoted (charsWritten_flatMap ascii s.toList)

/-! ### Whole numbers -/

lemma isAsciiDigit_of_mem_toDigits {n : Nat} {c : Char} (h : c ∈ Nat.toDigits 10 n) :
    Text.isAsciiDigit c = true := by
  have hdigit := Nat.isDigit_of_mem_toDigits (by norm_num) (by norm_num) h
  simpa [Char.isDigit, Text.isAsciiDigit, UInt32.le_iff_toNat_le] using hdigit

lemma asciiNumber_toDigits (n : Nat) : Text.asciiNumber (Nat.toDigits 10 n) = n := by
  have hread : Nat.ofDigitChars 10 (Nat.toDigits 10 n) 0 = n :=
    Nat.ofDigitChars_toDigits (by norm_num) (by norm_num)
  have hzero : '0'.toNat = 48 := rfl
  simpa only [Text.asciiNumber, Nat.ofDigitChars, Nat.mul_comm, hzero] using hread

/-- No zero stands in front of a number, by induction on its digits from the last one. -/
lemma toDigits_eq_of_head? (n : Nat) (h : (Nat.toDigits 10 n).head? = some '0') :
    Nat.toDigits 10 n = ['0'] := by
  induction n using Nat.strongRecOn with
  | ind n ih =>
    rw [Nat.toDigits_eq_if (by norm_num)] at h ⊢
    split at h
    next hn =>
      interval_cases n <;> first | rfl | exact absurd h (by decide)
    next hn =>
      rw [List.head?_append_of_ne_nil _ Nat.toDigits_ne_nil] at h
      have hzero := asciiNumber_toDigits (n / 10)
      rw [ih (n / 10) (by omega) h] at hzero
      have : 0 = n / 10 := hzero
      omega

lemma isWhole_toDigits (n : Nat) : IsWhole (Nat.toDigits 10 n) :=
  ⟨⟨Nat.toDigits_ne_nil, fun _ hc => isAsciiDigit_of_mem_toDigits hc⟩, toDigits_eq_of_head? n⟩

lemma numberWritten_intText (i : Int) : NumberWritten (Text.intText i).toList (.int i) := by
  cases i with
  | ofNat n =>
    have hnumber := NumberWritten.whole false (isWhole_toDigits n)
    simpa [minus, Text.intText, Text.natText, asciiNumber_toDigits] using hnumber
  | negSucc n =>
    have hnumber := NumberWritten.whole true (isWhole_toDigits (n + 1))
    rw [asciiNumber_toDigits] at hnumber
    simpa [minus, Text.intText, Text.natText, Int.negSucc_eq] using hnumber

/-! ### Layouts -/

/-- The lines of a layout are indented by blanks. -/
def Layout.IsBlank (layout : Layout) : Prop :=
  ∀ unit, layout.unit = some unit → AreBlanks unit

lemma areBlanks_nil : AreBlanks [] := by
  intro c hc
  cases hc

lemma areBlanks_singleton {c : Char} (h : c ∈ [' ', '\t', '\n', '\r']) : AreBlanks [c] := by
  intro x hx
  rwa [List.mem_singleton.1 hx]

lemma Layout.IsBlank.lineStart {layout : Layout} (h : layout.IsBlank) (depth : Nat) :
    AreBlanks (layout.lineStart depth) := by
  unfold Layout.lineStart
  split
  next => exact areBlanks_nil
  next unit hunit =>
    intro c hc
    rcases List.mem_cons.1 hc with rfl | hc
    · decide
    · obtain ⟨l, hl, hmem⟩ := List.mem_flatten.1 hc
      rw [(List.mem_replicate.1 hl).2] at hmem
      exact h unit hunit c hmem

lemma Layout.IsBlank.exists_separator {layout : Layout} (h : layout.IsBlank) (depth : Nat) :
    ∃ blanks, AreBlanks blanks ∧ layout.separator depth = ',' :: blanks := by
  unfold Layout.separator
  split
  next => exact ⟨[' '], areBlanks_singleton (by decide), rfl⟩
  next => exact ⟨_, h.lineStart depth, rfl⟩

/-! ### Values -/

/-- The values without floating-point numbers, in which the keys of each map are different. -/
inductive IsPlain : Value → Prop
  | null : IsPlain .null
  | bool (b : Bool) : IsPlain (.bool b)
  | int (i : Int) : IsPlain (.int i)
  | text (s : String) : IsPlain (.text s)
  | list {vs : List Value} (h : ∀ v ∈ vs, IsPlain v) : IsPlain (.list vs)
  | map {es : List (String × Value)} (hkeys : (Assoc.keys es).Nodup) (h : ∀ e ∈ es, IsPlain e.2) :
      IsPlain (.map es)

/-- The elements of a list, between blanks. -/
lemma written_items {layout : Layout} (hlayout : layout.IsBlank) {depth : Nat} {v : Value}
    {vs : List Value} (h : ∀ w ∈ v :: vs, Written (.value w) (chars layout depth w))
    {a b : List Char} (ha : AreBlanks a) (hb : AreBlanks b) :
    Written (.items (v :: vs))
      (a ++ chars layout depth v ++ (itemChars layout depth vs ++ b)) := by
  induction vs generalizing v a with
  | nil =>
    rw [itemChars, List.nil_append]
    exact .lastItem ha (h v (by simp)) hb
  | cons w vs ih =>
    obtain ⟨blanks, hblanks, hseparator⟩ := hlayout.exists_separator depth
    have hrest := ih (fun x hx => h x (List.mem_cons_of_mem _ hx)) hblanks
    have hitem := Written.item ha (h v (by simp)) areBlanks_nil hrest
    simpa only [itemChars, hseparator, List.append_assoc, List.cons_append, List.nil_append]
      using hitem

/-- The entries of a map, between blanks. -/
lemma written_entries {layout : Layout} (hlayout : layout.IsBlank) {depth : Nat} {key : String}
    {v : Value} {es : List (String × Value)}
    (h : ∀ e ∈ (key, v) :: es, Written (.value e.2) (chars layout depth e.2)) {a b : List Char}
    (ha : AreBlanks a) (hb : AreBlanks b) :
    Written (.entries ((key, v) :: es))
      (a ++ stringText layout.ascii key ++ ':' :: ' ' :: (chars layout depth v ++
        (entryChars layout depth es ++ b))) := by
  have hspace : AreBlanks [' '] := areBlanks_singleton (by decide)
  induction es generalizing key v a with
  | nil =>
    have hentry := Written.lastEntry ha (stringWritten_stringText layout.ascii key) areBlanks_nil
      hspace (h (key, v) (by simp)) hb
    simpa only [entryChars, List.append_assoc, List.cons_append, List.nil_append] using hentry
  | cons e es ih =>
    obtain ⟨key', v'⟩ := e
    obtain ⟨blanks, hblanks, hseparator⟩ := hlayout.exists_separator depth
    have hrest := ih (fun x hx => h x (List.mem_cons_of_mem _ hx)) hblanks
    have hentry := Written.entry ha (stringWritten_stringText layout.ascii key) areBlanks_nil hspace
      (h (key, v) (by simp)) areBlanks_nil hrest
    simpa only [entryChars, hseparator, List.append_assoc, List.cons_append, List.nil_append]
      using hentry

/-- What is printed for a value writes it, at every depth. -/
theorem written_chars {layout : Layout} (hlayout : layout.IsBlank) {v : Value} (h : IsPlain v)
    (depth : Nat) : Written (.value v) (chars layout depth v) := by
  induction h generalizing depth with
  | null => exact .null
  | bool b =>
    cases b with
    | false => exact .no
    | true => exact .yes
  | int i => exact .number (numberWritten_intText i)
  | text s => exact .text (stringWritten_stringText layout.ascii s)
  | @list vs h ih =>
    cases vs with
    | nil => exact .noItems areBlanks_nil
    | cons v vs =>
      have hitems := written_items hlayout (fun w hw => ih w hw (depth + 1))
        (hlayout.lineStart (depth + 1)) (hlayout.lineStart depth)
      simpa only [chars, List.append_assoc, List.cons_append] using hitems.list
  | @map es hkeys h ih =>
    cases es with
    | nil => exact .noEntries areBlanks_nil
    | cons e es =>
      obtain ⟨key, v⟩ := e
      have hentries := written_entries hlayout (fun e he => ih e he (depth + 1))
        (hlayout.lineStart (depth + 1)) (hlayout.lineStart depth)
      simpa only [chars, List.append_assoc, List.cons_append] using hentries.map hkeys

/-- A printed value with a line break after it. -/
theorem writes_text {layout : Layout} (hlayout : layout.IsBlank) {v : Value} (h : IsPlain v) :
    Writes (text layout v ++ "\n").toList v :=
  ⟨[], chars layout 0 v, ['\n'], areBlanks_nil, written_chars hlayout h 0,
    areBlanks_singleton (by decide), by simp [text]⟩

end Json

end Stylebook
