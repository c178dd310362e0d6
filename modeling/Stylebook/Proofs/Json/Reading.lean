import Mathlib
import Stylebook.Json.Reader
import Stylebook.Proofs.Json.Grammar
import Stylebook.Proofs.Text.Bytes

/-!
# Reading what the grammar writes

The reader takes every text of the grammar and gives the value that the text writes. So a text
writes at most one value.
-/

namespace Stylebook.Json

/-! ### Strings -/

lemma hexValue?_of_mem {c : Char} {n : Nat} (h : (c, n) ∈ hexTable) :
    Text.hexValue? c = some n := by
  have hall : ∀ p ∈ hexTable, Text.hexValue? p.1 = some p.2 := by decide
  exact hall _ h

lemma shortEscape?_of_mem {letter c : Char} (h : (letter, c) ∈ shortTable) :
    letter ≠ 'u' ∧ shortEscape? letter = some c := by
  have hall : ∀ p ∈ shortTable, p.1 ≠ 'u' ∧ shortEscape? p.1 = some p.2 := by decide
  exact hall _ h

lemma UnitWritten.exists_digits {s : List Char} {n : Nat} (h : UnitWritten s n) :
    ∃ a b c d, s = ['\\', 'u', a, b, c, d] ∧ Text.hexNumber? [a, b, c, d] = some n := by
  cases h with
  | @digits a b c d w x y z ha hb hc hd =>
    refine ⟨a, b, c, d, rfl, ?_⟩
    simp [Text.hexNumber?, hexValue?_of_mem ha, hexValue?_of_mem hb, hexValue?_of_mem hc,
      hexValue?_of_mem hd]

lemma surrogatePair?_eq_some {c : Char} (hc : 0x10000 ≤ c.toNat) :
    surrogatePair? (0xD800 + (c.toNat - 0x10000) / 0x400) (0xDC00 + (c.toNat - 0x10000) % 0x400) =
      some c := by
  have hlow : (c.toNat - 0x10000) % 0x400 < 0x400 := Nat.mod_lt _ (by norm_num)
  have hsum : 0x10000 + (0xD800 + (c.toNat - 0x10000) / 0x400 - 0xD800) * 0x400 +
      (0xDC00 + (c.toNat - 0x10000) % 0x400 - 0xDC00) = c.toNat := by omega
  have hrange : (0xDC00 ≤ 0xDC00 + (c.toNat - 0x10000) % 0x400 &&
      0xDC00 + (c.toNat - 0x10000) % 0x400 < 0xE000) = true := by
    simp only [Bool.and_eq_true, decide_eq_true_eq]
    omega
  rw [surrogatePair?, if_pos hrange, hsum, Char.ofNat_toNat]

lemma readString_surrogates {high low : Nat} {ch : Char} {s t : List Char} (hs : UnitWritten s high)
    (ht : UnitWritten t low) (hrange : 0xD800 ≤ high ∧ high < 0xDC00)
    (hpair : surrogatePair? high low = some ch) (rest : List Char) :
    readString (s ++ t ++ rest) = (readString rest).map fun (more, rest) => (ch :: more, rest) := by
  obtain ⟨x, y, z, w, rfl, hhigh⟩ := hs.exists_digits
  obtain ⟨x', y', z', w', rfl, hlow⟩ := ht.exists_digits
  have hrange' : (0xD800 ≤ high && high < 0xDC00) = true := by simpa using hrange
  simp only [List.cons_append, List.nil_append, readString, hhigh, hlow, hrange', if_true,
    Option.bind_eq_bind, Option.bind_some, hpair, Option.map_eq_bind]
  rfl

lemma readString_append_of_charWritten {s : List Char} {c : Char} (h : CharWritten s c)
    (rest : List Char) :
    readString (s ++ rest) = (readString rest).map fun (more, rest) => (c :: more, rest) := by
  cases h with
  | plain hc hquote hescape =>
    have hsmall : ¬ c.toNat < 0x20 := not_lt.2 hc
    simp [readString, hescape, hsmall]
  | short h =>
    obtain ⟨hu, hletter⟩ := shortEscape?_of_mem h
    simp only [List.cons_append, List.nil_append]
    rw [readString]
    · rw [hletter, Option.map_eq_bind]
      rfl
    · intro a b c d s hletter'
      exact absurd hletter' hu
  | unit h =>
    obtain ⟨x, y, z, w, rfl, hn⟩ := h.exists_digits
    have hhigh : (0xD800 ≤ c.toNat && c.toNat < 0xDC00) = false := by
      have := Text.toNat_lt_or_ge c
      simp only [Bool.and_eq_false_iff, decide_eq_false_iff_not]
      omega
    have hlow : (0xDC00 ≤ c.toNat && c.toNat < 0xE000) = false := by
      have := Text.toNat_lt_or_ge c
      simp only [Bool.and_eq_false_iff, decide_eq_false_iff_not]
      omega
    simp only [List.cons_append, List.nil_append, readString, hn, hhigh, hlow, Bool.false_eq_true,
      if_false, Char.ofNat_toNat]
  | pair hc hs ht =>
    refine readString_surrogates hs ht ?_ (surrogatePair?_eq_some hc) rest
    have := Text.toNat_lt c
    omega

lemma readString_append_of_charsWritten {s cs : List Char} (h : CharsWritten s cs)
    (rest : List Char) : readString (s ++ '"' :: rest) = some (cs, rest) := by
  induction h with
  | nil => simp [readString]
  | cons hc _ ih => rw [List.append_assoc, readString_append_of_charWritten hc, ih]; rfl

lemma StringWritten.exists_readString {s : List Char} {text : String} (h : StringWritten s text) :
    ∃ t, s = '"' :: t ∧ ∀ rest, readString (t ++ rest) = some (text.toList, rest) := by
  cases h with
  | @quoted s _ h =>
    refine ⟨s ++ ['"'], rfl, fun rest => ?_⟩
    rw [List.append_assoc]
    exact readString_append_of_charsWritten h rest

/-! ### Numbers -/

/-- The characters that may follow a value, none of which starts one. -/
def delimiters : List Char :=
  [' ', '\t', '\n', '\r', ',', ']', '\x7d']

/-- A text can follow a value. -/
def Follows (rest : List Char) : Prop :=
  ∀ c, rest.head? = some c → c ∈ delimiters

lemma Follows.nil : Follows [] := by
  intro c hc
  cases hc

lemma Follows.cons {c : Char} {rest : List Char} (hc : c ∈ delimiters) : Follows (c :: rest) := by
  intro x hx
  cases hx
  exact hc

lemma Follows.blanks_append {blanks rest : List Char} (h : AreBlanks blanks)
    (hrest : Follows rest) : Follows (blanks ++ rest) := by
  cases blanks with
  | nil => exact hrest
  | cons c blanks =>
    have hsub : [' ', '\t', '\n', '\r'] ⊆ delimiters := by decide
    exact .cons (hsub (h c (by simp)))

lemma delimiter_ne {c : Char} (h : c ∈ delimiters) :
    Text.isAsciiDigit c = false ∧ c ≠ '.' ∧ c ≠ 'e' ∧ c ≠ 'E' := by
  simp only [delimiters, List.mem_cons, List.not_mem_nil, or_false] at h
  rcases h with rfl | rfl | rfl | rfl | rfl | rfl | rfl <;> decide

/-- A text does not continue some digits. -/
def NoDigit (rest : List Char) : Prop :=
  ∀ c, rest.head? = some c → Text.isAsciiDigit c = false

lemma takeWhile_isAsciiDigit {ds rest : List Char} (h : AreDigits ds) (hrest : NoDigit rest) :
    (ds ++ rest).takeWhile Text.isAsciiDigit = ds := by
  rw [List.takeWhile_append_of_pos h.2]
  cases rest with
  | nil => simp
  | cons c rest => simp [hrest c rfl]

lemma dropWhile_isAsciiDigit {ds rest : List Char} (h : AreDigits ds) (hrest : NoDigit rest) :
    (ds ++ rest).dropWhile Text.isAsciiDigit = rest := by
  rw [List.dropWhile_append_of_pos h.2]
  cases rest with
  | nil => simp
  | cons c rest => simp [hrest c rfl]

lemma AreDigits.exists_cons {ds : List Char} (h : AreDigits ds) :
    ∃ d ds', ds = d :: ds' ∧ Text.isAsciiDigit d = true := by
  obtain ⟨d, ds', rfl⟩ := List.exists_cons_of_ne_nil h.1
  exact ⟨d, ds', rfl, h.2 d (by simp)⟩

lemma ne_of_isAsciiDigit {c d : Char} (hd : Text.isAsciiDigit d = true)
    (hc : Text.isAsciiDigit c = false) : d ≠ c := by
  rintro rfl
  rw [hd] at hc
  cases hc

lemma AreDigits.isEmpty_eq_false {ds : List Char} (h : AreDigits ds) : ds.isEmpty = false := by
  simpa using h.1

/-- An exponent continues neither digits nor a fraction. -/
lemma ExponentWritten.noDigit_append {x rest : List Char} {n : Int} (h : ExponentWritten x n)
    (hdigit : NoDigit rest) (hpoint : rest.head? ≠ some '.') :
    NoDigit (x ++ rest) ∧ (x ++ rest).head? ≠ some '.' := by
  have hmark : ∀ {e : Char} {r : List Char}, e = 'e' ∨ e = 'E' →
      NoDigit (e :: r) ∧ (e :: r).head? ≠ some '.' := by
    rintro e r (rfl | rfl)
    · exact ⟨by rintro c ⟨⟩; decide, by rintro ⟨⟩⟩
    · exact ⟨by rintro c ⟨⟩; decide, by rintro ⟨⟩⟩
  cases h with
  | absent => exact ⟨hdigit, hpoint⟩
  | plain he => exact hmark he
  | plus he => exact hmark he
  | minus he => exact hmark he

lemma FractionWritten.noDigit_append {f places rest : List Char} (h : FractionWritten f places)
    (hrest : NoDigit rest) : NoDigit (f ++ rest) := by
  cases h with
  | absent => exact hrest
  | digits =>
    rintro c ⟨⟩
    decide

lemma readFraction_append {f places rest : List Char} (h : FractionWritten f places)
    (hdigit : NoDigit rest) (hpoint : rest.head? ≠ some '.') :
    ∃ fraction, readFraction (f ++ rest) = some (fraction, rest) ∧ fraction.getD [] = places ∧
      (fraction = none ↔ f = []) := by
  cases h with
  | absent =>
    refine ⟨none, ?_, rfl, by simp⟩
    rw [List.nil_append, readFraction]
    intro s hs
    exact hpoint (by simp [hs])
  | digits h =>
    refine ⟨some places, ?_, rfl, by simp⟩
    simp [readFraction, takeWhile_isAsciiDigit h hdigit, dropWhile_isAsciiDigit h hdigit, h.1]

lemma readExponent_append {x rest : List Char} {n : Int} (h : ExponentWritten x n)
    (hrest : Follows rest) :
    ∃ exponent, readExponent (x ++ rest) = some (exponent, rest) ∧ exponent.getD 0 = n ∧
      (exponent = none ↔ x = []) := by
  have hdigit : NoDigit rest := fun c hc => (delimiter_ne (hrest c hc)).1
  cases h with
  | absent =>
    refine ⟨none, ?_, rfl, by simp⟩
    cases rest with
    | nil => rfl
    | cons c rest =>
      obtain ⟨-, -, he, hE⟩ := delimiter_ne (hrest c rfl)
      simp [readExponent, he, hE]
  | @plain e ds he h =>
    refine ⟨some (Text.asciiNumber ds), ?_, rfl, by simp⟩
    obtain ⟨d, ds', rfl, hd⟩ := h.exists_cons
    have hminus : d ≠ '-' := ne_of_isAsciiDigit hd (by decide)
    have hplus : d ≠ '+' := ne_of_isAsciiDigit hd (by decide)
    have htake := takeWhile_isAsciiDigit h hdigit
    have hdrop := dropWhile_isAsciiDigit h hdigit
    rw [List.cons_append] at htake hdrop
    simp [readExponent, he, hminus, hplus, htake, hdrop]
  | @plus e ds he h =>
    refine ⟨some (Text.asciiNumber ds), ?_, rfl, by simp⟩
    simp [readExponent, he, takeWhile_isAsciiDigit h hdigit, dropWhile_isAsciiDigit h hdigit, h.1]
  | @minus e ds he h =>
    refine ⟨some (-Text.asciiNumber ds), ?_, rfl, by simp⟩
    simp [readExponent, he, takeWhile_isAsciiDigit h hdigit, dropWhile_isAsciiDigit h hdigit, h.1]

/-- The value of a number from its parts. -/
def numberValue (negative : Bool) (whole : List Char) : Option (List Char) → Option Int → Value
  | none, none => .int (if negative then -Text.asciiNumber whole else Text.asciiNumber whole)
  | fraction, exponent =>
    .float (.ofDecimal negative (Text.asciiNumber (whole ++ fraction.getD []))
      (exponent.getD 0 - (fraction.getD []).length))

lemma readNumber_append {ds r r' rest : List Char} {fraction : Option (List Char)}
    {exponent : Option Int} (negative : Bool) (h : IsWhole ds) (hr : NoDigit r)
    (hf : readFraction r = some (fraction, r')) (hx : readExponent r' = some (exponent, rest)) :
    readNumber (minus negative ++ (ds ++ r)) =
      some (numberValue negative ds fraction exponent, rest) := by
  have hzero : (ds.isEmpty || (ds.head? == some '0' && ds.length > 1)) = false := by
    rw [h.1.isEmpty_eq_false, Bool.false_or]
    by_cases hhead : ds.head? = some '0'
    · simp [h.2 hhead]
    · simp [hhead]
  have htake := takeWhile_isAsciiDigit h.1 hr
  have hdrop := dropWhile_isAsciiDigit h.1 hr
  cases negative with
  | true =>
    rw [minus, if_pos rfl, List.singleton_append, readNumber]
    simp only [htake, hdrop, hzero, hf, Option.bind_eq_bind, Option.bind_some, hx]
    cases fraction <;> cases exponent <;> rfl
  | false =>
    obtain ⟨d, ds', rfl, hd⟩ := h.1.exists_cons
    have hminus : d ≠ '-' := ne_of_isAsciiDigit hd (by decide)
    rw [List.cons_append] at htake hdrop
    rw [minus, if_neg (by decide), List.nil_append, List.cons_append]
    simp only [readNumber, List.cons.injEq, hminus, false_and, imp_self, implies_true, htake, hdrop,
      hzero, hf, Option.bind_eq_bind, Option.bind_some, hx]
    cases fraction <;> cases exponent <;> rfl

/-- A number is read up to where it ends. -/
lemma readNumber_append_of_numberWritten {s : List Char} {v : Value} (h : NumberWritten s v)
    {rest : List Char} (hrest : Follows rest) : readNumber (s ++ rest) = some (v, rest) := by
  have hdigit : NoDigit rest := fun c hc => (delimiter_ne (hrest c hc)).1
  have hpoint : rest.head? ≠ some '.' := fun hc => (delimiter_ne (hrest _ hc)).2.1 rfl
  cases h with
  | whole negative h =>
    obtain ⟨fraction, hf, -, hfnone⟩ := readFraction_append .absent hdigit hpoint
    obtain ⟨exponent, hx, -, hxnone⟩ := readExponent_append .absent hrest
    rw [hfnone.2 rfl] at hf
    rw [hxnone.2 rfl] at hx
    rw [List.append_assoc, readNumber_append negative h hdigit hf hx, numberValue]
  | @float negative ds f x places n h hf hx hsome =>
    obtain ⟨hdigit', hpoint'⟩ := hx.noDigit_append hdigit hpoint
    obtain ⟨fraction, hf', rfl, hfnone⟩ := readFraction_append hf hdigit' hpoint'
    obtain ⟨exponent, hx', rfl, hxnone⟩ := readExponent_append hx hrest
    have hsome' : ¬ (fraction = none ∧ exponent = none) := by
      rintro ⟨hfraction, hexponent⟩
      exact hsome (by rw [hfnone.1 hfraction, hxnone.1 hexponent, List.append_nil])
    have hread := readNumber_append negative h (hf.noDigit_append hdigit') hf' hx'
    simp only [List.append_assoc, hread]
    cases fraction <;> cases exponent <;> simp_all [numberValue]

/-! ### Values -/

lemma skip_blanks_append {blanks : List Char} (h : AreBlanks blanks) (s : List Char) :
    skip (blanks ++ s) = skip s := by
  apply List.dropWhile_append_of_pos
  intro c hc
  have hblank := h c hc
  simpa [isSpace, or_assoc] using hblank

lemma skip_blanks {blanks : List Char} (h : AreBlanks blanks) : skip blanks = [] := by
  have hskip := skip_blanks_append h []
  rwa [List.append_nil] at hskip

lemma skip_cons {c : Char} (hc : isSpace c = false) (s : List Char) : skip (c :: s) = c :: s := by
  rw [skip, List.dropWhile_cons, hc]
  simp

lemma readValue_blanks_append {blanks : List Char} (h : AreBlanks blanks) (fuel : Nat)
    (s : List Char) : readValue fuel (blanks ++ s) = readValue fuel s := by
  cases fuel with
  | zero => rw [readValue_zero, readValue_zero]
  | succ fuel => rw [readValue, readValue, skip_blanks_append h]

lemma readEntry_blanks_append {blanks : List Char} (h : AreBlanks blanks) (fuel : Nat)
    (s : List Char) : readEntry fuel (blanks ++ s) = readEntry fuel s := by
  cases fuel with
  | zero => rw [readEntry_zero, readEntry_zero]
  | succ fuel => rw [readEntry, readEntry, skip_blanks_append h]

lemma isSpace_of_isAsciiDigit {d : Char} (hd : Text.isAsciiDigit d = true) : isSpace d = false := by
  have hne : ∀ c, Text.isAsciiDigit c = false → (d == c) = false := fun c hc =>
    beq_false_of_ne (ne_of_isAsciiDigit hd hc)
  rw [isSpace, hne ' ' (by decide), hne '\t' (by decide), hne '\n' (by decide),
    hne '\r' (by decide)]
  rfl

lemma readValue_digit {d : Char} (hd : Text.isAsciiDigit d = true) (fuel : Nat) (s : List Char) :
    readValue (fuel + 1) (d :: s) = readNumber (d :: s) := by
  have hne : ∀ c, Text.isAsciiDigit c = false → d ≠ c := fun c hc => ne_of_isAsciiDigit hd hc
  rw [readValue, skip_cons (isSpace_of_isAsciiDigit hd)]
  simp [hne '"' (by decide), hne '[' (by decide), hne '\x7b' (by decide), hne 'n' (by decide),
    hne 't' (by decide), hne 'f' (by decide), hne 'N' (by decide), hne 'I' (by decide),
    hne '-' (by decide)]

lemma readValue_minus {d : Char} (hd : Text.isAsciiDigit d = true) (fuel : Nat) (s : List Char) :
    readValue (fuel + 1) ('-' :: d :: s) = readNumber ('-' :: d :: s) := by
  have hne : d ≠ 'I' := ne_of_isAsciiDigit hd (by decide)
  rw [readValue, skip_cons (by decide)]
  simp [hne]

lemma NumberWritten.exists_digit {s : List Char} {v : Value} (h : NumberWritten s v) :
    ∃ d t, Text.isAsciiDigit d = true ∧ (s = d :: t ∨ s = '-' :: d :: t) := by
  have hminus : ∀ (negative : Bool) (d : Char) (t : List Char),
      minus negative ++ d :: t = d :: t ∨ minus negative ++ d :: t = '-' :: d :: t := by
    rintro (_ | _) d t
    · exact .inl rfl
    · exact .inr rfl
  cases h with
  | whole negative h =>
    obtain ⟨d, ds, rfl, hd⟩ := h.1.exists_cons
    exact ⟨d, ds, hd, hminus negative d ds⟩
  | @float negative ds f x places n h =>
    obtain ⟨d, ds, rfl, hd⟩ := h.1.exists_cons
    refine ⟨d, ds ++ f ++ x, hd, ?_⟩
    simpa only [List.append_assoc, List.cons_append] using hminus negative d (ds ++ (f ++ x))

lemma readValue_number {s : List Char} {v : Value} (h : NumberWritten s v) (fuel : Nat)
    {rest : List Char} (hrest : Follows rest) :
    readValue (fuel + 1) (s ++ rest) = some (v, rest) := by
  rw [← readNumber_append_of_numberWritten h hrest]
  obtain ⟨d, t, hd, rfl | rfl⟩ := h.exists_digit
  · exact readValue_digit hd fuel _
  · exact readValue_minus hd fuel _

lemma readValue_text {s rest : List Char} {text : String} (h : StringWritten s text) (fuel : Nat) :
    readValue (fuel + 1) (s ++ rest) = some (.text text, rest) := by
  obtain ⟨t, rfl, hread⟩ := h.exists_readString
  rw [List.cons_append, readValue, skip_cons (by decide)]
  change (readString (t ++ rest)).map (fun p => (Value.text (String.ofList p.1), p.2)) = _
  rw [hread, Option.map_some, String.ofList_toList]

lemma readValue_bracket (fuel : Nat) (r : List Char) :
    readValue (fuel + 1) ('[' :: r) =
      match skip r with
      | ']' :: rest => some (.list [], rest)
      | _ => do
        let (v, rest) ← readValue fuel r
        let (vs, rest) ← readItems fuel rest
        return (.list (v :: vs), rest) := by
  rw [readValue, skip_cons (by decide)]
  rfl

lemma readValue_brace (fuel : Nat) (r : List Char) :
    readValue (fuel + 1) ('\x7b' :: r) =
      match skip r with
      | '\x7d' :: rest => some (.map [], rest)
      | _ => do
        let (e, rest) ← readEntry fuel r
        let (es, rest) ← readEntries fuel rest
        return (.map (Assoc.ofPairs (e :: es)), rest) := by
  rw [readValue, skip_cons (by decide)]
  rfl

lemma readValue_noItems {blanks : List Char} (h : AreBlanks blanks) (fuel : Nat)
    (rest : List Char) : readValue (fuel + 1) ('[' :: (blanks ++ ']' :: rest)) =
      some (.list [], rest) := by
  rw [readValue_bracket, skip_blanks_append h, skip_cons (by decide)]
  rfl

lemma readValue_noEntries {blanks : List Char} (h : AreBlanks blanks) (fuel : Nat)
    (rest : List Char) : readValue (fuel + 1) ('\x7b' :: (blanks ++ '\x7d' :: rest)) =
      some (.map [], rest) := by
  rw [readValue_brace, skip_blanks_append h, skip_cons (by decide)]
  rfl

/-- No value starts with the bracket that closes a list. -/
lemma skip_ne_of_readValue {fuel : Nat} {s rest : List Char} {v : Value}
    (h : readValue fuel s = some (v, rest)) (r : List Char) : skip s ≠ ']' :: r := by
  intro hskip
  cases fuel with
  | zero => rw [readValue_zero] at h; cases h
  | succ fuel =>
    rw [readValue, hskip] at h
    cases h

lemma readValue_list {fuel : Nat} {r mid rest : List Char} {v : Value} {vs : List Value}
    (hv : readValue fuel r = some (v, mid)) (hvs : readItems fuel mid = some (vs, rest)) :
    readValue (fuel + 1) ('[' :: r) = some (.list (v :: vs), rest) := by
  rw [readValue_bracket]
  simp [skip_ne_of_readValue hv, hv, hvs]

/-- No entry starts with the brace that closes a map. -/
lemma skip_ne_of_readEntry {fuel : Nat} {s rest : List Char} {e : String × Value}
    (h : readEntry fuel s = some (e, rest)) (r : List Char) : skip s ≠ '\x7d' :: r := by
  intro hskip
  cases fuel with
  | zero => rw [readEntry_zero] at h; cases h
  | succ fuel =>
    rw [readEntry, hskip] at h
    cases h

lemma readValue_map {fuel : Nat} {r mid rest : List Char} {e : String × Value}
    {es : List (String × Value)} (he : readEntry fuel r = some (e, mid))
    (hes : readEntries fuel mid = some (es, rest)) :
    readValue (fuel + 1) ('\x7b' :: r) = some (.map (Assoc.ofPairs (e :: es)), rest) := by
  rw [readValue_brace]
  simp [skip_ne_of_readEntry he, he, hes]

lemma readItems_close {blanks : List Char} (h : AreBlanks blanks) (fuel : Nat) (rest : List Char) :
    readItems (fuel + 1) (blanks ++ ']' :: rest) = some ([], rest) := by
  rw [readItems, skip_blanks_append h, skip_cons (by decide)]
  rfl

lemma readItems_comma {blanks r mid rest : List Char} {fuel : Nat} {v : Value} {vs : List Value}
    (h : AreBlanks blanks) (hv : readValue fuel r = some (v, mid))
    (hvs : readItems fuel mid = some (vs, rest)) :
    readItems (fuel + 1) (blanks ++ ',' :: r) = some (v :: vs, rest) := by
  rw [readItems, skip_blanks_append h, skip_cons (by decide)]
  change ((readValue fuel r).bind fun p =>
    (readItems fuel p.2).bind fun q => some (p.1 :: q.1, q.2)) = _
  rw [hv, Option.bind_some, hvs, Option.bind_some]

lemma readEntries_close {blanks : List Char} (h : AreBlanks blanks) (fuel : Nat)
    (rest : List Char) : readEntries (fuel + 1) (blanks ++ '\x7d' :: rest) = some ([], rest) := by
  rw [readEntries, skip_blanks_append h, skip_cons (by decide)]
  rfl

lemma readEntries_comma {blanks r mid rest : List Char} {fuel : Nat} {e : String × Value}
    {es : List (String × Value)} (h : AreBlanks blanks) (he : readEntry fuel r = some (e, mid))
    (hes : readEntries fuel mid = some (es, rest)) :
    readEntries (fuel + 1) (blanks ++ ',' :: r) = some (e :: es, rest) := by
  rw [readEntries, skip_blanks_append h, skip_cons (by decide)]
  change ((readEntry fuel r).bind fun p =>
    (readEntries fuel p.2).bind fun q => some (p.1 :: q.1, q.2)) = _
  rw [he, Option.bind_some, hes, Option.bind_some]

lemma readEntry_append {a k b c r mid : List Char} {key : String} {v : Value} {fuel : Nat}
    (ha : AreBlanks a) (hkey : StringWritten k key) (hb : AreBlanks b) (hc : AreBlanks c)
    (hv : readValue fuel r = some (v, mid)) :
    readEntry (fuel + 1) (a ++ (k ++ (b ++ ':' :: (c ++ r)))) = some ((key, v), mid) := by
  obtain ⟨t, rfl, hread⟩ := hkey.exists_readString
  rw [readEntry_blanks_append ha, readEntry, List.cons_append, skip_cons (by decide)]
  have hcolon : skip (b ++ ':' :: (c ++ r)) = ':' :: (c ++ r) := by
    rw [skip_blanks_append hb, skip_cons (by decide)]
  simp [hread, hcolon, readValue_blanks_append hc, hv]

/-! ### Maps -/

lemma put_of_notMem {α : Type} {entries : Assoc α} {key : String} (value : α)
    (h : key ∉ Assoc.keys entries) : Assoc.put entries key value = entries ++ [(key, value)] := by
  induction entries with
  | nil => rfl
  | cons entry entries ih =>
    obtain ⟨k, v⟩ := entry
    rw [Assoc.keys, List.map_cons, List.mem_cons, not_or] at h
    rw [Assoc.put, if_neg (Ne.symm h.1), ih h.2, List.cons_append]

lemma foldl_put_of_nodup {α : Type} (pairs : List (String × α)) {entries : Assoc α}
    (h : (Assoc.keys (entries ++ pairs)).Nodup) :
    pairs.foldl (fun entries p => Assoc.put entries p.1 p.2) entries = entries ++ pairs := by
  induction pairs generalizing entries with
  | nil => simp
  | cons p pairs ih =>
    have hnot : p.1 ∉ Assoc.keys entries := by
      rw [Assoc.keys, List.map_append, List.nodup_append] at h
      intro hmem
      exact h.2.2 _ hmem _ (by simp) rfl
    rw [List.foldl_cons, put_of_notMem p.2 hnot, ih (by simpa using h)]
    simp

lemma ofPairs_of_nodup {α : Type} {pairs : List (String × α)} (h : (Assoc.keys pairs).Nodup) :
    Assoc.ofPairs pairs = pairs :=
  foldl_put_of_nodup pairs h

/-! ### Whole texts -/

/-- A piece of text is read as the part that it writes, whatever follows it, if there is enough
fuel. -/
def IsRead : Part → List Char → Prop
  | .value v, s => ∀ (fuel : Nat) (rest : List Char), s.length ≤ fuel + 1 → Follows rest →
    readValue (fuel + 1) (s ++ rest) = some (v, rest)
  | .items vs, s => ∀ (fuel : Nat) (rest : List Char), s.length ≤ fuel →
    ∃ v vs' mid, vs = v :: vs' ∧ readValue (fuel + 1) (s ++ ']' :: rest) = some (v, mid) ∧
      readItems (fuel + 1) mid = some (vs', rest)
  | .entries es, s => ∀ (fuel : Nat) (rest : List Char), s.length ≤ fuel →
    ∃ e es' mid, es = e :: es' ∧ readEntry (fuel + 1) (s ++ '\x7d' :: rest) = some (e, mid) ∧
      readEntries (fuel + 1) mid = some (es', rest)

/-- Every piece of text of the grammar is read as what it writes. -/
theorem Written.isRead {part : Part} {s : List Char} (h : Written part s) : IsRead part s := by
  -- a rule that uses fuel has a character of its own, so that less text is left for less fuel
  induction h with
  | null =>
    intro fuel rest _ _
    rw [List.cons_append, readValue, skip_cons (by decide)]
    rfl
  | yes =>
    intro fuel rest _ _
    rw [List.cons_append, readValue, skip_cons (by decide)]
    rfl
  | no =>
    intro fuel rest _ _
    rw [List.cons_append, readValue, skip_cons (by decide)]
    rfl
  | number h =>
    intro fuel rest _ hrest
    exact readValue_number h fuel hrest
  | text h =>
    intro fuel rest _ _
    exact readValue_text h fuel
  | noItems h =>
    intro fuel rest _ _
    simpa using readValue_noItems h fuel rest
  | list h ih =>
    intro fuel rest hfuel _
    obtain _ | fuel := fuel
    · simp at hfuel
    obtain ⟨v, vs, mid, rfl, hv, hvs⟩ := ih fuel rest (by simp at hfuel; omega)
    simpa using readValue_list hv hvs
  | noEntries h =>
    intro fuel rest _ _
    simpa using readValue_noEntries h fuel rest
  | map hkeys h ih =>
    intro fuel rest hfuel _
    obtain _ | fuel := fuel
    · simp at hfuel
    obtain ⟨e, es, mid, rfl, he, hes⟩ := ih fuel rest (by simp at hfuel; omega)
    rw [← ofPairs_of_nodup hkeys]
    simpa using readValue_map he hes
  | @lastItem v a s b ha h hb ih =>
    intro fuel rest hfuel
    refine ⟨v, [], b ++ ']' :: rest, rfl, ?_, readItems_close hb fuel rest⟩
    rw [List.append_assoc, List.append_assoc, readValue_blanks_append ha]
    exact ih _ _ (by simp at hfuel; omega) (.blanks_append hb (.cons (by decide)))
  | @item v vs a s b t ha h hb hvs ih ihvs =>
    intro fuel rest hfuel
    obtain _ | fuel := fuel
    · simp at hfuel
    obtain ⟨v', vs', mid, rfl, hv', hvs'⟩ := ihvs fuel rest (by simp at hfuel; omega)
    refine ⟨v, v' :: vs', b ++ ',' :: (t ++ ']' :: rest), rfl, ?_, readItems_comma hb hv' hvs'⟩
    simp only [List.append_assoc, List.cons_append]
    rw [readValue_blanks_append ha]
    exact ih _ _ (by simp at hfuel; omega) (.blanks_append hb (.cons (by decide)))
  | @lastEntry key v a k b c s d ha hkey hb hc h hd ih =>
    intro fuel rest hfuel
    obtain _ | fuel := fuel
    · simp at hfuel
    refine ⟨(key, v), [], d ++ '\x7d' :: rest, rfl, ?_, readEntries_close hd _ rest⟩
    simp only [List.append_assoc, List.cons_append]
    exact readEntry_append ha hkey hb hc
      (ih _ _ (by simp at hfuel; omega) (.blanks_append hd (.cons (by decide))))
  | @entry key v es a k b c s d t ha hkey hb hc h hd hes ih ihes =>
    intro fuel rest hfuel
    obtain _ | fuel := fuel
    · simp at hfuel
    obtain ⟨e', es', mid, rfl, he', hes'⟩ := ihes fuel rest (by simp at hfuel; omega)
    refine ⟨(key, v), e' :: es', d ++ ',' :: (t ++ '\x7d' :: rest), rfl, ?_,
      readEntries_comma hd he' hes'⟩
    simp only [List.append_assoc, List.cons_append]
    exact readEntry_append ha hkey hb hc
      (ih _ _ (by simp at hfuel; omega) (.blanks_append hd (.cons (by decide))))

/-- Reading gives the value that a text writes. -/
theorem Writes.read?_eq {text : List Char} {v : Value} (h : Writes text v) :
    read? text = some v := by
  obtain ⟨a, s, b, ha, hs, hb, rfl⟩ := h
  have hfollows : Follows b := by
    have := Follows.blanks_append hb .nil
    rwa [List.append_nil] at this
  have hread := hs.isRead ((a ++ s ++ b).length + 1) b (by simp; omega) hfollows
  have hvalue : readValue ((a ++ s ++ b).length + 2) (a ++ s ++ b) = some (v, b) := by
    rw [← hread, List.append_assoc, readValue_blanks_append ha]
  rw [read?, hvalue]
  simp [skip_blanks hb]

/-- A text writes at most one value. -/
theorem Writes.unique {text : List Char} {v w : Value} (hv : Writes text v) (hw : Writes text w) :
    v = w := by
  have hread := hv.read?_eq
  rw [hw.read?_eq] at hread
  exact (Option.some.inj hread).symm

end Stylebook.Json
