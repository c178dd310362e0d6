import Mathlib
import Stylebook.Proofs.Corpus.Shares
import Stylebook.Proofs.Passage.Append
import Stylebook.Source

/-!
# The lines of errors

Two readers report errors of a source. The scan counts lines from the start of the source, so with
more text in front its errors lie further down. A passage is read by itself, and its lines are
counted from its own start: wherever the passage stands, the line of its error is the same.
-/

namespace Stylebook

open Text

variable {a b source : List Char} {e : ParseError} {items : List Item}

/-! ### Where errors come from -/

/-- The error of a passage, if it cannot be read. -/
def Item.passageError? (p : List Char) : Option ParseError :=
  match ofPassage p with
  | .error e => some e
  | .ok _ => none

/-- The first error of the passages of a scan. -/
def Scan.passageError? (scan : Scan) : Option ParseError :=
  scan.passages.findSome? Item.passageError?

namespace Reading

/-- Errors of passages come before that of the scan. -/
lemma error_ofPassages (ending : Option ParseError) (ps : List (List Char)) :
    (ofPassages ending ps).error = (ps.findSome? Item.passageError?).or ending := by
  induction ps with
  | nil => rfl
  | cons p ps ih =>
    rw [ofPassages, List.findSome?_cons, Item.passageError?]
    cases Item.ofPassage p with
    | error e => rfl
    | ok item =>
      dsimp only
      rw [← ih]
      split <;> rfl

lemma error_ofSource (source : List Char) :
    (ofSource source).error =
      (Scan.ofSource source).passageError?.or ((Scan.ofSource source).error? source) :=
  error_ofPassages _ _

end Reading

lemma parseSource_eq_error_iff :
    parseSource source = .error e ↔
      (Scan.ofSource source).passageError?.or ((Scan.ofSource source).error? source) = some e := by
  rw [← Reading.error_ofSource, parseSource, Reading.result]
  cases (Reading.ofSource source).error <;> simp

lemma passageError?_of_parseSource (h : parseSource source = .ok items) :
    (Scan.ofSource source).passageError? = none := by
  have herror : (Reading.ofSource source).error = none := by
    unfold parseSource Reading.result at h
    split at h
    · assumption
    · cases h
  rw [Reading.error_ofSource] at herror
  exact (Option.or_eq_none_iff.1 herror).1

/-! ### More text in front -/

namespace Scan

lemma passageError?_append (ha : IsWhole a) (h : (ofSource a).ending = .ok none) (b : List Char) :
    (ofSource (a ++ b)).passageError? =
      (ofSource a).passageError?.or (ofSource b).passageError? := by
  rw [ofSource_append_eq ha h, passageError?, List.findSome?_append]
  rfl

end Scan

/-- An error of the second piece is an error of the whole: one of a passage as it was, one of the
scan further down. -/
lemma parseSource_append_of_error (ha : IsWhole a) (hscan : (Scan.ofSource a).ending = .ok none)
    (hok : parseSource a = .ok items) (hb : parseSource b = .error e) :
    parseSource (a ++ b) =
      .error (if (Scan.ofSource b).passageError? = none then e.after (joinBreaks a) else e) := by
  rw [parseSource_eq_error_iff] at hb ⊢
  rw [Scan.passageError?_append ha hscan, passageError?_of_parseSource hok,
    Scan.error?_append ha hscan, Option.none_or]
  cases hpassage : (Scan.ofSource b).passageError? with
  | none =>
    rw [hpassage, Option.none_or] at hb
    rw [hb, Option.none_or, if_pos rfl, Option.map_some]
  | some e' =>
    rw [hpassage, Option.some_or] at hb
    rw [Option.some_or, if_neg (by simp), hb]

/-! ### Outcomes -/

lemma Text.unifyBreaks_eq_self {s : List Char} (h : '\r' ∉ s) : unifyBreaks s = s := by
  induction s using unifyBreaks.induct with
  | case1 => rfl
  | case2 s => simp at h
  | case3 c s hpair ih =>
    obtain ⟨hc, hs⟩ := not_or.1 (List.mem_cons.not.1 h)
    rw [unifyBreaks, ih hs]
    · simp [Ne.symm hc]
    · exact hpair

/-- The outcome of a file that cannot be parsed gives the error and its line. -/
lemma Disk.outcome_of_parseSource {disk : Disk} {p : Path} {bytes : List UInt8}
    (hbytes : disk.fileBytes p = .ok bytes) (hdecode : Utf8.decode bytes = .ok source)
    (hreturn : '\r' ∉ source) (h : parseSource source = .error e) :
    (disk.completion p).outcome =
      { path := p.text
        items := 0
        error := some e.text
        errorKind := some e.kind.name
        line := some e.line } := by
  have hgives : disk.Gives p (.error (.parse e)) :=
    .unparsed hbytes hdecode (by rwa [unifyBreaks_eq_self hreturn])
  rw [Completion.outcome, hgives.result_eq, disk.path_completion]
  rfl

/-- With whole lines in front that can be read by themselves, a source that cannot be parsed gives an
error of the same kind and wording. Its line is further down by these lines if it is an error of the
scan, and as before if it is one of a passage. This is the line that the outcome of a file shows. -/
theorem parseSource_append_line (a b : List Char) (e : ParseError) (ha : IsWhole a)
    (hscan : (Scan.ofSource a).ending = .ok none) (hok : ∃ items, parseSource a = .ok items)
    (hb : parseSource b = .error e) :
    ∃ e', parseSource (a ++ b) = .error e' ∧ e'.kind = e.kind ∧ e'.text = e.text ∧
      e'.line = e.line + (if (Scan.ofSource b).passageError? = none then breaks a else 0) ∧
      (e'.line = e.line + breaks a ↔ (Scan.ofSource b).passageError? = none ∨ breaks a = 0) ∧
      ∀ (disk : Disk) (p : Path) (bytes : List UInt8), disk.fileBytes p = .ok bytes →
        Utf8.decode bytes = .ok (a ++ b) → '\r' ∉ a ++ b →
          (disk.completion p).outcome =
            { path := p.text
              items := 0
              error := some e'.text
              errorKind := some e'.kind.name
              line := some e'.line } := by
  obtain ⟨items, hok⟩ := hok
  have herror := parseSource_append_of_error ha hscan hok hb
  refine ⟨_, herror, ?_, ?_, ?_, ?_, fun disk p bytes hbytes hdecode hreturn =>
    Disk.outcome_of_parseSource hbytes hdecode hreturn herror⟩
  · split <;> rfl
  · split <;> rfl
  · split
    · rw [ParseError.after, breaks_joinBreaks]
    · rfl
  · by_cases hpassage : (Scan.ofSource b).passageError? = none
    · simp [hpassage, ParseError.after, breaks_joinBreaks]
    · simp [hpassage]

/-- A stray slash is found in the line of the source where it stands. -/
theorem parseSource_append_line_toneSource :
    IsWhole Scan.gridSource ∧ (Scan.ofSource Scan.gridSource).ending = .ok none ∧
      (∃ items, parseSource Scan.gridSource = .ok items) ∧
      parseSource Scan.toneSource =
        .error ⟨.unexpectedToken, "unexpected characters '/ '", 22, 3⟩ ∧
      ∃ e', parseSource (Scan.gridSource ++ Scan.toneSource) = .error e' ∧
        e'.kind = .unexpectedToken ∧ e'.text = "unexpected characters '/ '" ∧ e'.line = 12 := by
  have hwhole : IsWhole Scan.gridSource := by decide
  have hscan : (Scan.ofSource Scan.gridSource).ending = .ok none := by decide +kernel
  have hok : (parseSource Scan.gridSource).isOk = true := by decide +kernel
  have hok : ∃ items, parseSource Scan.gridSource = .ok items := by
    cases hparse : parseSource Scan.gridSource with
    | ok items => exact ⟨items, rfl⟩
    | error e => simp [hparse, Except.isOk, Except.toBool] at hok
  have herror : parseSource Scan.toneSource =
      .error ⟨.unexpectedToken, "unexpected characters '/ '", 22, 3⟩ := by decide +kernel
  obtain ⟨e', hparse, hkind, htext, hline, -⟩ :=
    parseSource_append_line Scan.gridSource Scan.toneSource _ hwhole hscan hok herror
  refine ⟨hwhole, hscan, hok, herror, e', hparse, hkind, htext, hline.trans ?_⟩
  decide +kernel

/-- A passage with an unknown tag. -/
def bogusSource : List Char :=
  "/// @bogus\n$tone: red;\n".toList

/-- A line in front moves the unknown tag to the second line of the source, and the error still gives
the first. -/
theorem parseSource_append_bogusSource :
    IsWhole ['\n'] ∧ '\r' ∉ ['\n'] ++ bogusSource ∧ (Scan.ofSource ['\n']).ending = .ok none ∧
      parseSource ['\n'] = .ok [] ∧
      ∃ e e', parseSource bogusSource = .error e ∧ parseSource (['\n'] ++ bogusSource) = .error e' ∧
        e'.line ≠ e.line + breaks ['\n'] := by
  have hsource : parseSource bogusSource =
      .error ⟨.unknownTag, "unknown annotation @bogus", 0, 1⟩ := by decide +kernel
  have happend : parseSource (['\n'] ++ bogusSource) =
      .error ⟨.unknownTag, "unknown annotation @bogus", 0, 1⟩ := by decide +kernel
  refine ⟨by decide, by decide, ?_, ?_, _, _, hsource, happend, by decide⟩ <;> decide +kernel

end Stylebook
