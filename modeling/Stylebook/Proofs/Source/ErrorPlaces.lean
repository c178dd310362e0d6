import Mathlib
import Stylebook.Proofs.Item.Faults
import Stylebook.Proofs.Passage.Append

/-!
# The places of errors

An error cuts the text that was read in two: its offset counts the characters in front, its line the
line breaks in front. What the error says holds of the text on either side of the cut, for errors of
passages as well as for errors of scans.
-/

namespace Stylebook

open Text

variable {s r a b : List Char} {waiting : Option (List Char)} {f : Fault} {e : ParseError}

/-! ### Where scans get stuck -/

/-- The ways in which a scan can get stuck: at a slash that opens no comment, behind a star of a
comment that is not closed, and behind the dollar sign of a declaration that does not end. -/
inductive Scan.Stuck (s : List Char) : Fault → Prop where
  | straySlash {r : List Char} (hr : '/' :: r <:+ s) (hstar : r.head? ≠ some '*')
      (hslash : r.head? ≠ some '/') : Scan.Stuck s ⟨.straySlash r.head?, '/' :: r⟩
  | unterminated {opening stop : Char} {r : List Char}
      (hstop : (opening, stop) ∈ [('*', '*'), ('$', ';')]) (hr : opening :: r <:+ s)
      (hnone : stop ∉ r) : Scan.Stuck s ⟨.unterminated [String.singleton stop], r⟩

lemma Scan.Stuck.of_suffix (h : Scan.Stuck r f) (hr : r <:+ s) : Scan.Stuck s f := by
  cases h with
  | straySlash hslash hstar hother => exact .straySlash (hslash.trans hr) hstar hother
  | unterminated hstop hopening hnone => exact .unterminated hstop (hopening.trans hr) hnone

namespace Passage

lemma stuck_of_readBlock (h : readBlock s = .error f) : Scan.Stuck ('*' :: s) f := by
  fun_induction readBlock s with
  | case1 s hcut =>
    cases h
    exact .unterminated (by simp) List.suffix_rfl (cutAt?_eq_none_iff.1 hcut)
  | case2 => cases h
  | case3 => cases h
  | case4 s body r _ hcut g hread ih =>
    cases h
    obtain ⟨rfl, -⟩ := eq_append_of_cutAt? hcut
    exact (ih hread).of_suffix ((List.suffix_append body _).trans (List.suffix_cons _ _))

lemma stuck_of_readDeclaration {c : Char} (h : readDeclaration c s = .error f) :
    Scan.Stuck (c :: s) f := by
  unfold readDeclaration at h
  split at h
  · rename_i hdollar
    subst hdollar
    split at h
    · rename_i hcut
      cases h
      exact .unterminated (by simp) List.suffix_rfl (cutAt?_eq_none_iff.1 hcut)
    · cases h
  · cases h

lemma stuck_of_step (h : step waiting s = .failed f) : Scan.Stuck s f := by
  have hs := skipSpaces_suffix s
  unfold step at h
  generalize skipSpaces s = t at h hs
  refine Scan.Stuck.of_suffix ?_ hs
  split at h
  · cases h
  · cases h
  · split at h
    · cases h
    · rename_i hread
      cases h
      exact (stuck_of_readBlock hread).of_suffix (List.suffix_cons _ _)
  · split at h <;> cases h
  · rename_i r hstar hslash
    cases h
    exact .straySlash List.suffix_rfl (head?_ne_of_forall hstar) (head?_ne_of_forall hslash)
  · split at h
    · cases h
    · split at h
      · cases h
      · rename_i hread
        cases h
        exact stuck_of_readDeclaration hread

end Passage

theorem Scan.stuck_of_run (h : (run waiting s).ending = .error f) : Scan.Stuck s f := by
  fun_induction run waiting s with
  | case1 => cases h
  | case2 waiting s g hstep =>
    cases h
    exact Passage.stuck_of_step hstep
  | case3 waiting s w found rest hstep more ih =>
    have hmove := Passage.step_eq_moved_iff.1 hstep
    exact (ih h).of_suffix (hmove.suffix.trans (skipSpaces_suffix s))

/-! ### Places -/

namespace ParseError

/-- The text in front of the place of an error. -/
def front (e : ParseError) (text : List Char) : List Char :=
  text.take e.offset.toNat

/-- The text from the place of an error on. -/
def ahead (e : ParseError) (text : List Char) : List Char :=
  text.drop e.offset.toNat

/-- The offset of an error lies in the text, and its line follows from it. -/
structure IsPlaced (e : ParseError) (text : List Char) : Prop where
  offset_nonneg : 0 ≤ e.offset
  offset_le : e.offset ≤ text.length
  line_eq : e.line = 1 + (e.front text).count '\n'

lemma offset_ofFault (a : List Char) (f : Fault) :
    (ofFault (a ++ f.rest) f).offset = a.length := by
  simp [ofFault]

@[simp] lemma front_ofFault (a : List Char) (f : Fault) :
    (ofFault (a ++ f.rest) f).front (a ++ f.rest) = a := by
  simp [front, offset_ofFault]

@[simp] lemma ahead_ofFault (a : List Char) (f : Fault) :
    (ofFault (a ++ f.rest) f).ahead (a ++ f.rest) = f.rest := by
  simp [ahead, offset_ofFault]

lemma isPlaced_ofFault (a : List Char) (f : Fault) :
    (ofFault (a ++ f.rest) f).IsPlaced (a ++ f.rest) where
  offset_nonneg := by simp [offset_ofFault]
  offset_le := by simp [offset_ofFault]
  line_eq := by
    rw [front_ofFault]
    simp [ofFault, breaks, Nat.add_comm]

end ParseError

/-! ### Wordings -/

lemma text_unterminated {stop : Char} (h : stop ∈ ['}', ')', ';', '*']) :
    (Fault.Cause.unterminated [String.singleton stop]).text =
      "expected one of ['" ++ String.singleton stop ++ "'] before end of input" := by
  simp only [List.mem_cons, List.not_mem_nil, or_false] at h
  rcases h with rfl | rfl | rfl | rfl <;> decide +kernel

/-- How an error shows a character, or that the text has ended. -/
def Text.shown : Option Char → String
  | some c => quoted (String.singleton c)
  | none => "end of input"

lemma text_unexpected {wanted : Char} (h : wanted ∈ ['{', '$']) (found : Option Char) :
    (Fault.Cause.unexpected (String.singleton wanted) found).text =
      "expected '" ++ String.singleton wanted ++ "', found " ++ shown found := by
  simp only [List.mem_cons, List.not_mem_nil, or_false] at h
  cases found with
  | none => rcases h with rfl | rfl <;> decide +kernel
  | some c =>
    have hwanted : "expected " ++ quoted (String.singleton wanted) ++ ", found " =
        "expected '" ++ String.singleton wanted ++ "', found " := by
      rcases h with rfl | rfl <;> decide +kernel
    exact congrArg (· ++ quoted (String.singleton c)) hwanted

lemma text_invalidRequirement (group : List Char) :
    (Fault.Cause.invalidRequirement (collapse group)).text =
      quoted (Item.captured group) ++
        " is not a valid kind of @requires, use `function`, `mixin` or `var`" := by
  rw [quoted, Item.captured, String.toList_ofList]
  rfl

/-! ### Errors of passages -/

/-- What an error of a passage says about the text in front of it and from it on: an unknown tag
stands there, a stop character does not follow, another character than the expected one stands
there, or a group that ends there, behind a requirement, names no kind. -/
def Item.IsExplained (e : ParseError) (front ahead : List Char) : Prop :=
  match e.kind with
  | .unknownTag => ∃ keyword r, ahead = '@' :: (keyword ++ r) ∧
      (∀ x ∈ keyword, isWordEnd x = false) ∧ (∀ x ∈ r.head?, isWordEnd x = true) ∧
      e.text = "unknown annotation @" ++ String.ofList keyword ∧
      String.ofList keyword ∉ Tag.keywords.map Prod.fst
  | .unterminatedToken => ∃ stop ∈ ['}', ')', ';'],
      e.text = "expected one of ['" ++ String.singleton stop ++ "'] before end of input" ∧
      stop ∉ ahead
  | .unexpectedToken => ∃ wanted ∈ ['{', '$'],
      e.text = "expected '" ++ String.singleton wanted ++ "', found " ++ shown ahead.head? ∧
      ahead.head? ≠ some wanted
  | .invalidRequirement => ∃ p keyword spaces group,
      front = p ++ '@' :: (keyword ++ (spaces ++ '{' :: (group ++ ['}']))) ∧
      Tag.ofKeyword? keyword = some .requires ∧ (∀ x ∈ spaces, isSpaceOrTab x = true) ∧
      '}' ∉ group ∧
      e.text = quoted (Item.captured group) ++
        " is not a valid kind of @requires, use `function`, `mixin` or `var`" ∧
      Item.captured group ∉ ["function", "mixin", "var"]

lemma Item.Stuck.exists_front (h : Item.Stuck s f) :
    ∃ a, s = a ++ f.rest ∧ Item.IsExplained (.ofFault s f) a f.rest := by
  cases h with
  | unterminated hstop hr hnone =>
    obtain ⟨a, rfl⟩ := hr
    exact ⟨a, rfl, _, hstop, text_unterminated (List.mem_append_left ['*'] hstop), hnone⟩
  | @unexpected wanted r hwanted hr hhead =>
    obtain ⟨a, rfl⟩ := hr
    exact ⟨a, rfl, wanted, hwanted, text_unexpected hwanted r.head?, hhead⟩
  | @unknownTag r hr hkeyword =>
    obtain ⟨a, rfl⟩ := hr
    refine ⟨a, rfl, before isWordEnd r, fromStop isWordEnd r, ?_, ?_, ?_, rfl, ?_⟩
    · rw [before_append_fromStop]
    · exact fun x hx => stop_of_mem_before hx
    · exact fun x hx => stop_of_mem_head?_fromStop hx
    · intro hmem
      obtain ⟨known, hknown, heq⟩ := List.mem_map.1 hmem
      have hne := List.lookup_eq_none_iff.1 hkeyword known hknown
      simp [heq] at hne
  | @invalidRequirement keyword spaces group r hr hkeyword hspaces hgroup hkind =>
    obtain ⟨p, rfl⟩ := hr
    refine ⟨p ++ '@' :: (keyword ++ (spaces ++ '{' :: (group ++ ['}']))), by simp, p, keyword,
      spaces, group, rfl, hkeyword, hspaces, hgroup, text_invalidRequirement group, ?_⟩
    simpa [Requirement.kinds, List.lookup_eq_none_iff] using hkind

/-! ### Errors of scans -/

/-- What an error of a scan says about the text in front of it and from it on: a slash stands there
that opens no comment, or what closes a comment or a declaration does not follow. -/
def Scan.IsExplained (e : ParseError) (front ahead : List Char) : Prop :=
  match e.kind with
  | .unexpectedToken => ∃ r, ahead = '/' :: r ∧ r.head? ≠ some '*' ∧ r.head? ≠ some '/' ∧
      e.text = "unexpected characters " ++ quoted (String.ofList ('/' :: r.head?.toList))
  | .unterminatedToken => ∃ opening stop, (opening, stop) ∈ [('*', '*'), ('$', ';')] ∧
      front.getLast? = some opening ∧
      e.text = "expected one of ['" ++ String.singleton stop ++ "'] before end of input" ∧
      stop ∉ ahead
  | _ => False

lemma Scan.Stuck.exists_front (h : Scan.Stuck s f) :
    ∃ a, s = a ++ f.rest ∧ Scan.IsExplained (.ofFault s f) a f.rest := by
  cases h with
  | @straySlash r hr hstar hslash =>
    obtain ⟨a, rfl⟩ := hr
    refine ⟨a, rfl, r, rfl, hstar, hslash, ?_⟩
    rw [quoted, String.toList_ofList]
    rfl
  | @unterminated opening stop r hstop hr hnone =>
    obtain ⟨a, rfl⟩ := hr
    have hmem : stop ∈ ['}', ')', ';', '*'] := by
      simp only [List.mem_cons, Prod.mk.injEq, List.not_mem_nil, or_false] at hstop
      rcases hstop with ⟨-, rfl⟩ | ⟨-, rfl⟩ <;> simp
    exact ⟨a ++ [opening], by simp, opening, stop, hstop, by simp, text_unterminated hmem, hnone⟩

/-! ### All errors -/

lemma ParseError.isPlaced_and_of_exists {P : ParseError → List Char → List Char → Prop}
    (h : ∃ a, s = a ++ f.rest ∧ P (.ofFault s f) a f.rest) :
    (ofFault s f).IsPlaced s ∧ P (.ofFault s f) ((ofFault s f).front s) ((ofFault s f).ahead s) := by
  obtain ⟨a, rfl, hexplained⟩ := h
  refine ⟨isPlaced_ofFault a f, ?_⟩
  rwa [front_ofFault, ahead_ofFault]

/-- The error of a passage, and that of a scan, has its place in the text that was read, and what it
says holds there. -/
theorem errors_isPlaced_isExplained :
    (∀ passage e, Item.ofPassage passage = .error e →
      e.IsPlaced passage ∧ Item.IsExplained e (e.front passage) (e.ahead passage)) ∧
    ∀ source e, (Scan.ofSource source).error? source = some e →
      e.IsPlaced (joinBreaks source) ∧
        Scan.IsExplained e (e.front (joinBreaks source)) (e.ahead (joinBreaks source)) := by
  constructor
  · intro passage e h
    unfold Item.ofPassage at h
    split at h
    · cases h
    · rename_i f hread
      cases h
      exact ParseError.isPlaced_and_of_exists (Item.stuck_of_readOn hread).exists_front
  · intro source e h
    unfold Scan.error? at h
    split at h
    · cases h
    · rename_i f hending
      cases h
      exact ParseError.isPlaced_and_of_exists (Scan.stuck_of_run hending).exists_front

/-- A requirement whose group, with a brace of its own, names no kind. -/
def kindPassage : List Char :=
  "Tone\n @requires \t\x7b a \x7bb\n\x7d c".toList

/-- A comment in which the last star does not close it. -/
def openSource : List Char :=
  "a\r\n/* b * c".toList

/-- Both errors are found behind the character that they are about. -/
theorem errors_isPlaced_isExplained_samples :
    (∃ e, Item.ofPassage kindPassage = .error e ∧ e.offset = 25 ∧ e.line = 3 ∧
      e.IsPlaced kindPassage ∧
      Item.IsExplained e "Tone\n @requires \t\x7b a \x7bb\n\x7d".toList " c".toList) ∧
    ∃ e, (Scan.ofSource openSource).error? openSource = some e ∧ e.offset = 8 ∧ e.line = 2 ∧
      e.IsPlaced (joinBreaks openSource) ∧
      Scan.IsExplained e "a\n/* b *".toList " c".toList := by
  obtain ⟨hpassage, hsource⟩ := errors_isPlaced_isExplained
  have hkind : Item.ofPassage kindPassage = .error ⟨.invalidRequirement,
      "'a \x7bb' is not a valid kind of @requires, use `function`, `mixin` or `var`", 25, 3⟩ := by
    decide +kernel
  have hopen : (Scan.ofSource openSource).error? openSource = some ⟨.unterminatedToken,
      "expected one of ['*'] before end of input", 8, 2⟩ := by
    decide +kernel
  obtain ⟨hplaced, hexplained⟩ := hpassage _ _ hkind
  obtain ⟨hplaced', hexplained'⟩ := hsource _ _ hopen
  exact ⟨⟨_, hkind, rfl, rfl, hplaced, hexplained⟩, _, hopen, rfl, rfl, hplaced', hexplained'⟩

end Stylebook
