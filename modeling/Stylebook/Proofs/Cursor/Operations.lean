import Mathlib
import Stylebook.Cursor
import Stylebook.Proofs.Text.Cuts

/-!
# Operations of a cursor

A cursor whose position lies in its text divides the text into a part that has been passed and a
part ahead. Every operation but a retreat takes a piece off the part ahead, a retreat gives one
back, and an operation that fails leaves the cursor as it found it, though it may have moved the
cursor to the end meanwhile. So a cursor that starts in its text stays there.

Reading up to a stop character and moving past one find the same character: the second succeeds
exactly if the first does not come to the end of the text.
-/

namespace Stylebook.Cursor

open Text

variable {a b v r text : List Char} {x : Char} {c c' : Cursor} {stops : Stops} {f : Failure}

/-! ### One action after another -/

section Actions

variable {α β : Type} {action : Action α} {next : α → Action β} {value : α}

lemma run_bind_of_ok (h : action.run c = .ok value c') :
    (action >>= next).run c = (next value).run c' := by
  rw [EStateM.run_bind, h]

lemma run_bind_of_error (h : action.run c = .error f c') :
    (action >>= next).run c = .error f c' := by
  rw [EStateM.run_bind, h]

lemma run_look_of_ok {read : Cursor → Except Failure α} (h : read c = .ok value) :
    (look read).run c = .ok value c := by
  rw [look, run_bind_of_ok (EStateM.run_get c), h]
  rfl

end Actions

/-! ### Cursors in their text -/

/-- The position lies in the text or at its end. -/
def InBounds (c : Cursor) : Prop :=
  0 ≤ c.pos ∧ c.pos ≤ c.size

/-- The cursor between two parts of a text. -/
def between (a b : List Char) : Cursor :=
  ⟨a ++ b, a.length⟩

@[simp] lemma text_between (a b : List Char) : (between a b).text = a ++ b := rfl

@[simp] lemma pos_between (a b : List Char) : (between a b).pos = a.length := rfl

@[simp] lemma size_between (a b : List Char) :
    (between a b).size = (a.length + b.length : Nat) := by
  simp [between, size]

lemma inBounds_between (a b : List Char) : (between a b).InBounds := by
  rw [InBounds, pos_between, size_between]
  omega

lemma InBounds.exists_between (h : c.InBounds) : ∃ a b, c = between a b := by
  obtain ⟨text, pos⟩ := c
  obtain ⟨hpos, hsize⟩ := h
  obtain ⟨n, rfl⟩ := Int.eq_ofNat_of_zero_le hpos
  have hn : n ≤ text.length := by simpa [size] using hsize
  exact ⟨text.take n, text.drop n, by simp [between, hn]⟩

@[simp] lemma ahead_between (a b : List Char) : (between a b).ahead = .ok b := by
  simp [ahead, ahead?]

@[simp] lemma current_between (a b : List Char) : (between a b).current = .ok b.head? := by
  rw [current, ahead_between]
  rfl

lemma boundary_natCast {n : Nat} (h : n ≤ c.text.length) : c.boundary n = n := by
  have hnonneg : ¬ (n : Int) < 0 := by omega
  rw [boundary, if_neg hnonneg, Int.toNat_natCast, Nat.min_eq_left h]

/-- What is passed is a piece of the part ahead. -/
lemma pass_between (a v r : List Char) :
    (pass v.length).run (between a (v ++ r)) = .ok v (between (a ++ v) r) := by
  have hend : (between a (v ++ r)).pos + v.length = (a.length + v.length : Nat) := by simp
  have hslice : (between a (v ++ r)).slice (between a (v ++ r)).pos
      ((between a (v ++ r)).pos + v.length) = v := by
    rw [slice, hend, pos_between, boundary_natCast (by simp), boundary_natCast (by simp)]
    simp [List.take_append]
  have hmoved : { between a (v ++ r) with pos := (between a (v ++ r)).pos + v.length } =
      between (a ++ v) r := by
    simp [between]
  rw [← hmoved, ← congrArg (EStateM.Result.ok · _) hslice]
  rfl

/-! ### Stop characters -/

lemma has_eq_true_iff : stops.has x = true ↔ String.singleton x ∈ stops := by
  simp [Stops.has]

lemma has_eq_false_iff : stops.has x = false ↔ String.singleton x ∉ stops := by
  rw [← has_eq_true_iff, Bool.not_eq_true]

lemma readUntil_between (stops : Stops) (a b : List Char) :
    (readUntil stops).run (between a b) =
      .ok (before stops.has b) (between (a ++ before stops.has b) (fromStop stops.has b)) := by
  have hpass := pass_between a (before stops.has b) (fromStop stops.has b)
  rw [before_append_fromStop] at hpass
  rw [readUntil, run_bind_of_ok (run_look_of_ok (ahead_between a b)), hpass]

/-- Moving past a stop character is reading up to it and one step more. If the reading comes to the
end, it is undone. -/
lemma consumeUntil_of_readUntil (h : (readUntil stops).run c = .ok v c') :
    (consumeUntil stops).run c = if c'.atEnd then (fail (.unterminated stops)).run c
      else .ok v { c' with pos := c'.pos + 1 } := by
  rw [consumeUntil, run_bind_of_ok (EStateM.run_get c), run_bind_of_ok h,
    run_bind_of_ok (EStateM.run_get c')]
  split <;> rfl

lemma atEnd_between_cons (a r : List Char) (x : Char) : (between a (x :: r)).atEnd = false := by
  simp [atEnd]

lemma atEnd_between_nil (a : List Char) : (between a []).atEnd = true := by
  simp [atEnd]

/-- A reading up to a stop character stays on it, a reading past one moves on by one more. -/
lemma consumeUntil_between_stop (a r : List Char) (hv : ∀ y ∈ v, stops.has y = false)
    (hx : stops.has x = true) :
    (consumeUntil stops).run (between a (v ++ x :: r)) = .ok v (between (a ++ v ++ [x]) r) := by
  have hread := readUntil_between stops a (v ++ x :: r)
  rw [before_append_cons hv hx, fromStop_append_cons hv hx] at hread
  have hnext : { between (a ++ v) (x :: r) with pos := (between (a ++ v) (x :: r)).pos + 1 } =
      between (a ++ v ++ [x]) r := by
    simp [between, add_assoc]
  rw [consumeUntil_of_readUntil hread, atEnd_between_cons, if_neg Bool.false_ne_true, hnext]

/-- Without a stop character the reading comes to the end, and the cursor is set back. -/
lemma consumeUntil_between_of_forall (a : List Char) (h : ∀ y ∈ b, stops.has y = false) :
    (consumeUntil stops).run (between a b) = (fail (.unterminated stops)).run (between a b) := by
  have hread := readUntil_between stops a b
  rw [before_of_forall h, fromStop_of_forall h] at hread
  rw [consumeUntil_of_readUntil hread, atEnd_between_nil, if_pos rfl]

/-! ### Operations -/

/-- What can be done with a cursor. Counts are not negative. -/
inductive Operation where
  | atEnd
  | current
  | peek (offset : Int)
  | advance (count : Nat)
  | retreat (count : Nat)
  | line
  | error (kind : ParseError.Kind) (text : String)
  | readUntil (stops : Stops)
  | consumeUntil (stops : Stops)
  | consumeLine
  | skipBlanks (newlines : Bool)
  | expect (wanted : String)

namespace Operation

/-- An operation without what it gives. -/
def perform : Operation → Action Unit
  | .atEnd | .peek _ | .line | .error _ _ => pure ()
  | .current => do let _ ← look Cursor.current
  | .advance count => Cursor.advance count
  | .retreat count => Cursor.retreat count
  | .readUntil stops => do let _ ← Cursor.readUntil stops
  | .consumeUntil stops => do let _ ← Cursor.consumeUntil stops
  | .consumeLine => do let _ ← Cursor.consumeLine
  | .skipBlanks newlines => Cursor.skipBlanks newlines
  | .expect wanted => Cursor.expect wanted

/-- The cursor that an operation leaves, whether it succeeds or fails. -/
def after (c : Cursor) (op : Operation) : Cursor :=
  match op.perform.run c with
  | .ok _ c' => c'
  | .error _ c' => c'

/-- The cursor after some operations, one after the other. -/
def run (c : Cursor) (ops : List Operation) : Cursor :=
  ops.foldl after c

/-- Whether an operation is a retreat. -/
def isRetreat : Operation → Bool
  | .retreat _ => true
  | _ => false

end Operation

/-- The causes for which an operation can fail. -/
inductive Operation.CanFail : Operation → Fault.Cause → Prop where
  | consumeUntil (stops : Stops) : CanFail (.consumeUntil stops) (.unterminated stops)
  | expect (wanted : String) (found : Option Char) :
      CanFail (.expect wanted) (.unexpected wanted found)

/-- The second cursor stands in the same text as the first, and not before it. -/
structure Onward (c c' : Cursor) : Prop where
  text_eq : c'.text = c.text
  pos_le : c.pos ≤ c'.pos
  inBounds : c'.InBounds

lemma Onward.refl (h : c.InBounds) : Onward c c :=
  ⟨rfl, le_rfl, h⟩

lemma Onward.trans {d : Cursor} (h : Onward c c') (h' : Onward c' d) : Onward c d :=
  ⟨h'.text_eq.trans h.text_eq, h.pos_le.trans h'.pos_le, h'.inBounds⟩

lemma onward_between (a v r : List Char) : Onward (between a (v ++ r)) (between (a ++ v) r) where
  text_eq := by simp
  pos_le := by simp
  inBounds := inBounds_between _ _

lemma advance_between (a b : List Char) (count : Nat) :
    (advance count).run (between a b) = .ok () (between (a ++ b.take count) (b.drop count)) := by
  have hmoved : { between a b with
      pos := min ((between a b).pos + count) (between a b).size } =
        between (a ++ b.take count) (b.drop count) := by
    simp [between, size]
  rw [← hmoved]
  rfl

lemma exists_advance (a b : List Char) (count : Nat) :
    ∃ c, (advance count).run (between a b) = .ok () c ∧ Onward (between a b) c := by
  refine ⟨_, advance_between a b count, ?_⟩
  simpa only [List.take_append_drop] using onward_between a (b.take count) (b.drop count)

lemma exists_retreat (a b : List Char) (count : Nat) :
    ∃ c, (retreat count).run (between a b) = .ok () c ∧ c.text = a ++ b ∧ c.InBounds := by
  refine ⟨_, rfl, rfl, ?_⟩
  simp only [InBounds, size, text_between, pos_between, List.length_append]
  omega

lemma exists_readUntil (stops : Stops) (a b : List Char) :
    ∃ v c, (readUntil stops).run (between a b) = .ok v c ∧ Onward (between a b) c := by
  refine ⟨_, _, readUntil_between stops a b, ?_⟩
  simpa only [before_append_fromStop] using
    onward_between a (before stops.has b) (fromStop stops.has b)

lemma exists_consumeLine (a b : List Char) :
    ∃ v c, consumeLine.run (between a b) = .ok v c ∧ Onward (between a b) c := by
  obtain ⟨v, c, hread, honward⟩ := exists_readUntil ["\n"] a b
  obtain ⟨a', b', rfl⟩ := honward.inBounds.exists_between
  obtain ⟨d, hadvance, honward'⟩ := exists_advance a' b' 1
  rw [Nat.cast_one] at hadvance
  refine ⟨v, d, ?_, honward.trans honward'⟩
  rw [consumeLine, run_bind_of_ok hread, run_bind_of_ok hadvance]
  rfl

lemma exists_skipBlanks (newlines : Bool) (a b : List Char) :
    ∃ c, (skipBlanks newlines).run (between a b) = .ok () c ∧ Onward (between a b) c := by
  set skipped := if newlines then isWordEnd else isSpaceOrTab with hskipped
  have hpass := pass_between a (b.takeWhile skipped) (b.dropWhile skipped)
  have honward := onward_between a (b.takeWhile skipped) (b.dropWhile skipped)
  rw [List.takeWhile_append_dropWhile] at hpass honward
  refine ⟨_, ?_, honward⟩
  rw [skipBlanks, run_bind_of_ok (run_look_of_ok (ahead_between a b)), ← hskipped,
    run_bind_of_ok hpass]
  rfl

/-- Moving past a stop character succeeds if there is one ahead. -/
lemma consumeUntil_cases (stops : Stops) (a b : List Char) :
    (∃ v c, (consumeUntil stops).run (between a b) = .ok v c ∧ Onward (between a b) c) ∨
      (consumeUntil stops).run (between a b) = (fail (.unterminated stops)).run (between a b) := by
  rcases first_stop_or_forall stops.has b with ⟨v, x, r, rfl, hv, hx⟩ | hnone
  · refine .inl ⟨_, _, consumeUntil_between_stop a r hv hx, ?_⟩
    simpa using onward_between a (v ++ [x]) r
  · exact .inr (consumeUntil_between_of_forall a hnone)

lemma expect_cases (wanted : String) (a b : List Char) :
    (∃ c, (expect wanted).run (between a b) = .ok () c ∧ Onward (between a b) c) ∨
      ∃ found, (expect wanted).run (between a b) =
        (fail (.unexpected wanted found)).run (between a b) := by
  rw [expect, run_bind_of_ok (run_look_of_ok (current_between a b))]
  by_cases hwanted : String.ofList b.head?.toList = wanted
  · rw [if_pos hwanted]
    exact .inl (exists_advance a b 1)
  · rw [if_neg hwanted]
    exact .inr ⟨b.head?, rfl⟩

/-- Everything but a retreat moves a cursor on, or fails for one of the causes of the operation and
leaves the cursor where it was. -/
lemma perform_cases (op : Operation) (hop : op.isRetreat = false) (hc : c.InBounds) :
    (∃ c', op.perform.run c = .ok () c' ∧ Onward c c') ∨
      ∃ cause, op.CanFail cause ∧ op.perform.run c = (fail cause).run c := by
  obtain ⟨a, b, rfl⟩ := hc.exists_between
  cases op with
  | retreat count => cases hop
  | atEnd | peek | line | error => exact .inl ⟨_, rfl, .refl hc⟩
  | current =>
    refine .inl ⟨_, ?_, .refl hc⟩
    rw [Operation.perform, run_bind_of_ok (run_look_of_ok (current_between a b))]
    rfl
  | advance count => exact .inl (exists_advance a b count)
  | readUntil stops =>
    obtain ⟨v, c, hread, honward⟩ := exists_readUntil stops a b
    exact .inl ⟨c, run_bind_of_ok hread, honward⟩
  | consumeUntil stops =>
    rcases consumeUntil_cases stops a b with ⟨v, c, hread, honward⟩ | hfail
    · exact .inl ⟨c, run_bind_of_ok hread, honward⟩
    · exact .inr ⟨_, .consumeUntil stops, run_bind_of_error hfail⟩
  | consumeLine =>
    obtain ⟨v, c, hread, honward⟩ := exists_consumeLine a b
    exact .inl ⟨c, run_bind_of_ok hread, honward⟩
  | skipBlanks newlines => exact .inl (exists_skipBlanks newlines a b)
  | expect wanted =>
    rcases expect_cases wanted a b with hok | ⟨found, hfail⟩
    · exact .inl hok
    · exact .inr ⟨_, .expect wanted found, hfail⟩

namespace Operation

lemma after_of_ok (op : Operation) (h : op.perform.run c = .ok () c') : op.after c = c' := by
  rw [after, h]

lemma onward_after (op : Operation) (hop : op.isRetreat = false) (hc : c.InBounds) :
    Onward c (op.after c) := by
  rcases perform_cases op hop hc with ⟨c', hperform, honward⟩ | ⟨cause, -, hfail⟩
  · rwa [op.after_of_ok hperform]
  · rw [after, hfail]
    exact .refl hc

lemma eq_and_exists_cause_of_error (op : Operation) (hc : c.InBounds)
    (h : op.perform.run c = .error f c') :
    c' = c ∧ ∃ cause, op.CanFail cause ∧ f = .parse (c.error cause.kind cause.text) := by
  cases hop : op.isRetreat with
  | true =>
    -- A retreat does not fail.
    cases op with
    | retreat count => cases h
    | _ => cases hop
  | false =>
    rcases perform_cases op hop hc with ⟨d, hperform, -⟩ | ⟨cause, hcan, hfail⟩
    · rw [hperform] at h
      cases h
    · rw [hfail] at h
      cases h
      exact ⟨rfl, cause, hcan, rfl⟩

lemma inBounds_after (op : Operation) (hc : c.InBounds) :
    (op.after c).text = c.text ∧ (op.after c).InBounds := by
  cases hop : op.isRetreat with
  | true =>
    obtain ⟨a, b, rfl⟩ := hc.exists_between
    cases op with
    | retreat count =>
      obtain ⟨c, hretreat, htext, hbounds⟩ := exists_retreat a b count
      rw [after_of_ok (.retreat count) hretreat]
      exact ⟨htext, hbounds⟩
    | _ => cases hop
  | false =>
    have honward := op.onward_after hop hc
    exact ⟨honward.text_eq, honward.inBounds⟩

lemma inBounds_run (ops : List Operation) (hc : c.InBounds) :
    (run c ops).text = c.text ∧ (run c ops).InBounds := by
  induction ops generalizing c with
  | nil => exact ⟨rfl, hc⟩
  | cons op ops ih =>
    obtain ⟨htext, hafter⟩ := op.inBounds_after hc
    obtain ⟨htext', hrun⟩ := ih hafter
    exact ⟨htext'.trans htext, hrun⟩

end Operation

/-! ### Laws -/

/-- How moving past a stop character agrees with reading up to one, where the reading has given
`value` and ended at `d`. -/
structure Agree (c : Cursor) (stops : Stops) (value : List Char) (d : Cursor) : Prop where
  /-- The move succeeds exactly if the reading stops before the end. -/
  isOk_iff : (∃ v c', (consumeUntil stops).run c = .ok v c') ↔ d.pos < c.size
  /-- It then gives the same value and ends one character further on. -/
  consumed : d.pos < c.size → (consumeUntil stops).run c = .ok value { d with pos := d.pos + 1 }
  /-- There is no stop character in the value. -/
  free : ∀ x ∈ value, String.singleton x ∉ stops
  /-- What was passed, the value, a stop character and what is ahead then make up the text. -/
  parts : d.pos < c.size → ∃ stop, String.singleton stop ∈ stops ∧
    c.text = c.text.take c.pos.toNat ++ value ++ stop :: c.text.drop (d.pos + 1).toNat
  /-- Otherwise the move reports that the text ended first, and is undone. -/
  unterminated : ¬ d.pos < c.size →
    ∃ e, (consumeUntil stops).run c = .error (.parse e) c ∧ e.kind = .unterminatedToken

lemma agree_of_stop (a r : List Char) (hv : ∀ y ∈ v, stops.has y = false)
    (hx : stops.has x = true) :
    (between a (v ++ x :: r)).Agree stops v (between (a ++ v) (x :: r)) := by
  have hconsume := consumeUntil_between_stop a r hv hx
  have hlt : (between (a ++ v) (x :: r)).pos < (between a (v ++ x :: r)).size := by
    simp
  have hnext : (between (a ++ v) (x :: r)).pos + 1 = ((a ++ v ++ [x]).length : Nat) := by
    simp [add_assoc]
  have htext : a ++ (v ++ x :: r) = (a ++ v ++ [x]) ++ r := by simp
  exact {
    isOk_iff := ⟨fun _ => hlt, fun _ => ⟨_, _, hconsume⟩⟩
    consumed := fun _ => by simpa [between, add_assoc] using hconsume
    free := fun y hy => has_eq_false_iff.1 (hv y hy)
    parts := fun _ => by
      refine ⟨x, has_eq_true_iff.1 hx, ?_⟩
      rw [hnext, text_between, pos_between, Int.toNat_natCast, Int.toNat_natCast, List.take_left,
        htext, List.drop_left]
      simp
    unterminated := fun h => absurd hlt h }

lemma agree_of_forall (a : List Char) (h : ∀ y ∈ b, stops.has y = false) :
    (between a b).Agree stops b (between (a ++ b) []) := by
  have hfail := consumeUntil_between_of_forall a h
  have hend : ¬ (between (a ++ b) []).pos < (between a b).size := by
    simp
  exact {
    isOk_iff := by
      refine ⟨?_, fun hlt => absurd hlt hend⟩
      rintro ⟨v, c', hconsume⟩
      rw [hfail] at hconsume
      cases hconsume
    consumed := fun hlt => absurd hlt hend
    free := fun y hy => has_eq_false_iff.1 (h y hy)
    parts := fun hlt => absurd hlt hend
    unterminated := fun _ => ⟨_, hfail, rfl⟩ }

lemma exists_agree (hc : c.InBounds) (stops : Stops) :
    ∃ value d, (readUntil stops).run c = .ok value d ∧ c.Agree stops value d := by
  obtain ⟨a, b, rfl⟩ := hc.exists_between
  have hread := readUntil_between stops a b
  rcases first_stop_or_forall stops.has b with ⟨v, x, r, rfl, hv, hx⟩ | hnone
  · rw [before_append_cons hv hx, fromStop_append_cons hv hx] at hread
    exact ⟨_, _, hread, agree_of_stop a r hv hx⟩
  · rw [before_of_forall hnone, fromStop_of_forall hnone] at hread
    exact ⟨_, _, hread, agree_of_forall a hnone⟩

/-- The laws of a cursor in `text`. -/
structure IsLawful (text : List Char) (c : Cursor) : Prop where
  text_eq : c.text = text
  /-- The position lies between the start and the end of the text. -/
  inBounds : 0 ≤ c.pos ∧ c.pos ≤ text.length
  /-- Only a retreat lowers the position. -/
  pos_le_after : ∀ op : Operation, op.isRetreat = false → c.pos ≤ (op.after c).pos
  /-- An operation that fails leaves the cursor where it is, and its error names that place. -/
  left_by_error : ∀ (op : Operation) (f : Failure) (c' : Cursor), op.perform.run c = .error f c' →
    c' = c ∧ ∃ cause, op.CanFail cause ∧ f = .parse (c.error cause.kind cause.text)
  /-- Reading up to a stop character succeeds, and moving past one agrees with it. -/
  agree : ∀ stops, ∃ value d, (readUntil stops).run c = .ok value d ∧ c.Agree stops value d

/-- A cursor that starts in its text obeys the laws after all sequences of operations. -/
theorem isLawful_run (text : List Char) (start : Int) (hstart : 0 ≤ start)
    (hend : start ≤ text.length) (ops : List Operation) :
    IsLawful text (Operation.run ⟨text, start⟩ ops) := by
  have hc : InBounds ⟨text, start⟩ := ⟨hstart, hend⟩
  obtain ⟨htext, hrun⟩ := Operation.inBounds_run ops hc
  exact {
    text_eq := htext
    inBounds := ⟨hrun.1, hrun.2.trans_eq (congrArg (fun s => (s.length : Int)) htext)⟩
    pos_le_after := fun op hop => (op.onward_after hop hrun).pos_le
    left_by_error := fun op _ _ h => op.eq_and_exists_cause_of_error hrun h
    agree := exists_agree hrun }

/-- A type that is not closed: after the failure the cursor still stands behind the brace. -/
theorem isLawful_run_openType :
    (0 : Int) ≤ 0 ∧ (0 : Int) ≤ "\x7bnumber | null".toList.length ∧
      IsLawful "\x7bnumber | null".toList
        (Operation.run ⟨"\x7bnumber | null".toList, 0⟩
          [.expect "\x7b", .consumeUntil ["\x7d"]]) ∧
      (Operation.run ⟨"\x7bnumber | null".toList, 0⟩
        [.expect "\x7b", .consumeUntil ["\x7d"]]).pos = 1 := by
  have hend : (0 : Int) ≤ "\x7bnumber | null".toList.length := by decide
  exact ⟨le_rfl, hend, isLawful_run _ 0 le_rfl hend _, by decide +kernel⟩

end Stylebook.Cursor
