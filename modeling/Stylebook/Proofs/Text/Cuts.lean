import Mathlib
import Stylebook.Text.Lines

/-!
# Cuts of longer texts

What the cuts of a text give when more text follows. A cut that finds its stop character inside a
text does not look behind it, so the text after it is only carried along. Texts that end with a line
break are the ones in which every cut at the end of a word or of a line finds its stop.
-/

namespace Stylebook.Text

variable {stop : Char → Bool} {a b s q r : List Char} {c : Char}

/-! ### First stops -/

lemma before_append_fromStop (stop : Char → Bool) (s : List Char) :
    before stop s ++ fromStop stop s = s :=
  List.takeWhile_append_dropWhile

lemma stop_of_mem_before {x : Char} (h : x ∈ before stop s) : stop x = false := by
  simpa using List.mem_takeWhile_imp h

lemma stop_of_mem_head?_fromStop {x : Char} (h : x ∈ (fromStop stop s).head?) :
    stop x = true := by
  have hhead := List.head?_dropWhile_not (fun c => !stop c) s
  rw [← fromStop, Option.mem_def.1 h] at hhead
  simpa using hhead

/-- A text with a stop character is cut by the first one. -/
lemma exists_first_stop (h : ∃ x ∈ s, stop x = true) :
    ∃ a c b, s = a ++ c :: b ∧ (∀ x ∈ a, stop x = false) ∧ stop c = true := by
  induction s with
  | nil => simp at h
  | cons x s ih =>
    by_cases hx : stop x = true
    · exact ⟨[], x, s, rfl, by simp, hx⟩
    · obtain ⟨y, hy, hstop⟩ := h
      have hys : y ∈ s := by
        rcases List.mem_cons.1 hy with rfl | hys
        · exact absurd hstop hx
        · exact hys
      obtain ⟨a, c, b, rfl, ha, hc⟩ := ih ⟨y, hys, hstop⟩
      refine ⟨x :: a, c, b, rfl, ?_, hc⟩
      intro z hz
      rcases List.mem_cons.1 hz with rfl | hz
      · simpa using hx
      · exact ha z hz

lemma first_stop_or_forall (stop : Char → Bool) (s : List Char) :
    (∃ a c b, s = a ++ c :: b ∧ (∀ x ∈ a, stop x = false) ∧ stop c = true) ∨
      ∀ x ∈ s, stop x = false := by
  by_cases h : ∃ x ∈ s, stop x = true
  · exact .inl (exists_first_stop h)
  · refine .inr fun x hx => ?_
    simpa using fun hx' => h ⟨x, hx, hx'⟩

lemma before_append_cons (ha : ∀ x ∈ a, stop x = false) (hc : stop c = true) :
    before stop (a ++ c :: r) = a := by
  rw [before, List.takeWhile_append_of_pos (fun x hx => by simp [ha x hx])]
  simp [hc]

lemma fromStop_append_cons (ha : ∀ x ∈ a, stop x = false) (hc : stop c = true) :
    fromStop stop (a ++ c :: r) = c :: r := by
  rw [fromStop, List.dropWhile_append_of_pos (fun x hx => by simp [ha x hx])]
  simp [hc]

lemma cutAt?_append_cons (ha : ∀ x ∈ a, stop x = false) (hc : stop c = true) :
    cutAt? stop (a ++ c :: r) = some (a, r) := by
  simp only [cutAt?, fromStop_append_cons ha hc, before_append_cons ha hc]

lemma forall_beq_eq_false (h : c ∉ a) : ∀ x ∈ a, (x == c) = false := by
  intro x hx
  simpa using fun hxc : x = c => h (hxc ▸ hx)

lemma cutAt?_append_char (h : c ∉ a) (r : List Char) :
    cutAt? (· == c) (a ++ c :: r) = some (a, r) :=
  cutAt?_append_cons (forall_beq_eq_false h) (by simp)

lemma fromStop_of_forall (h : ∀ x ∈ s, stop x = false) : fromStop stop s = [] := by
  simpa [fromStop] using h

lemma before_of_forall (h : ∀ x ∈ s, stop x = false) : before stop s = s := by
  simpa [before] using h

/-- A cut succeeds exactly at the first stop character. -/
lemma cutAt?_eq_some_iff :
    cutAt? stop s = some (a, b) ↔
      ∃ c, s = a ++ c :: b ∧ (∀ x ∈ a, stop x = false) ∧ stop c = true := by
  constructor
  · intro h
    rcases first_stop_or_forall stop s with ⟨a', c, b', rfl, ha, hc⟩ | hnone
    · rw [cutAt?_append_cons ha hc] at h
      cases h
      exact ⟨c, rfl, ha, hc⟩
    · simp [cutAt?, fromStop_of_forall hnone] at h
  · rintro ⟨c, rfl, ha, hc⟩
    exact cutAt?_append_cons ha hc

/-- A cut at one character takes that character out. -/
lemma eq_append_of_cutAt? (h : cutAt? (· == c) s = some (a, b)) : s = a ++ c :: b ∧ c ∉ a := by
  obtain ⟨x, rfl, ha, hx⟩ := cutAt?_eq_some_iff.1 h
  obtain rfl := beq_iff_eq.1 hx
  exact ⟨rfl, fun hmem => by simpa using ha _ hmem⟩

/-- A cut fails exactly if there is no stop character. -/
lemma cutAt?_eq_none_iff : cutAt? (· == c) s = none ↔ c ∉ s := by
  constructor
  · intro h hc
    obtain ⟨a, b, rfl, ha⟩ := List.eq_append_cons_of_mem hc
    simp [cutAt?_append_char ha] at h
  · intro hc
    simp [cutAt?, fromStop_of_forall (forall_beq_eq_false hc)]

lemma head?_ne_of_forall (h : ∀ r, s = c :: r → False) : s.head? ≠ some c := by
  intro hhead
  obtain ⟨r, rfl⟩ := List.head?_eq_some_iff.1 hhead
  exact h r rfl

/-! ### More text behind -/

lemma before_append (h : ∃ x ∈ s, stop x = true) (q : List Char) :
    before stop (s ++ q) = before stop s := by
  obtain ⟨a, c, b, rfl, ha, hc⟩ := exists_first_stop h
  rw [List.append_assoc, List.cons_append, before_append_cons ha hc, before_append_cons ha hc]

lemma fromStop_append (h : ∃ x ∈ s, stop x = true) (q : List Char) :
    fromStop stop (s ++ q) = fromStop stop s ++ q := by
  obtain ⟨a, c, b, rfl, ha, hc⟩ := exists_first_stop h
  rw [List.append_assoc, List.cons_append, fromStop_append_cons ha hc, fromStop_append_cons ha hc,
    List.cons_append]

lemma cutAt?_append (h : cutAt? stop s = some (a, b)) (q : List Char) :
    cutAt? stop (s ++ q) = some (a, b ++ q) := by
  obtain ⟨c, rfl, ha, hc⟩ := cutAt?_eq_some_iff.1 h
  rw [List.append_assoc, List.cons_append, cutAt?_append_cons ha hc]

/-! ### Remainders -/

lemma fromStop_suffix (stop : Char → Bool) (s : List Char) : fromStop stop s <:+ s :=
  List.dropWhile_suffix _

lemma skipSpaces_suffix (s : List Char) : skipSpaces s <:+ s :=
  List.dropWhile_suffix _

lemma nextLine_suffix (s : List Char) : nextLine s <:+ s :=
  (List.drop_suffix 1 _).trans (fromStop_suffix _ s)

lemma suffix_of_cutAt? (h : cutAt? stop s = some (a, b)) : b <:+ s := by
  obtain ⟨c, rfl, -, -⟩ := cutAt?_eq_some_iff.1 h
  exact ⟨a ++ [c], by simp⟩

/-! ### Classes of characters -/

/-- A string without any character of a class. -/
def HasNo (p : Char → Bool) (s : String) : Prop :=
  ∀ x ∈ s.toList, p x = false

instance (p : Char → Bool) (s : String) : Decidable (HasNo p s) :=
  decidable_of_iff (s.toList.all (!p ·) = true) (by simp [HasNo])

/-! ### Lines and spaces -/

lemma line_append_break (h : '\n' ∉ a) (r : List Char) : line (a ++ '\n' :: r) = a :=
  before_append_cons (forall_beq_eq_false h) (by simp)

lemma nextLine_append_break (h : '\n' ∉ a) (r : List Char) : nextLine (a ++ '\n' :: r) = r := by
  rw [nextLine, fromStop_append_cons (forall_beq_eq_false h) (by simp)]
  rfl

/-- A line that is not the last one ends with a line break. -/
lemma line_append_nextLine (h : nextLine s ≠ []) : line s ++ '\n' :: nextLine s = s := by
  by_cases hbreak : '\n' ∈ s
  · obtain ⟨a, b, rfl, ha⟩ := List.eq_append_cons_of_mem hbreak
    rw [line_append_break ha, nextLine_append_break ha]
  · simp [nextLine, fromStop_of_forall (forall_beq_eq_false hbreak)] at h

lemma line_sublist (s : List Char) : (line s).Sublist s :=
  List.takeWhile_sublist _

@[simp] lemma skipSpaces_space (s : List Char) : skipSpaces (' ' :: s) = skipSpaces s := rfl

lemma skipSpaces_cons (h : isSpaceOrTab c = false) : skipSpaces (c :: s) = c :: s := by
  simp [skipSpaces, h]

@[simp] lemma skipSpaces_skipSpaces (s : List Char) : skipSpaces (skipSpaces s) = skipSpaces s :=
  List.dropWhile_idempotent _ _

lemma skipSpaces_append_of_forall (h : ∀ x ∈ a, isSpaceOrTab x = true) (s : List Char) :
    skipSpaces (a ++ s) = skipSpaces s :=
  List.dropWhile_append_of_pos h

lemma isWordEnd_of_isSpaceOrTab (h : isSpaceOrTab c = true) : isWordEnd c = true := by
  simp only [isSpaceOrTab, Bool.or_eq_true, beq_iff_eq] at h
  rcases h with rfl | rfl <;> decide

/-- Nothing is skipped in front of a word. -/
lemma skipSpaces_word (hne : a ≠ []) (h : ∀ x ∈ a, isWordEnd x = false) (r : List Char) :
    skipSpaces (a ++ r) = a ++ r := by
  obtain ⟨x, a, rfl⟩ := List.exists_cons_of_ne_nil hne
  have hx : isWordEnd x = false := h x List.mem_cons_self
  apply skipSpaces_cons
  by_contra hspace
  simp [isWordEnd_of_isSpaceOrTab (by simpa using hspace)] at hx

/-- A line that can be written and read back: it holds no line break, and its last character does
not merge with the break behind it. -/
def IsLine (s : List Char) : Prop :=
  '\n' ∉ s ∧ s.getLast? ≠ some '\r'

lemma joinBreaks_cons (h : c = '\r' → s.head? ≠ some '\n') :
    joinBreaks (c :: s) = c :: joinBreaks s := by
  rw [joinBreaks.eq_def]
  split
  · contradiction
  · rename_i heq
    cases heq
    exact absurd rfl (h rfl)
  · rename_i heq
    cases heq
    rfl

/-- Carriage returns inside a line stay. -/
lemma joinBreaks_append (h : IsLine a) (r : List Char) :
    joinBreaks (a ++ r) = a ++ joinBreaks r := by
  induction a with
  | nil => rfl
  | cons x a ih =>
    obtain ⟨hn, hr⟩ := h
    cases a with
    | nil =>
      have hx : x ≠ '\r' := by simpa using hr
      exact joinBreaks_cons fun h => absurd h hx
    | cons y a =>
      have ha : IsLine (y :: a) := ⟨fun hm => hn (List.mem_cons_of_mem _ hm), by simpa using hr⟩
      have hy : y ≠ '\n' := fun hy => hn (by simp [hy])
      rw [List.cons_append, joinBreaks_cons fun _ => by simpa using hy, ih ha]
      simp only [List.cons_append]

@[simp] lemma joinBreaks_break (r : List Char) : joinBreaks ('\n' :: r) = '\n' :: joinBreaks r :=
  joinBreaks_cons (by simp)

lemma joinBreaks_of_not_mem (h : '\r' ∉ s) : joinBreaks s = s := by
  induction s with
  | nil => rfl
  | cons x s ih =>
    rw [List.mem_cons, not_or] at h
    rw [joinBreaks_cons fun hx => absurd hx.symm h.1, ih h.2]

/-- The rest of a line loses at most a carriage return. -/
lemma exists_joinBreaks_append_break (h : '\n' ∉ a) (r : List Char) :
    ∃ a', '\n' ∉ a' ∧ joinBreaks (a ++ '\n' :: r) = a' ++ '\n' :: joinBreaks r := by
  induction a with
  | nil => exact ⟨[], by simp, joinBreaks_break r⟩
  | cons x a ih =>
    have hx : x ≠ '\n' := fun hx => h (by simp [hx])
    cases a with
    | nil =>
      by_cases hr : x = '\r'
      · exact ⟨[], by simp, by subst hr; rfl⟩
      · exact ⟨[x], by simpa using hx.symm,
          by rw [List.cons_append, joinBreaks_cons fun h => absurd h hr]; simp⟩
    | cons y a =>
      obtain ⟨a', ha', heq⟩ := ih fun hm => h (List.mem_cons_of_mem _ hm)
      have hy : y ≠ '\n' := fun hy => h (by simp [hy])
      refine ⟨x :: a', by simp [ha', hx.symm], ?_⟩
      rw [List.cons_append, joinBreaks_cons fun _ => by simpa using hy, heq, List.cons_append]

/-! ### Texts of whole lines -/

/-- A text that ends with a line break. -/
def EndsLine (s : List Char) : Prop :=
  s.getLast? = some '\n'

/-- A text of whole lines: it is empty or ends with a line break. -/
def IsWhole (s : List Char) : Prop :=
  s = [] ∨ EndsLine s

instance (s : List Char) : Decidable (IsWhole s) :=
  inferInstanceAs (Decidable (s = [] ∨ s.getLast? = some '\n'))

lemma EndsLine.ne_nil (h : EndsLine s) : s ≠ [] := by
  rintro rfl
  simp [EndsLine] at h

lemma EndsLine.mem (h : EndsLine s) : '\n' ∈ s :=
  List.mem_of_getLast? h

lemma EndsLine.of_suffix (h : EndsLine s) (hb : b <:+ s) (hne : b ≠ []) : EndsLine b := by
  obtain ⟨a, rfl⟩ := hb
  rwa [EndsLine, List.getLast?_append_of_ne_nil a hne] at h

lemma EndsLine.isWhole_of_suffix (h : EndsLine s) (hb : b <:+ s) : IsWhole b := by
  by_cases hne : b = []
  · exact Or.inl hne
  · exact Or.inr (h.of_suffix hb hne)

lemma EndsLine.tail (h : EndsLine (c :: s)) (hc : c ≠ '\n') : EndsLine s := by
  refine h.of_suffix (List.suffix_cons c s) ?_
  rintro rfl
  simp [EndsLine, hc] at h

/-- A cut at another character than the line break leaves the end of the line. -/
lemma EndsLine.of_cutAt? (h : EndsLine s) (hc : c ≠ '\n')
    (hcut : cutAt? (· == c) s = some (a, b)) : EndsLine b := by
  obtain ⟨rfl, -⟩ := eq_append_of_cutAt? hcut
  exact (h.of_suffix (List.suffix_append a _) (by simp)).tail hc

section Stops

variable (stop : Char → Bool) (hstop : stop '\n' = true)

include hstop

lemma EndsLine.before_append (h : EndsLine s) (q : List Char) :
    before stop (s ++ q) = before stop s :=
  Text.before_append ⟨_, h.mem, hstop⟩ q

lemma EndsLine.fromStop_append (h : EndsLine s) (q : List Char) :
    fromStop stop (s ++ q) = fromStop stop s ++ q :=
  Text.fromStop_append ⟨_, h.mem, hstop⟩ q

lemma EndsLine.fromStop (h : EndsLine s) : EndsLine (fromStop stop s) := by
  refine h.of_suffix (fromStop_suffix stop s) ?_
  obtain ⟨a, c, b, rfl, ha, hc⟩ := exists_first_stop ⟨_, h.mem, hstop⟩
  simp [fromStop_append_cons ha hc]

end Stops

lemma skipSpaces_eq_fromStop (s : List Char) : skipSpaces s = fromStop (!isSpaceOrTab ·) s := by
  simp [skipSpaces, Text.fromStop]

lemma EndsLine.skipSpaces_append (h : EndsLine s) (q : List Char) :
    skipSpaces (s ++ q) = skipSpaces s ++ q := by
  rw [skipSpaces_eq_fromStop, skipSpaces_eq_fromStop, h.fromStop_append _ (by decide)]

lemma EndsLine.skipSpaces (h : EndsLine s) : EndsLine (skipSpaces s) := by
  rw [skipSpaces_eq_fromStop]
  exact h.fromStop _ (by decide)

lemma EndsLine.line_append (h : EndsLine s) (q : List Char) : line (s ++ q) = line s :=
  h.before_append _ (by decide) q

lemma EndsLine.nextLine_append (h : EndsLine s) (q : List Char) :
    nextLine (s ++ q) = nextLine s ++ q := by
  have hfrom : EndsLine (Text.fromStop (· == '\n') s) := h.fromStop _ rfl
  obtain ⟨x, t, ht⟩ := List.exists_cons_of_ne_nil hfrom.ne_nil
  rw [nextLine, nextLine, h.fromStop_append _ (by decide), ht]
  rfl

end Stylebook.Text
