import Mathlib
import Stylebook.Proofs.Passage.Steps

/-!
# Block comments

The reader of a block comment goes from star to star and looks one character ahead. Whatever stars
and slashes stand in the comment, it ends where a star and a slash stand next to each other for the
first time, and it fails only if they never do.
-/

namespace Stylebook.Passage

open Text

variable {s body rest : List Char} {f : Fault}

/-! ### Closing marks -/

/-- A comment is read to its end only if there is a closing mark. -/
lemma infix_of_readBlock {p : List Char × List Char} (h : readBlock s = .ok p) :
    ['*', '/'] <:+: s := by
  fun_induction readBlock s generalizing p with
  | case1 => cases h
  | case2 s body r hcut =>
    obtain ⟨rfl, -⟩ := eq_append_of_cutAt? hcut
    exact ⟨body, r, by simp⟩
  | case3 s body r _ hcut more left hread ih =>
    obtain ⟨rfl, -⟩ := eq_append_of_cutAt? hcut
    exact (ih hread).trans ((List.suffix_cons '*' r).trans (List.suffix_append body _)).isInfix
  | case4 => cases h

lemma kind_of_readBlock (h : readBlock s = .error f) : f.cause.kind = .unterminatedToken := by
  fun_induction readBlock s generalizing f with
  | case1 =>
    cases h
    rfl
  | case2 | case3 => cases h
  | case4 s body r _ hcut g hread ih =>
    cases h
    exact ih hread

/-- A text with a closing mark is cut by the first one. -/
lemma exists_first_close (h : ['*', '/'] <:+: s) :
    ∃ body rest, s = body ++ '*' :: '/' :: rest ∧ ¬ ['*', '/'] <:+: body := by
  induction s with
  | nil => simp at h
  | cons c s ih =>
    by_cases hc : ['*', '/'] <+: c :: s
    · obtain ⟨rest, hrest⟩ := hc
      exact ⟨[], rest, hrest.symm, by simp⟩
    · obtain ⟨body, rest, rfl, hbody⟩ := ih ((List.infix_cons_iff.1 h).resolve_left hc)
      refine ⟨c :: body, rest, rfl, ?_⟩
      rw [List.infix_cons_iff]
      exact not_or.2 ⟨fun hfront => hc (hfront.trans (List.prefix_append (c :: body) _)), hbody⟩

/-- No mark stands before the first one: marks do not overlap. -/
lemma length_le_of_close (h : ¬ ['*', '/'] <:+: body) {a b : List Char}
    (heq : body ++ '*' :: '/' :: rest = a ++ '*' :: '/' :: b) : body.length ≤ a.length := by
  rcases List.append_eq_append_iff.1 heq with ⟨m, rfl, -⟩ | ⟨m, rfl, hm⟩
  · simp
  · -- A mark that starts in the body ends in it: the slash of one is not the star of another.
    match m with
    | [] => simp
    | [x] => simp at hm
    | x :: y :: m =>
      simp only [List.cons_append, List.cons.injEq] at hm
      obtain ⟨rfl, rfl, -⟩ := hm
      exact absurd ⟨a, m, by simp⟩ h

/-! ### The whole comment -/

/-- The parts of a text behind the opening of a block comment: the body, the rest of the line on
which it is closed, and what is left behind that line. -/
structure IsBlock (t body line left : List Char) : Prop where
  /-- The line ends with a line break or with the text. -/
  eq : t = body ++ '*' :: '/' :: (line ++ '\n' :: left) ∨
    t = body ++ '*' :: '/' :: line ∧ left = []
  /-- The mark behind the body is the first one. -/
  first : ∀ a b, t = a ++ '*' :: '/' :: b → body.length ≤ a.length
  line_free : '\n' ∉ line

lemma isBlock_of_close (h : ¬ ['*', '/'] <:+: body) (rest : List Char) :
    IsBlock (body ++ '*' :: '/' :: rest) body (line rest) (nextLine rest) where
  eq := by
    by_cases hbreak : '\n' ∈ rest
    · obtain ⟨l, left, rfl, hfree⟩ := List.eq_append_cons_of_mem hbreak
      rw [line_append_break hfree, nextLine_append_break hfree]
      exact .inl rfl
    · have hnone := forall_beq_eq_false hbreak
      rw [line, before_of_forall hnone, nextLine, fromStop_of_forall hnone]
      exact .inr ⟨rfl, rfl⟩
  first _ _ heq := length_le_of_close h heq
  line_free hmem := by simpa using stop_of_mem_before hmem

/-- The line and what is left are cut from what stands behind the body. -/
lemma IsBlock.exists_rest {t body l left : List Char} (h : IsBlock t body l left) :
    ∃ rest, t = body ++ '*' :: '/' :: rest ∧ l = line rest ∧ left = nextLine rest := by
  rcases h.eq with heq | ⟨heq, rfl⟩
  · exact ⟨_, heq, (line_append_break h.line_free left).symm,
      (nextLine_append_break h.line_free left).symm⟩
  · have hnone := forall_beq_eq_false h.line_free
    refine ⟨l, heq, ?_, ?_⟩
    · rw [line, before_of_forall hnone]
    · rw [nextLine, fromStop_of_forall hnone]
      rfl

/-- A text has the parts of a block comment in one way only. -/
lemma IsBlock.unique {t body l left body' l' left' : List Char} (h : IsBlock t body l left)
    (h' : IsBlock t body' l' left') : body = body' ∧ l = l' ∧ left = left' := by
  obtain ⟨rest, heq, rfl, rfl⟩ := h.exists_rest
  obtain ⟨rest', heq', rfl, rfl⟩ := h'.exists_rest
  have hlength : body.length = body'.length := (h.first _ _ heq').antisymm (h'.first _ _ heq)
  obtain ⟨rfl, hrest⟩ := List.append_inj (heq.symm.trans heq') hlength
  obtain rfl : rest = rest' := by simpa using hrest
  exact ⟨rfl, rfl, rfl⟩

/-- A block comment ends at its first closing mark. Reading it fails, as an unterminated token,
exactly if there is none; otherwise it gives the body and the rest of the closing line with a line
break, and leaves what stands behind that line. -/
theorem readBlock_ends_at_first_close (t : List Char) :
    ((∃ f, readBlock t = .error f ∧ f.cause.kind = .unterminatedToken) ↔ ¬ ['*', '/'] <:+: t) ∧
      (['*', '/'] <:+: t → ∃ body line left, IsBlock t body line left ∧
        readBlock t = .ok (body ++ line ++ ['\n'], left)) := by
  have hclosed (h : ['*', '/'] <:+: t) : ∃ body line left, IsBlock t body line left ∧
      readBlock t = .ok (body ++ line ++ ['\n'], left) := by
    obtain ⟨body, rest, rfl, hbody⟩ := exists_first_close h
    exact ⟨body, _, _, isBlock_of_close hbody rest, readBlock_append_close hbody rest⟩
  refine ⟨⟨?_, ?_⟩, hclosed⟩
  · rintro ⟨f, herror, -⟩ h
    obtain ⟨body, line, left, -, hok⟩ := hclosed h
    rw [herror] at hok
    cases hok
  · intro h
    cases hread : readBlock t with
    | ok p => exact absurd (infix_of_readBlock hread) h
    | error f => exact ⟨f, rfl, kind_of_readBlock hread⟩

/-- The text behind the opening of a comment with a slash at its start and runs of stars. -/
def boldComment : List Char :=
  "/ Makes **bold** text ***/ // kept\n@mixin bold {}\n".toList

/-- Of the three stars before the slash, only the last belongs to the closing mark. -/
theorem readBlock_ends_at_first_close_boldComment :
    ['*', '/'] <:+: boldComment ∧
      IsBlock boldComment "/ Makes **bold** text **".toList " // kept".toList
        "@mixin bold {}\n".toList ∧
      readBlock boldComment =
        .ok ("/ Makes **bold** text ** // kept\n".toList, "@mixin bold {}\n".toList) := by
  have hclose : ['*', '/'] <:+: boldComment := by decide
  have hcut : boldComment =
      "/ Makes **bold** text **".toList ++ '*' :: '/' :: " // kept\n@mixin bold {}\n".toList := by
    decide
  have hparts : IsBlock boldComment "/ Makes **bold** text **".toList " // kept".toList
      "@mixin bold {}\n".toList := by
    rw [hcut]
    exact isBlock_of_close (by decide) _
  obtain ⟨body, line, left, hblock, hread⟩ := (readBlock_ends_at_first_close boldComment).2 hclose
  obtain ⟨rfl, rfl, rfl⟩ := hblock.unique hparts
  exact ⟨hclose, hblock, hread⟩

end Stylebook.Passage
