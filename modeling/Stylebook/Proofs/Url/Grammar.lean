import Mathlib
import Stylebook.Url

/-!
# The grammar of addresses

An address can be taken apart in more than one way: a point may belong to the host or end it, and
`www.` may stand before the host or be its beginning. The grammar says which parts an address has,
and a text is valid if and only if some way to take it apart gives such parts.
-/

namespace Stylebook.Url

variable {c : Char} {s : List Char}

/-! ### Parts of an address -/

/-- A host: 2 to 256 letters, digits and marks. -/
structure HostWritten (host : List Char) : Prop where
  two_le : 2 ≤ host.length
  le_limit : host.length ≤ 256
  chars : ∀ c ∈ host, c.isAlphanum = true ∨ c ∈ "-@:%._+~#=".toList

/-- A top level: two to six small letters. -/
structure TopWritten (top : List Char) : Prop where
  two_le : 2 ≤ top.length
  le_six : top.length ≤ 6
  chars : ∀ c ∈ top, c.isLower = true

/-- A tail: letters, digits and marks. The first of them is neither a letter nor a digit, and not the
underscore. -/
structure TailWritten (tail : List Char) : Prop where
  chars : ∀ c ∈ tail, c.isAlphanum = true ∨ c ∈ "-@:%_+.~#?&/=".toList
  head : ∀ c ∈ tail.head?, c.isAlphanum = false ∧ c ≠ '_'

/-! ### Classes of characters -/

lemma isSmall_eq_isLower (c : Char) : isSmall c = c.isLower := by
  simp [isSmall, Char.isLower, UInt32.le_iff_toNat_le]

lemma isLetter_eq_isAlpha (c : Char) : isLetter c = c.isAlpha := by
  simp [isLetter, Char.isAlpha, Char.isLower, Char.isUpper, UInt32.le_iff_toNat_le, Bool.or_comm]

lemma isAsciiDigit_eq_isDigit (c : Char) : Text.isAsciiDigit c = c.isDigit := by
  simp [Text.isAsciiDigit, Char.isDigit, UInt32.le_iff_toNat_le]

/-- Letters and digits are the alphanumeric characters. -/
lemma isLetter_or_isAsciiDigit (c : Char) :
    (isLetter c || Text.isAsciiDigit c) = c.isAlphanum := by
  rw [isLetter_eq_isAlpha, isAsciiDigit_eq_isDigit, Char.isAlphanum]

lemma isWord_eq_false_iff : isWord c = false ↔ c.isAlphanum = false ∧ c ≠ '_' := by
  rw [isWord, isLetter_or_isAsciiDigit, Bool.or_eq_false_iff, beq_eq_false_iff_ne]

lemma isHost_iff : isHost c = true ↔ c.isAlphanum = true ∨ c ∈ "-@:%._+~#=".toList := by
  rw [isHost, isLetter_or_isAsciiDigit, Bool.or_eq_true, List.contains_iff_mem]

lemma isTail_iff : isTail c = true ↔ c.isAlphanum = true ∨ c ∈ "-@:%_+.~#?&/=".toList := by
  rw [isTail, isLetter_or_isAsciiDigit, Bool.or_eq_true, List.contains_iff_mem]

lemma isSmall_eq_false (h : isWord c = false) : isSmall c = false := by
  simp only [isWord, isLetter, Bool.or_eq_false_iff] at h
  exact h.1.1.1

/-! ### Taking a text apart -/

lemma isPrefixOf_and_drop_iff (p : List Char) (n : Nat) (hn : n = p.length)
    (f : List Char → Bool) :
    (p.isPrefixOf s && f (s.drop n)) = true ↔ ∃ r, s = p ++ r ∧ f r = true := by
  rw [Bool.and_eq_true, List.isPrefixOf_iff_prefix, hn]
  constructor
  · rintro ⟨⟨r, rfl⟩, h⟩
    rw [List.drop_left] at h
    exact ⟨r, rfl, h⟩
  · rintro ⟨r, rfl, h⟩
    rw [List.drop_left]
    exact ⟨List.prefix_append p r, h⟩

lemma head?_any_isWord_iff : (!s.head?.any isWord) = true ↔
    ∀ c ∈ s.head?, c.isAlphanum = false ∧ c ≠ '_' := by
  cases s with
  | nil => simp
  | cons c s => simpa using isWord_eq_false_iff

/-- A top level ends where the small letters end, since a tail starts with no small letter. -/
lemma endsWell_iff : endsWell s = true ↔
    ∃ top tail, s = top ++ tail ∧ TopWritten top ∧ TailWritten tail := by
  simp only [endsWell, Bool.and_eq_true, decide_eq_true_eq, List.all_eq_true,
    head?_any_isWord_iff]
  constructor
  · rintro ⟨⟨⟨htwo, hsix⟩, hhead⟩, htail⟩
    have hsmall : ∀ c ∈ s.takeWhile isSmall, c.isLower = true := by
      intro c hc
      rw [← isSmall_eq_isLower]
      exact List.mem_takeWhile_imp hc
    exact ⟨s.takeWhile isSmall, s.dropWhile isSmall, List.takeWhile_append_dropWhile.symm,
      ⟨htwo, hsix, hsmall⟩, ⟨fun c hc => isTail_iff.1 (htail c hc), hhead⟩⟩
  · rintro ⟨top, tail, rfl, htop, htail⟩
    have hsmall : ∀ c ∈ top, isSmall c = true := by
      intro c hc
      rw [isSmall_eq_isLower]
      exact htop.chars c hc
    have hstop : ∀ c ∈ tail.head?, isSmall c = false := by
      intro c hc
      exact isSmall_eq_false (isWord_eq_false_iff.2 (htail.head c hc))
    have htake : (top ++ tail).takeWhile isSmall = top := by
      rw [List.takeWhile_append_of_pos hsmall]
      cases tail with
      | nil => simp
      | cons c r => simp [hstop c rfl]
    have hdrop : (top ++ tail).dropWhile isSmall = tail := by
      rw [List.dropWhile_append_of_pos hsmall]
      cases tail with
      | nil => rfl
      | cons c r => simp [hstop c rfl]
    rw [htake, hdrop]
    exact ⟨⟨⟨htop.two_le, htop.le_six⟩, htail.head⟩, fun c hc => isTail_iff.2 (htail.chars c hc)⟩

/-- The rest of a host, a point and a good end. The count and the rest together are bounded. -/
lemma hostFits_iff {count : Nat} (hcount : count ≤ 256) : hostFits count s = true ↔
    ∃ host r, s = host ++ '.' :: r ∧ (∀ c ∈ host, isHost c = true) ∧ 2 ≤ count + host.length ∧
      count + host.length ≤ 256 ∧ endsWell r = true := by
  induction s generalizing count with
  | nil => simp [hostFits]
  | cons c s ih =>
    simp only [hostFits, Bool.or_eq_true, Bool.and_eq_true, beq_iff_eq, decide_eq_true_eq]
    constructor
    · rintro (⟨⟨rfl, htwo⟩, hend⟩ | ⟨⟨hlt, hc⟩, hfits⟩)
      · exact ⟨[], s, rfl, by simp, htwo, hcount, hend⟩
      · obtain ⟨host, r, rfl, hhost, htwo, hlimit, hend⟩ := (ih hlt).1 hfits
        refine ⟨c :: host, r, rfl, List.forall_mem_cons.2 ⟨hc, hhost⟩, ?_, ?_, hend⟩
        · rw [List.length_cons]
          omega
        · rw [List.length_cons]
          omega
    · rintro ⟨host, r, hs, hhost, htwo, hlimit, hend⟩
      cases host with
      | nil =>
        cases hs
        exact Or.inl ⟨⟨rfl, htwo⟩, hend⟩
      | cons d host =>
        cases hs
        rw [List.length_cons] at htwo hlimit
        obtain ⟨hc, hhost⟩ := List.forall_mem_cons.1 hhost
        have hfits : hostFits (count + 1) (host ++ '.' :: r) = true :=
          (ih (by omega)).2 ⟨host, r, rfl, hhost, by omega, by omega, hend⟩
        exact Or.inr ⟨⟨by omega, hc⟩, hfits⟩

lemma hostFits_zero_iff : hostFits 0 s = true ↔
    ∃ host top tail, s = host ++ '.' :: (top ++ tail) ∧ HostWritten host ∧ TopWritten top ∧
      TailWritten tail := by
  rw [hostFits_iff (Nat.zero_le _)]
  constructor
  · rintro ⟨host, r, rfl, hhost, htwo, hlimit, hend⟩
    obtain ⟨top, tail, rfl, htop, htail⟩ := endsWell_iff.1 hend
    rw [Nat.zero_add] at htwo hlimit
    exact ⟨host, top, tail, rfl, ⟨htwo, hlimit, fun c hc => isHost_iff.1 (hhost c hc)⟩, htop, htail⟩
  · rintro ⟨host, top, tail, rfl, hhost, htop, htail⟩
    refine ⟨host, top ++ tail, rfl, fun c hc => isHost_iff.2 (hhost.chars c hc), ?_, ?_,
      endsWell_iff.2 ⟨top, tail, rfl, htop, htail⟩⟩
    · rw [Nat.zero_add]
      exact hhost.two_le
    · rw [Nat.zero_add]
      exact hhost.le_limit

lemma hasHost_iff : hasHost s = true ↔
    ∃ www host top tail, s = www ++ (host ++ '.' :: (top ++ tail)) ∧
      (www = [] ∨ www = "www.".toList) ∧ HostWritten host ∧ TopWritten top ∧
      TailWritten tail := by
  rw [hasHost, Bool.or_eq_true, isPrefixOf_and_drop_iff "www.".toList 4 rfl]
  simp only [hostFits_zero_iff]
  constructor
  · rintro (⟨host, top, tail, rfl, h⟩ | ⟨r, rfl, host, top, tail, rfl, h⟩)
    · exact ⟨[], host, top, tail, rfl, Or.inl rfl, h⟩
    · exact ⟨_, host, top, tail, rfl, Or.inr rfl, h⟩
  · rintro ⟨www, host, top, tail, rfl, rfl | rfl, h⟩
    · exact Or.inl ⟨host, top, tail, rfl, h⟩
    · exact Or.inr ⟨_, rfl, host, top, tail, rfl, h⟩

/-- The valid addresses are those that can be taken apart into a scheme, perhaps `www.`, a host, a
top level and a tail. -/
theorem isValid_iff_written (s : List Char) : isValid s = true ↔
    ∃ scheme www host top tail,
      s = scheme ++ "://".toList ++ www ++ host ++ ".".toList ++ top ++ tail ∧
      (scheme = "http".toList ∨ scheme = "https".toList) ∧
      (www = [] ∨ www = "www.".toList) ∧
      HostWritten host ∧ TopWritten top ∧ TailWritten tail := by
  rw [isValid, Bool.or_eq_true, isPrefixOf_and_drop_iff "http://".toList 7 rfl,
    isPrefixOf_and_drop_iff "https://".toList 8 rfl]
  simp only [hasHost_iff]
  constructor
  · rintro (⟨r, rfl, www, host, top, tail, rfl, h⟩ | ⟨r, rfl, www, host, top, tail, rfl, h⟩)
    · exact ⟨_, www, host, top, tail, by simp, Or.inl rfl, h⟩
    · exact ⟨_, www, host, top, tail, by simp, Or.inr rfl, h⟩
  · rintro ⟨scheme, www, host, top, tail, rfl, rfl | rfl, h⟩
    · exact Or.inl ⟨_, by simp, www, host, top, tail, rfl, h⟩
    · exact Or.inr ⟨_, by simp, www, host, top, tail, rfl, h⟩

-- Without `www.` as a part of its own, the host is `www`.
example : isValid "https://www.ab?c".toList = true := by decide

end Stylebook.Url
