import Mathlib
import Stylebook.Text.Utf8

/-!
# Texts and their bytes

The bytes of a text are those of its characters one after another, and they are read as this text.
-/

namespace Stylebook

namespace Text

/-- No character has the number of a surrogate. -/
lemma toNat_lt_or_ge (c : Char) : c.toNat < 0xD800 ∨ 0xE000 ≤ c.toNat := by
  rcases c.valid with h | h
  · exact .inl h
  · exact .inr h.1

lemma toNat_lt (c : Char) : c.toNat < 0x110000 := by
  rcases c.valid with h | h
  · exact lt_trans h (by norm_num)
  · exact h.2

end Text

namespace Utf8

/-! ### The bytes of a text -/

lemma toList_loop (bytes : ByteArray) (i : Nat) (r : List UInt8) :
    ByteArray.toList.loop bytes i r = r.reverse ++ bytes.data.toList.drop i := by
  induction i, r using ByteArray.toList.loop.induct bytes with
  | case1 i r h ih =>
    have hdrop := List.drop_eq_getElem_cons (l := bytes.data.toList) h
    rw [ByteArray.toList.loop, if_pos h, ih, List.reverse_cons, List.append_assoc, hdrop]
    have hget : bytes.get! i = bytes.data.toList[i] := by
      simp [ByteArray.get!, getElem!_pos bytes.data i h]
    rw [hget, List.singleton_append]
  | case2 i r h =>
    have hlength : bytes.data.toList.length ≤ i := not_lt.1 h
    rw [ByteArray.toList.loop, if_neg h, List.drop_eq_nil_of_le hlength, List.append_nil]

lemma encode_eq (s : String) : encode s = s.toList.flatMap String.utf8EncodeChar := by
  rw [encode, ByteArray.toList, toList_loop, String.toUTF8, ← String.utf8Encode_toList,
    List.utf8Encode, List.toList_data_toByteArray]
  rfl

/-! ### Reading a character -/

variable {a b c d : UInt8}

lemma isTail_iff : isTail b = true ↔ 0x80 ≤ b.toNat ∧ b.toNat ≤ 0xBF := by
  simp [isTail, UInt8.le_iff_toNat_le]

lemma mayFollow_iff :
    mayFollow a b = true ↔ isTail b = true ∧ (a.toNat = 0xE0 → 0xA0 ≤ b.toNat) ∧
      (a.toNat = 0xED → b.toNat ≤ 0x9F) ∧ (a.toNat = 0xF0 → 0x90 ≤ b.toNat) ∧
      (a.toNat = 0xF4 → b.toNat ≤ 0x8F) := by
  simp [mayFollow, UInt8.le_iff_toNat_le, ← UInt8.toNat_inj, and_assoc, imp_iff_not_or]

lemma decodeFrom_one (ha : a.toNat < 0x80) (position : Nat) (s : List UInt8) :
    decodeFrom position (a :: s) =
      (decodeFrom (position + 1) s).map (Char.ofNat a.toNat :: ·) := by
  have h80 : a < 0x80 := by simpa [UInt8.lt_iff_toNat_lt] using ha
  rw [decodeFrom.eq_def]
  simp only [h80, if_true]

/-- The first byte of a character of several bytes. -/
lemma not_start_fault (ha : 0xC2 ≤ a.toNat ∧ a.toNat < 0xF5) :
    ¬ a < 0x80 ∧ ¬ (a < 0xC2 || 0xF5 ≤ a) = true := by
  simp only [UInt8.lt_iff_toNat_lt, UInt8.le_iff_toNat_le, Bool.or_eq_true, decide_eq_true_eq,
    UInt8.reduceToNat]
  omega

lemma decodeFrom_two (ha : 0xC2 ≤ a.toNat ∧ a.toNat < 0xE0) (hb : isTail b = true) (position : Nat)
    (s : List UInt8) :
    decodeFrom position (a :: b :: s) =
      (decodeFrom (position + 2) s).map (Char.ofNat (a.toNat % 32 * 64 + tailBits b) :: ·) := by
  obtain ⟨h80, hstart⟩ := not_start_fault (show 0xC2 ≤ a.toNat ∧ a.toNat < 0xF5 by omega)
  have hE0 : a < 0xE0 := by simpa [UInt8.lt_iff_toNat_lt] using ha.2
  rw [decodeFrom.eq_def]
  simp only [if_neg h80, if_neg hstart, if_pos hE0, if_pos hb]

lemma decodeFrom_three (ha : 0xE0 ≤ a.toNat ∧ a.toNat < 0xF0) (hb : mayFollow a b = true)
    (hc : isTail c = true) (position : Nat) (s : List UInt8) :
    decodeFrom position (a :: b :: c :: s) =
      (decodeFrom (position + 3) s).map
        (Char.ofNat ((a.toNat % 16 * 64 + tailBits b) * 64 + tailBits c) :: ·) := by
  obtain ⟨h80, hstart⟩ := not_start_fault (show 0xC2 ≤ a.toNat ∧ a.toNat < 0xF5 by omega)
  have hE0 : ¬ a < 0xE0 := by simpa [UInt8.lt_iff_toNat_lt] using ha.1
  have hF0 : a < 0xF0 := by simpa [UInt8.lt_iff_toNat_lt] using ha.2
  rw [decodeFrom.eq_def]
  simp only [if_neg h80, if_neg hstart, if_neg hE0, if_pos hF0, hb, hc, Bool.not_true,
    Bool.false_eq_true, if_false, if_true]

lemma decodeFrom_four (ha : 0xF0 ≤ a.toNat ∧ a.toNat < 0xF5) (hb : mayFollow a b = true)
    (hc : isTail c = true) (hd : isTail d = true) (position : Nat) (s : List UInt8) :
    decodeFrom position (a :: b :: c :: d :: s) =
      (decodeFrom (position + 4) s).map
        (Char.ofNat (((a.toNat % 8 * 64 + tailBits b) * 64 + tailBits c) * 64
          + tailBits d) :: ·) := by
  obtain ⟨h80, hstart⟩ := not_start_fault (show 0xC2 ≤ a.toNat ∧ a.toNat < 0xF5 by omega)
  have hE0 : ¬ a < 0xE0 := by
    simp only [UInt8.lt_iff_toNat_lt, UInt8.reduceToNat]
    omega
  have hF0 : ¬ a < 0xF0 := by simpa [UInt8.lt_iff_toNat_lt] using ha.1
  rw [decodeFrom.eq_def]
  simp only [if_neg h80, if_neg hstart, if_neg hE0, if_neg hF0, hb, hc, hd, Bool.not_true,
    Bool.false_eq_true, if_false, if_true]

/-! ### Reading back -/

lemma toNat_ofNat_of_lt {n : Nat} (h : n < 256) : (UInt8.ofNat n).toNat = n := by
  rw [UInt8.toNat_ofNat', Nat.mod_eq_of_lt h]

lemma isTail_ofNat (n : Nat) : isTail (UInt8.ofNat (n % 64 + 128)) = true := by
  rw [isTail_iff, toNat_ofNat_of_lt (by omega)]
  omega

lemma tailBits_ofNat (n : Nat) : tailBits (UInt8.ofNat (n % 64 + 128)) = n % 64 := by
  rw [tailBits, toNat_ofNat_of_lt (by omega)]
  omega

/-- The bytes of a character are read as this character. The four cases are those of its length in
bytes. -/
lemma decodeFrom_append (x : Char) (position : Nat) (s : List UInt8) :
    decodeFrom position (String.utf8EncodeChar x ++ s) =
      (decodeFrom (position + (String.utf8EncodeChar x).length) s).map (x :: ·) := by
  have hrange := Text.toNat_lt_or_ge x
  have hlast := Text.toNat_lt x
  have hval : x.val.toNat = x.toNat := rfl
  unfold String.utf8EncodeChar
  simp only [hval]
  split_ifs with h1 h2 h3
  · have hbyte : (UInt8.ofNat x.toNat).toNat = x.toNat := toNat_ofNat_of_lt (by omega)
    have hread := decodeFrom_one (hbyte.trans_lt (by omega)) position s
    rw [hbyte, Char.ofNat_toNat] at hread
    exact hread
  · have hbyte : (UInt8.ofNat (x.toNat / 64 % 32 + 192)).toNat = x.toNat / 64 % 32 + 192 :=
      toNat_ofNat_of_lt (by omega)
    have hread := decodeFrom_two (by rw [hbyte]; omega) (isTail_ofNat x.toNat) position s
    have hnumber : (x.toNat / 64 % 32 + 192) % 32 * 64 + x.toNat % 64 = x.toNat := by omega
    rw [hbyte, tailBits_ofNat, hnumber, Char.ofNat_toNat] at hread
    exact hread
  · have hbyte : (UInt8.ofNat (x.toNat / 4096 % 16 + 224)).toNat = x.toNat / 4096 % 16 + 224 :=
      toNat_ofNat_of_lt (by omega)
    have hfollow : mayFollow (UInt8.ofNat (x.toNat / 4096 % 16 + 224))
        (UInt8.ofNat (x.toNat / 64 % 64 + 128)) = true := by
      rw [mayFollow_iff, hbyte, toNat_ofNat_of_lt (show x.toNat / 64 % 64 + 128 < 256 by omega)]
      refine ⟨isTail_ofNat _, ?_, ?_, ?_, ?_⟩ <;> omega
    have hread := decodeFrom_three (by rw [hbyte]; omega) hfollow (isTail_ofNat x.toNat) position s
    have hnumber : ((x.toNat / 4096 % 16 + 224) % 16 * 64 + x.toNat / 64 % 64) * 64 + x.toNat % 64 =
        x.toNat := by omega
    rw [hbyte, tailBits_ofNat, tailBits_ofNat, hnumber, Char.ofNat_toNat] at hread
    exact hread
  · have hbyte : (UInt8.ofNat (x.toNat / 262144 % 8 + 240)).toNat = x.toNat / 262144 % 8 + 240 :=
      toNat_ofNat_of_lt (by omega)
    have hfollow : mayFollow (UInt8.ofNat (x.toNat / 262144 % 8 + 240))
        (UInt8.ofNat (x.toNat / 4096 % 64 + 128)) = true := by
      rw [mayFollow_iff, hbyte, toNat_ofNat_of_lt (show x.toNat / 4096 % 64 + 128 < 256 by omega)]
      refine ⟨isTail_ofNat _, ?_, ?_, ?_, ?_⟩ <;> omega
    have hread := decodeFrom_four (by rw [hbyte]; omega) hfollow (isTail_ofNat (x.toNat / 64))
      (isTail_ofNat x.toNat) position s
    have hnumber : (((x.toNat / 262144 % 8 + 240) % 8 * 64 + x.toNat / 4096 % 64) * 64 +
        x.toNat / 64 % 64) * 64 + x.toNat % 64 = x.toNat := by omega
    rw [hbyte, tailBits_ofNat, tailBits_ofNat, tailBits_ofNat, hnumber, Char.ofNat_toNat] at hread
    exact hread

/-- The bytes of a text are read as this text. -/
theorem decode_encode (s : String) : decode (encode s) = .ok s.toList := by
  have hread : ∀ (cs : List Char) (position : Nat),
      decodeFrom position (cs.flatMap String.utf8EncodeChar) = .ok cs := by
    intro cs
    induction cs with
    | nil =>
      intro position
      rw [List.flatMap_nil, decodeFrom.eq_def]
    | cons c cs ih =>
      intro position
      rw [List.flatMap_cons, decodeFrom_append, ih]
      rfl
  rw [decode, encode_eq, hread]

end Utf8

end Stylebook
