import Mathlib
import Stylebook.Proofs.Setting.Canonical
import Stylebook.Settings.Basic

/-!
# Fingerprints

The text that the fingerprint of settings is the digest of is a canonical form of the settings that
bear on what is extracted: two settings have the same text just if these are alike, whatever the
order of keys and whatever else they hold.
-/

namespace Stylebook.Settings

open Setting (IsJson HoldsLong Alike)

variable {s t : Settings}

/-- What stands under a key; what is missing counts as null. -/
def getOrNull (s : Settings) (key : String) : Setting :=
  (s.get? key).getD .null

/-- JSON can write what bears on what is extracted. -/
def AreJson (s : Settings) : Prop :=
  ∀ key ∈ ["extensions", "exclude", "warnings"], (s.getOrNull key).IsJson

/-- What bears on what is extracted holds a whole number of more than 4300 digits. -/
def HoldLong (s : Settings) : Prop :=
  ∃ key ∈ ["extensions", "exclude", "warnings"], (s.getOrNull key).HoldsLong

lemma mem_fingerprintKeys {key : String} :
    key ∈ fingerprintKeys ↔ key ∈ ["extensions", "exclude", "warnings"] := by
  simp only [fingerprintKeys, List.mem_cons, List.not_mem_nil, or_false]
  tauto

lemma get?_map_text (names : List String) (f : String → Setting) (name : String) :
    get? (names.map fun key => (.text key, f key)) name =
      if name ∈ names then some (f name) else none := by
  induction names with
  | nil => rfl
  | cons key names ih =>
    rw [List.map_cons, get?_cons, ih]
    by_cases hkey : key = name
    · simp [hkey]
    · simp [hkey, Ne.symm hkey]

lemma AreJson.isJson_fingerprinted (h : s.AreJson) : IsJson s.fingerprinted := by
  refine .map ?_ ?_ ?_
  · intro k hk
    simp only [keys, List.map_map, List.mem_map] at hk
    obtain ⟨key, -, rfl⟩ := hk
    exact ⟨key, rfl⟩
  · exact (by decide : (fingerprintKeys.map Atom.text).Nodup)
  · intro e he
    obtain ⟨key, hkey, rfl⟩ := List.mem_map.1 he
    exact h key (mem_fingerprintKeys.1 hkey)

lemma holdsLong_fingerprinted_iff : HoldsLong s.fingerprinted ↔ s.HoldLong := by
  rw [fingerprinted, Setting.holdsLong_map_iff]
  constructor
  · rintro ⟨e, hmem, hlong⟩
    obtain ⟨key, hkey, rfl⟩ := List.mem_map.1 hmem
    exact ⟨key, mem_fingerprintKeys.1 hkey, hlong⟩
  · rintro ⟨key, hkey, hlong⟩
    exact ⟨_, List.mem_map.2 ⟨key, mem_fingerprintKeys.2 hkey, rfl⟩, hlong⟩

lemma alike_fingerprinted_iff : Alike s.fingerprinted t.fingerprinted ↔
    ∀ key ∈ ["extensions", "exclude", "warnings"], Alike (s.getOrNull key) (t.getOrNull key) := by
  rw [fingerprinted, fingerprinted, Setting.alike_map_iff]
  constructor
  · rintro ⟨-, halike⟩ key hkey
    rw [← mem_fingerprintKeys] at hkey
    apply halike key
    · rw [get?_map_text, if_pos hkey]
      rfl
    · rw [get?_map_text, if_pos hkey]
      rfl
  · intro h
    refine ⟨.of_eq rfl, ?_⟩
    intro name v w hv hw
    rw [get?_map_text] at hv hw
    split at hv
    next hname =>
      rw [if_pos hname] at hw
      cases hv
      cases hw
      exact h name (mem_fingerprintKeys.1 hname)
    next => cases hv

/-- Settings that JSON can write have a text, of which the fingerprint is the digest, unless they
hold a whole number that is too long. Two of them have equal texts just if they are alike in all
that bears on what is extracted. -/
theorem canonical_fingerprinted_eq_iff (hs : s.AreJson) (ht : t.AreJson) :
    (s.HoldLong → s.fingerprint = .error (.integer .unwritable)) ∧
    (¬ s.HoldLong → ¬ t.HoldLong → ∃ text text',
      s.fingerprinted.canonical = .ok text ∧ t.fingerprinted.canonical = .ok text' ∧
      s.fingerprint = .ok (Sha256.digest (Utf8.encode text)) ∧
      t.fingerprint = .ok (Sha256.digest (Utf8.encode text')) ∧
      (text = text' ↔ ∀ key ∈ ["extensions", "exclude", "warnings"],
        Alike (s.getOrNull key) (t.getOrNull key))) := by
  have hjson := hs.isJson_fingerprinted
  have hjson' := ht.isJson_fingerprinted
  constructor
  · intro hlong
    rw [fingerprint, hjson.canonical_eq_error (holdsLong_fingerprinted_iff.2 hlong)]
    rfl
  · intro hlong hlong'
    obtain ⟨text, htext⟩ := hjson.exists_canonical (mt holdsLong_fingerprinted_iff.1 hlong)
    obtain ⟨text', htext'⟩ := hjson'.exists_canonical (mt holdsLong_fingerprinted_iff.1 hlong')
    refine ⟨text, text', htext, htext', ?_, ?_, ?_⟩
    · rw [fingerprint, htext]
      rfl
    · rw [fingerprint, htext']
      rfl
    · rw [hjson.text_eq_iff hjson' htext htext', alike_fingerprinted_iff]

/-- Settings with a map in a list, and with characters that are escaped. -/
def nestedSettings : Settings :=
  [(.text "warnings", .list [.map [(.text "a\"", .bool true), (.text "b", .text "\\u00e9 é😀")]]),
   (.text "exclude", .list [.text "é/"])]

/-- The same, with the keys in another order and with a setting that does not bear on what is
extracted. -/
def shuffledSettings : Settings :=
  [(.text "concurrency", .int 1), (.text "exclude", .list [.text "é/"]),
   (.text "warnings", .list [.map [(.text "b", .text "\\u00e9 é😀"), (.text "a\"", .bool true)]])]

/-- A number where these have a truth value that counts as the same number. -/
def numberedSettings : Settings :=
  [(.text "warnings", .list [.map [(.text "a\"", .int 1), (.text "b", .text "\\u00e9 é😀")]]),
   (.text "exclude", .list [.text "é/"])]

lemma areJson_nestedSettings : nestedSettings.AreJson := by
  simp [AreJson, getOrNull, nestedSettings, get?_cons, keys, Atom.IsJson]

lemma areJson_shuffledSettings : shuffledSettings.AreJson := by
  simp [AreJson, getOrNull, shuffledSettings, get?_cons, keys, Atom.IsJson]

lemma areJson_numberedSettings : numberedSettings.AreJson := by
  simp [AreJson, getOrNull, numberedSettings, get?_cons, keys, Atom.IsJson]

lemma not_holdLong_nestedSettings : ¬ nestedSettings.HoldLong := by
  simp [HoldLong, getOrNull, nestedSettings, get?_cons, Setting.not_holdsLong_atom]

lemma not_holdLong_shuffledSettings : ¬ shuffledSettings.HoldLong := by
  simp [HoldLong, getOrNull, shuffledSettings, get?_cons, Setting.not_holdsLong_atom]

lemma not_holdLong_numberedSettings : ¬ numberedSettings.HoldLong := by
  have hone : ¬ HoldsLong (.int 1) := by
    intro h
    cases h with
    | int h =>
      rw [Int.natAbs_one, ← not_lt] at h
      apply h
      apply Nat.one_lt_pow
      · decide
      · decide
  simp [HoldLong, getOrNull, numberedSettings, get?_cons, Setting.not_holdsLong_atom, hone]

lemma alike_shuffledSettings : ∀ key ∈ ["extensions", "exclude", "warnings"],
    Alike (nestedSettings.getOrNull key) (shuffledSettings.getOrNull key) := by
  have hmap : Alike (.map [(.text "a\"", .bool true), (.text "b", .text "\\u00e9 é😀")])
      (.map [(.text "b", .text "\\u00e9 é😀"), (.text "a\"", .bool true)]) :=
    .map_of_mem (by decide) (by simp)
  simp [getOrNull, nestedSettings, shuffledSettings, get?_cons, hmap]

lemma not_alike_numberedSettings : ¬ ∀ key ∈ ["extensions", "exclude", "warnings"],
    Alike (nestedSettings.getOrNull key) (numberedSettings.getOrNull key) := by
  have hmap : ¬ Alike (.map [(.text "a\"", .bool true), (.text "b", .text "\\u00e9 é😀")])
      (.map [(.text "a\"", .int 1), (.text "b", .text "\\u00e9 é😀")]) := by
    intro h
    have hvalue := (Setting.alike_map_iff.1 h).2 "a\"" (.bool true) (.int 1) rfl rfl
    simp at hvalue
  simp [getOrNull, nestedSettings, numberedSettings, get?_cons, hmap]

/-- The first two of these settings have one text, the third has another. -/
theorem canonical_fingerprinted_eq_iff_nestedSettings :
    (nestedSettings.AreJson ∧ shuffledSettings.AreJson ∧ numberedSettings.AreJson) ∧
    (¬ nestedSettings.HoldLong ∧ ¬ shuffledSettings.HoldLong ∧ ¬ numberedSettings.HoldLong) ∧
    (∃ text, nestedSettings.fingerprinted.canonical = .ok text ∧
      shuffledSettings.fingerprinted.canonical = .ok text) ∧
    ∃ text text', nestedSettings.fingerprinted.canonical = .ok text ∧
      numberedSettings.fingerprinted.canonical = .ok text' ∧ text ≠ text' := by
  refine ⟨⟨areJson_nestedSettings, areJson_shuffledSettings, areJson_numberedSettings⟩,
    ⟨not_holdLong_nestedSettings, not_holdLong_shuffledSettings, not_holdLong_numberedSettings⟩,
    ?_, ?_⟩
  · obtain ⟨text, text', htext, htext', -, -, hiff⟩ :=
      (canonical_fingerprinted_eq_iff areJson_nestedSettings areJson_shuffledSettings).2
        not_holdLong_nestedSettings not_holdLong_shuffledSettings
    obtain rfl := hiff.2 alike_shuffledSettings
    exact ⟨text, htext, htext'⟩
  · obtain ⟨text, text', htext, htext', -, -, hiff⟩ :=
      (canonical_fingerprinted_eq_iff areJson_nestedSettings areJson_numberedSettings).2
        not_holdLong_nestedSettings not_holdLong_numberedSettings
    exact ⟨text, text', htext, htext', mt hiff.1 not_alike_numberedSettings⟩

/-- Settings with a whole number of one digit too many. -/
def longSettings : Settings :=
  [(.text "warnings", .int ((10 ^ 4300 : Nat) : Int))]

/-- JSON could write these settings, but they have no text. -/
theorem canonical_longSettings_eq_error :
    longSettings.AreJson ∧
      longSettings.fingerprinted.canonical = .error (.integer .unwritable) := by
  have hjson : longSettings.AreJson := by
    simp only [AreJson, List.forall_mem_cons]
    exact ⟨.atom trivial, .atom trivial, .atom trivial, nofun⟩
  have hlong : longSettings.HoldLong := by
    refine ⟨"warnings", by simp, .int ?_⟩
    rw [Int.natAbs_natCast]
  exact ⟨hjson,
    hjson.isJson_fingerprinted.canonical_eq_error (holdsLong_fingerprinted_iff.2 hlong)⟩

end Stylebook.Settings
