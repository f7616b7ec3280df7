/-
# Bytes of a text read back

A text is stored as its characters in UTF-8, each in one to four bytes.  The strict reading of
these bytes gives the text again: the bounds on the second byte, which keep out overlong forms and
surrogates, let every character through.
-/
import Mathlib.Tactic.Common
import PassContext.Text.Utf8

namespace PassContext.Text

/-- The bytes of a text. -/
def utf8Bytes (s : String) : List UInt8 := s.toList.flatMap String.utf8EncodeChar

/-- They are the bytes that a text is stored as. -/
theorem utf8Bytes_eq_data (s : String) : utf8Bytes s = s.toUTF8.data.toList := by
  have h : s.toUTF8 = s.toList.utf8Encode := String.utf8Encode_toList.symm
  rw [h, List.utf8Encode]
  simp [utf8Bytes]

/-! ## 1. One character -/

theorem toNat_ofNat {n : Nat} (h : n < 256) : (UInt8.ofNat n).toNat = n := by
  simp [UInt8.toNat_ofNat']
  omega

/-- A continuation byte is read. -/
theorem continuations_succ {count bits n : Nat} {low high : UInt8} (rest : List UInt8)
    (hn : n < 256) (hlow : low.toNat ≤ n) (hhigh : n ≤ high.toNat) :
    continuations (count + 1) bits low high (UInt8.ofNat n :: rest) =
      continuations count (bits * 0x40 + n % 0x40) 0x80 0xBF rest := by
  have hbounds : low ≤ UInt8.ofNat n ∧ UInt8.ofNat n ≤ high := by
    simp only [UInt8.le_iff_toNat_le, toNat_ofNat hn]
    exact ⟨hlow, hhigh⟩
  simp only [continuations, continuationBits, toNat_ofNat hn]
  simp [hbounds]

/-- A character that is stored as several bytes. -/
theorem firstChar_ofNat {n count bits : Nat} {low high : UInt8} (rest : List UInt8) (hn : n < 256)
    (h : 0x80 ≤ n) (hleading : leadingByte (UInt8.ofNat n) = some (count, bits, low, high)) :
    firstChar (UInt8.ofNat n) rest =
      ((continuations count bits low high rest).1.map Char.ofNat,
        (continuations count bits low high rest).2) := by
  have hlarge : ¬UInt8.ofNat n < 0x80 := by
    simp only [UInt8.lt_iff_toNat_lt, toNat_ofNat hn]
    exact Nat.not_lt.mpr h
  simp only [firstChar, if_neg hlarge, hleading]

theorem leadingByte_ofNat {n : Nat} (hn : n < 256) : leadingByte (UInt8.ofNat n) =
    if 0xC2 ≤ n ∧ n ≤ 0xDF then some (1, n % 0x20, 0x80, 0xBF)
    else if n = 0xE0 then some (2, n % 0x10, 0xA0, 0xBF)
    else if n = 0xED then some (2, n % 0x10, 0x80, 0x9F)
    else if 0xE1 ≤ n ∧ n ≤ 0xEF then some (2, n % 0x10, 0x80, 0xBF)
    else if n = 0xF0 then some (3, n % 0x08, 0x90, 0xBF)
    else if 0xF1 ≤ n ∧ n ≤ 0xF3 then some (3, n % 0x08, 0x80, 0xBF)
    else if n = 0xF4 then some (3, n % 0x08, 0x80, 0x8F)
    else none := by
  simp only [leadingByte, UInt8.le_iff_toNat_le, ← UInt8.toNat_inj, toNat_ofNat hn,
    Bool.and_eq_true, decide_eq_true_eq]
  rfl

/-- The code points of characters, without the surrogates. -/
theorem toNat_valid (c : Char) :
    c.toNat < 0xD800 ∨ 0xDFFF < c.toNat ∧ c.toNat < 0x110000 := c.valid

/-- The first of three bytes leaves room for the second one. -/
theorem leadingByte_three {v : Nat} (hmin : 0x7ff < v) (hmax : v ≤ 0xffff)
    (hvalid : v < 0xD800 ∨ 0xDFFF < v) :
    ∃ low high, leadingByte (UInt8.ofNat (v / 4096 % 0x10 + 0xe0)) =
        some (2, (v / 4096 % 0x10 + 0xe0) % 0x10, low, high) ∧
      low.toNat ≤ v / 64 % 0x40 + 0x80 ∧ v / 64 % 0x40 + 0x80 ≤ high.toNat := by
  rw [leadingByte_ofNat (by omega), if_neg (by omega)]
  split
  · exact ⟨_, _, rfl, by change 160 ≤ _; omega, by change _ ≤ 191; omega⟩
  split
  · exact ⟨_, _, rfl, by change 128 ≤ _; omega, by change _ ≤ 159; omega⟩
  · rw [if_pos (by omega)]
    exact ⟨_, _, rfl, by change 128 ≤ _; omega, by change _ ≤ 191; omega⟩

/-- The first of four bytes leaves room for the second one. -/
theorem leadingByte_four {v : Nat} (hmin : 0xffff < v) (hmax : v < 0x110000) :
    ∃ low high, leadingByte (UInt8.ofNat (v / 262144 % 0x08 + 0xf0)) =
        some (3, (v / 262144 % 0x08 + 0xf0) % 0x08, low, high) ∧
      low.toNat ≤ v / 4096 % 0x40 + 0x80 ∧ v / 4096 % 0x40 + 0x80 ≤ high.toNat := by
  rw [leadingByte_ofNat (by omega), if_neg (by omega), if_neg (by omega), if_neg (by omega),
    if_neg (by omega)]
  split
  · exact ⟨_, _, rfl, by change 144 ≤ _; omega, by change _ ≤ 191; omega⟩
  split
  · exact ⟨_, _, rfl, by change 128 ≤ _; omega, by change _ ≤ 191; omega⟩
  · rw [if_pos (by omega)]
    exact ⟨_, _, rfl, by change 128 ≤ _; omega, by change _ ≤ 143; omega⟩

/-- **The bytes of a character are read as the character.** -/
theorem utf8Pieces_encodeChar (c : Char) (rest : List UInt8) :
    utf8Pieces (String.utf8EncodeChar c ++ rest) = some c :: utf8Pieces rest := by
  have hvalid := toNat_valid c
  unfold String.utf8EncodeChar
  simp only [Char.toNat_val]
  generalize hv : c.toNat = v at *
  have hc : Char.ofNat v = c := by rw [← hv, Char.ofNat_toNat]
  split
  · rename_i h1
    have hn : v < 256 := by omega
    have hlt : UInt8.ofNat v < 0x80 := by
      simp only [UInt8.lt_iff_toNat_lt, toNat_ofNat hn]
      exact Nat.lt_succ_of_le h1
    rw [List.cons_append, List.nil_append, utf8Pieces, firstChar, if_pos hlt, toNat_ofNat hn, hc]
  split
  · have hleading := leadingByte_ofNat (n := v / 64 % 0x20 + 0xc0) (by omega)
    rw [if_pos (by omega)] at hleading
    have hbits : (v / 64 % 0x20 + 0xc0) % 0x20 * 0x40 + (v % 0x40 + 0x80) % 0x40 = v := by omega
    simp only [List.cons_append, List.nil_append]
    rw [utf8Pieces, firstChar_ofNat _ (by omega) (by omega) hleading,
      continuations_succ _ (by omega) (by change 128 ≤ _; omega) (by change _ ≤ 191; omega),
      hbits, continuations, Option.map_some, hc]
  split
  · obtain ⟨low, high, hleading, hlow, hhigh⟩ := leadingByte_three (v := v) (by omega) (by omega)
      (by omega)
    have hbits : ((v / 4096 % 0x10 + 0xe0) % 0x10 * 0x40 + (v / 64 % 0x40 + 0x80) % 0x40) * 0x40 +
        (v % 0x40 + 0x80) % 0x40 = v := by omega
    simp only [List.cons_append, List.nil_append]
    rw [utf8Pieces, firstChar_ofNat _ (by omega) (by omega) hleading,
      continuations_succ _ (by omega) hlow hhigh,
      continuations_succ _ (by omega) (by change 128 ≤ _; omega) (by change _ ≤ 191; omega),
      hbits, continuations, Option.map_some, hc]
  · obtain ⟨low, high, hleading, hlow, hhigh⟩ := leadingByte_four (v := v) (by omega) (by omega)
    have hbits : (((v / 262144 % 0x08 + 0xf0) % 0x08 * 0x40 + (v / 4096 % 0x40 + 0x80) % 0x40) *
        0x40 + (v / 64 % 0x40 + 0x80) % 0x40) * 0x40 + (v % 0x40 + 0x80) % 0x40 = v := by omega
    simp only [List.cons_append, List.nil_append]
    rw [utf8Pieces, firstChar_ofNat _ (by omega) (by omega) hleading,
      continuations_succ _ (by omega) hlow hhigh,
      continuations_succ _ (by omega) (by change 128 ≤ _; omega) (by change _ ≤ 191; omega),
      continuations_succ _ (by omega) (by change 128 ≤ _; omega) (by change _ ≤ 191; omega),
      hbits, continuations, Option.map_some, hc]

/-! ## 2. Texts -/

theorem utf8Pieces_flatMap (cs : List Char) :
    utf8Pieces (cs.flatMap String.utf8EncodeChar) = cs.map some := by
  induction cs with
  | nil => rw [List.flatMap_nil, utf8Pieces, List.map_nil]
  | cons c cs ih => rw [List.flatMap_cons, utf8Pieces_encodeChar, ih, List.map_cons]

/-- **The bytes of a text are read as the text.** -/
theorem utf8?_utf8Bytes (s : String) : utf8? (utf8Bytes s) = some s := by
  have hall : ∀ cs : List Char, (cs.map some).mapM id = some cs := by
    intro cs
    induction cs with
    | nil => rfl
    | cons c cs ih =>
      rw [List.map_cons, List.mapM_cons, ih]
      rfl
  rw [utf8?, utf8Bytes, utf8Pieces_flatMap, hall, Option.map_some, String.ofList_toList]

end PassContext.Text
