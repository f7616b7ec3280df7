/-
# Numbers and strings read back

A number is written as its decimal digits and a string with as few escapes as the grammar allows,
which is one of many ways to escape it (`Escaped`).  What is said of these ways is said without the
reader: the short escapes, the digits and the surrogates are the ones of the format.

Each is read back from in front of any text: a string from its closing quote on may be followed by
anything, a number by nothing that would make its numeral longer (`EndsNumeral`).
-/
import Mathlib.Tactic.Common
import PassContext.Json.Token
import PassContext.Json.Value

namespace PassContext

/-! ## 1. Digits -/

namespace Json

theorem isDigit_of_mem_digits {n : Nat} {c : Char} (h : c ∈ digits n) : isDigit c = true := by
  have hd : c.isDigit = true := Nat.isDigit_of_mem_toDigits (by omega) (by omega) h
  simpa [Char.isDigit, isDigit, Char.le_def] using hd

theorem digitValue_digitChar {n : Nat} (h : n < 10) : digitValue n.digitChar = n :=
  Nat.toNat_digitChar_sub_48_of_lt_ten h

/-- More than one digit: those of the tenth part, and the last one. -/
theorem digits_of_ten_le {n : Nat} (h : 10 ≤ n) :
    digits n = digits (n / 10) ++ [(n % 10).digitChar] :=
  Nat.toDigits_of_base_le (by omega) h

theorem digits_of_lt_ten {n : Nat} (h : n < 10) : digits n = [n.digitChar] :=
  Nat.toDigits_of_lt_base h

theorem digits_zero : digits 0 = ['0'] := rfl

/-- Only zero is written with a leading zero. -/
theorem exists_digits_eq_cons {n : Nat} (h : n ≠ 0) :
    ∃ c cs, digits n = c :: cs ∧ c ≠ '0' := by
  induction n using Nat.strongRecOn with
  | ind n ih =>
    by_cases hn : n < 10
    · refine ⟨n.digitChar, [], digits_of_lt_ten hn, fun hc => h ?_⟩
      rw [← digitValue_digitChar hn, hc]
      rfl
    · obtain ⟨c, cs, hcs, hc⟩ := ih (n / 10) (by omega) (by omega)
      exact ⟨c, cs ++ [(n % 10).digitChar], by rw [digits_of_ten_le (by omega), hcs]; rfl, hc⟩

/-! ## 2. Integers -/

/-- The numeral that an integer is written as. -/
def intNumeral : Int → Numeral
  | .ofNat n => ⟨false, digits n, none, none⟩
  | .negSucc n => ⟨true, digits (n + 1), none, none⟩

/-- What follows a number: the end of the text, or a character that its numeral cannot go on
with. -/
def EndsNumeral (rest : List Char) : Prop :=
  ∀ c ∈ rest.head?, isDigit c = false ∧ c ≠ '.' ∧ c ≠ 'e' ∧ c ≠ 'E'

namespace EndsNumeral

variable {rest : List Char}

/-- Digits are read up to what follows the number. -/
theorem spanDigits_append (h : EndsNumeral rest) {ds : List Char} (hds : ∀ c ∈ ds, isDigit c) :
    spanDigits (ds ++ rest) = (ds, rest) := by
  induction ds with
  | nil =>
    cases rest with
    | nil => rfl
    | cons c cs =>
      have hc : isDigit c = false := (h c rfl).1
      simp [spanDigits, hc]
  | cons d ds ih =>
    have hd : isDigit d = true := hds d List.mem_cons_self
    have htail := ih fun c hc => hds c (List.mem_cons_of_mem _ hc)
    simp only [spanDigits, Prod.mk.injEq] at htail
    simp [spanDigits, hd, htail.1, htail.2]

theorem whole?_digits (h : EndsNumeral rest) (n : Nat) :
    whole? (digits n ++ rest) = some (digits n, rest) := by
  by_cases hn : n = 0
  · subst hn
    cases rest with
    | nil => rfl
    | cons c cs =>
      have hc : isDigit c = false := (h c rfl).1
      simp [digits_zero, whole?, hc]
  · obtain ⟨c, cs, hcs, hc⟩ := exists_digits_eq_cons hn
    have hall : ∀ d ∈ c :: cs, isDigit d = true := fun d hd => isDigit_of_mem_digits (hcs ▸ hd)
    have hspan := h.spanDigits_append fun d hd => hall d (List.mem_cons_of_mem _ hd)
    rw [hcs, List.cons_append]
    simp [whole?, hc, hall c List.mem_cons_self, hspan]

theorem fraction?_eq (h : EndsNumeral rest) : fraction? rest = some (none, rest) := by
  unfold fraction?
  split
  · exact absurd rfl (h '.' rfl).2.1
  · rfl

theorem exponent?_eq (h : EndsNumeral rest) : exponent? rest = some (none, rest) := by
  cases rest with
  | nil => rfl
  | cons c cs =>
    obtain ⟨-, -, hlower, hupper⟩ := h c rfl
    rw [exponent?, if_neg (not_or.mpr ⟨hlower, hupper⟩)]

/-- **Digits are read as the numeral that they are.** -/
theorem numeral?_digits (h : EndsNumeral rest) (negative : Bool) (n : Nat) :
    numeral? negative (digits n ++ rest) = some (⟨negative, digits n, none, none⟩, rest) := by
  simp only [numeral?, h.whole?_digits, h.fraction?_eq, h.exponent?_eq, Option.bind_eq_bind,
    Option.bind_some, Option.pure_def]

end EndsNumeral

/-- A word is read digit by digit. -/
theorem leadingWord_append (w : Nat) (ds es : List Char) {v : Nat}
    (h : leadingWord w ds = (v, [])) : leadingWord w (ds ++ es) = leadingWord v es := by
  induction ds generalizing w with
  | nil =>
    obtain rfl : w = v := congrArg Prod.fst h
    rfl
  | cons d ds ih =>
    simp only [leadingWord] at h
    split at h
    · rename_i hle
      rw [List.cons_append, leadingWord, if_pos hle]
      exact ih _ h
    · exact absurd (congrArg Prod.snd h) (by simp)

theorem leadingWord_digits {n : Nat} (h : n ≤ maxWord) : leadingWord 0 (digits n) = (n, []) := by
  induction n using Nat.strongRecOn with
  | ind n ih =>
    by_cases hn : n < 10
    · have hle : 0 * 10 + digitValue n.digitChar ≤ maxWord := by
        rw [digitValue_digitChar hn]
        omega
      rw [digits_of_lt_ten hn, leadingWord, if_pos hle, digitValue_digitChar hn]
      simp [leadingWord]
    · have hlast : digitValue (n % 10).digitChar = n % 10 := digitValue_digitChar (by omega)
      have hsum : n / 10 * 10 + n % 10 = n := by omega
      rw [digits_of_ten_le (by omega), leadingWord_append 0 _ _ (ih (n / 10) (by omega) (by omega)),
        leadingWord, hlast, hsum, if_pos h]
      rfl

/-- **An integer of 64 bits is the number of its numeral.** -/
theorem number?_intNumeral {n : Int} (hmin : -(maxNegative : Int) ≤ n) (hmax : n ≤ maxWord) :
    (intNumeral n).number? = some (.integer n) := by
  cases n with
  | ofNat n =>
    have hn : n ≤ maxWord := Int.ofNat_le.mp hmax
    simp [intNumeral, Numeral.number?, leadingWord_digits hn]
  | negSucc n =>
    have hn : n + 1 ≤ maxNegative := by
      simp only [Int.negSucc_eq, maxNegative] at hmin ⊢
      omega
    have hword : n + 1 ≤ maxWord := Nat.le_trans hn (by decide)
    simp [intNumeral, Numeral.number?, leadingWord_digits hword, Nat.not_lt.mpr hn,
      Int.negSucc_eq]

/-! ## 3. Strings -/

/-- The letters of the short escapes, each with the character that it names. -/
def shortEscapes : List (Char × Char) :=
  [('"', '"'), ('\\', '\\'), ('/', '/'), ('b', '\x08'), ('f', '\x0c'), ('n', '\n'), ('r', '\r'),
   ('t', '\t')]

/-- A hexadecimal digit of a given value, in lower or upper case. -/
def HexDigit (n : Nat) (c : Char) : Prop := n < 16 ∧ (c = n.digitChar ∨ c = n.digitChar.toUpper)

/-- Four hexadecimal digits that name a unit. -/
structure FourDigits (u : Nat) (a b c d : Char) : Prop where
  first : HexDigit (u / 0x1000) a
  second : HexDigit (u / 0x100 % 0x10) b
  third : HexDigit (u / 0x10 % 0x10) c
  fourth : HexDigit (u % 0x10) d

/-- How characters may be written between the quotes of a string. -/
inductive Escaped : List Char → List Char → Prop
  | nil : Escaped [] []
  | plain {c : Char} {cs es : List Char} (hquote : c ≠ '"') (hbackslash : c ≠ '\\')
      (hcontrol : 0x20 ≤ c.toNat) (h : Escaped cs es) : Escaped (c :: cs) (c :: es)
  | short {e c : Char} {cs es : List Char} (he : (e, c) ∈ shortEscapes) (h : Escaped cs es) :
      Escaped (c :: cs) ('\\' :: e :: es)
  | unit {c d₁ d₂ d₃ d₄ : Char} {cs es : List Char} (hc : FourDigits c.toNat d₁ d₂ d₃ d₄)
      (h : Escaped cs es) : Escaped (c :: cs) ('\\' :: 'u' :: d₁ :: d₂ :: d₃ :: d₄ :: es)
  /-- A character beyond the units, by its high and its low surrogate. -/
  | pair {c d₁ d₂ d₃ d₄ e₁ e₂ e₃ e₄ : Char} {cs es : List Char} (hc : 0x10000 ≤ c.toNat)
      (hhigh : FourDigits (0xD800 + (c.toNat - 0x10000) / 0x400) d₁ d₂ d₃ d₄)
      (hlow : FourDigits (0xDC00 + (c.toNat - 0x10000) % 0x400) e₁ e₂ e₃ e₄)
      (h : Escaped cs es) :
      Escaped (c :: cs)
        ('\\' :: 'u' :: d₁ :: d₂ :: d₃ :: d₄ :: '\\' :: 'u' :: e₁ :: e₂ :: e₃ :: e₄ :: es)

theorem hexValue?_of_hexDigit {n : Nat} {c : Char} (h : HexDigit n c) : hexValue? c = some n := by
  have hboth : ∀ n < 16, hexValue? n.digitChar = some n ∧
      hexValue? n.digitChar.toUpper = some n := by decide +kernel
  obtain ⟨hn, rfl | rfl⟩ := h
  · exact (hboth n hn).1
  · exact (hboth n hn).2

theorem FourDigits.unit? {u : Nat} {a b c d : Char} (h : FourDigits u a b c d) :
    unit? a b c d = some u := by
  have hu := h.first.1
  simp only [Json.unit?, hexValue?_of_hexDigit h.first, hexValue?_of_hexDigit h.second,
    hexValue?_of_hexDigit h.third, hexValue?_of_hexDigit h.fourth, Option.bind_eq_bind,
    Option.bind_some, Option.pure_def, Option.some.injEq]
  omega

theorem shortEscape?_of_mem {e c : Char} (h : (e, c) ∈ shortEscapes) :
    shortEscape? e = some c := by
  have hall : ∀ p ∈ shortEscapes, shortEscape? p.1 = some p.2 := by decide
  exact hall (e, c) h

theorem pieces?_quote (rest : List Char) : pieces? ('"' :: rest) = some ([], rest) := by
  rw [pieces?]

theorem pieces?_unit (a b c d : Char) (rest : List Char) {u : Nat} (h : unit? a b c d = some u) :
    pieces? ('\\' :: 'u' :: a :: b :: c :: d :: rest) =
      (pieces? rest).map fun (ps, after) => (.unit u :: ps, after) := by
  rw [pieces?, h]
  cases pieces? rest <;> rfl

theorem pieces?_short {c c' : Char} (rest : List Char) (h : shortEscape? c = some c') :
    pieces? ('\\' :: c :: rest) =
      (pieces? rest).map fun (ps, after) => (.char c' :: ps, after) := by
  have hu : c ≠ 'u' := by
    rintro rfl
    simp [shortEscape?] at h
  rw [pieces?]
  · rw [h]
    cases pieces? rest <;> rfl
  · rintro a b c d rest hc
    exact absurd hc hu

theorem pieces?_plain {c : Char} (rest : List Char) (hq : c ≠ '"') (hb : c ≠ '\\')
    (hc : ¬ c.toNat < 0x20) :
    pieces? (c :: rest) = (pieces? rest).map fun (ps, after) => (.char c :: ps, after) := by
  rw [pieces?]
  · rw [if_neg (by simp [hb, hc])]
    cases pieces? rest <;> rfl
  · rintro h
    exact hq h
  · rintro a b c d rest h
    exact absurd h hb
  · rintro c rest h
    exact absurd h hb

/-- No character is a surrogate. -/
theorem not_isSurrogate (c : Char) :
    isHighSurrogate c.toNat = false ∧ isLowSurrogate c.toNat = false := by
  have hvalid : c.toNat < 0xD800 ∨ 0xDFFF < c.toNat ∧ c.toNat < 0x110000 := c.valid
  simp only [isHighSurrogate, isLowSurrogate, Bool.and_eq_false_iff, decide_eq_false_iff_not]
  omega

/-- The unit of a character names the character. -/
theorem joinPieces?_unit (c : Char) (ps : List Piece) :
    joinPieces? (.unit c.toNat :: ps) = (joinPieces? ps).map (c :: ·) := by
  obtain ⟨hhigh, hlow⟩ := not_isSurrogate c
  cases ps with
  | nil => simp [joinPieces?, hhigh, hlow]
  | cons p ps => cases p <;> simp [joinPieces?, hhigh, hlow]

theorem pairedCodePoint_surrogates {n : Nat} (h : 0x10000 ≤ n) :
    pairedCodePoint (0xD800 + (n - 0x10000) / 0x400) (0xDC00 + (n - 0x10000) % 0x400) = n := by
  unfold pairedCodePoint
  omega

/-- The two surrogates of a character name it. -/
theorem joinPieces?_pair {c : Char} (hc : 0x10000 ≤ c.toNat) (ps : List Piece) :
    joinPieces? (.unit (0xD800 + (c.toNat - 0x10000) / 0x400) ::
      .unit (0xDC00 + (c.toNat - 0x10000) % 0x400) :: ps) = (joinPieces? ps).map (c :: ·) := by
  have hvalid : c.toNat < 0xD800 ∨ 0xDFFF < c.toNat ∧ c.toNat < 0x110000 := c.valid
  have hhigh : isHighSurrogate (0xD800 + (c.toNat - 0x10000) / 0x400) = true := by
    simp only [isHighSurrogate, Bool.and_eq_true, decide_eq_true_eq]
    omega
  have hlow : isLowSurrogate (0xDC00 + (c.toNat - 0x10000) % 0x400) = true := by
    simp only [isLowSurrogate, Bool.and_eq_true, decide_eq_true_eq]
    omega
  rw [joinPieces?, if_pos hhigh, if_pos hlow, pairedCodePoint_surrogates hc, Char.ofNat_toNat]

/-- **However a string is escaped, it is read as its characters.** -/
theorem pieces?_of_escaped {cs es : List Char} (h : Escaped cs es) :
    ∃ ps, joinPieces? ps = some cs ∧ ∀ rest, pieces? (es ++ '"' :: rest) = some (ps, rest) := by
  induction h with
  | nil => exact ⟨[], rfl, pieces?_quote⟩
  | @plain c cs es hquote hbackslash hcontrol _ ih =>
    obtain ⟨ps, hjoin, hpieces⟩ := ih
    refine ⟨.char c :: ps, by rw [joinPieces?, hjoin]; rfl, fun rest => ?_⟩
    rw [List.cons_append, pieces?_plain _ hquote hbackslash (Nat.not_lt.mpr hcontrol), hpieces]
    rfl
  | @short e c cs es he _ ih =>
    obtain ⟨ps, hjoin, hpieces⟩ := ih
    refine ⟨.char c :: ps, by rw [joinPieces?, hjoin]; rfl, fun rest => ?_⟩
    rw [List.cons_append, List.cons_append, pieces?_short _ (shortEscape?_of_mem he), hpieces]
    rfl
  | @unit c _ _ _ _ cs es hc _ ih =>
    obtain ⟨ps, hjoin, hpieces⟩ := ih
    refine ⟨.unit c.toNat :: ps, by rw [joinPieces?_unit, hjoin]; rfl, fun rest => ?_⟩
    simp only [List.cons_append]
    rw [pieces?_unit _ _ _ _ _ hc.unit?, hpieces]
    rfl
  | @pair c _ _ _ _ _ _ _ _ cs es hc hhigh hlow _ ih =>
    obtain ⟨ps, hjoin, hpieces⟩ := ih
    refine ⟨.unit _ :: .unit _ :: ps, by rw [joinPieces?_pair hc, hjoin]; rfl, fun rest => ?_⟩
    simp only [List.cons_append]
    rw [pieces?_unit _ _ _ _ _ hhigh.unit?, pieces?_unit _ _ _ _ _ hlow.unit?, hpieces]
    rfl

theorem stringLiteral?_of_escaped {s : String} {es : List Char} (h : Escaped s.toList es)
    (rest : List Char) : stringLiteral? (es ++ '"' :: rest) = some (some s, rest) := by
  obtain ⟨ps, hjoin, hpieces⟩ := pieces?_of_escaped h
  simp [stringLiteral?, hpieces, hjoin]

/-! ## 4. Strings as they are written -/

/-- A character is written by a short escape, by the number of its unit, or as it is. -/
theorem escapeChar_cases (c : Char) :
    (∃ e, (e, c) ∈ shortEscapes ∧ escapeChar c = ['\\', e]) ∨
    (c.toNat < 0x20 ∧ escapeChar c =
      ['\\', 'u', '0', '0', hexDigit (c.toNat / 16), hexDigit (c.toNat % 16)]) ∨
    (c ≠ '"' ∧ c ≠ '\\' ∧ ¬ c.toNat < 0x20 ∧ escapeChar c = [c]) := by
  unfold escapeChar
  split
  · exact Or.inl ⟨'"', by subst c; decide, rfl⟩
  split
  · exact Or.inl ⟨'\\', by subst c; decide, rfl⟩
  split
  · exact Or.inl ⟨'b', by subst c; decide, rfl⟩
  split
  · exact Or.inl ⟨'f', by subst c; decide, rfl⟩
  split
  · exact Or.inl ⟨'n', by subst c; decide, rfl⟩
  split
  · exact Or.inl ⟨'r', by subst c; decide, rfl⟩
  split
  · exact Or.inl ⟨'t', by subst c; decide, rfl⟩
  split
  · rename_i hc
    exact Or.inr (Or.inl ⟨hc, rfl⟩)
  · rename_i hq hb _ _ _ _ _ hc
    exact Or.inr (Or.inr ⟨hq, hb, hc, rfl⟩)

theorem hexDigit_eq_digitChar : ∀ n < 16, hexDigit n = n.digitChar := by decide

/-- A control character is written by the number of its unit. -/
theorem fourDigits_control {n : Nat} (h : n < 0x20) :
    FourDigits n '0' '0' (hexDigit (n / 16)) (hexDigit (n % 16)) where
  first := ⟨by omega, .inl (by rw [Nat.div_eq_of_lt (by omega)]; rfl)⟩
  second := ⟨by omega, .inl (by rw [Nat.div_eq_of_lt (by omega)]; rfl)⟩
  third := by
    rw [Nat.mod_eq_of_lt (by omega)]
    exact ⟨by omega, .inl (hexDigit_eq_digitChar _ (by omega))⟩
  fourth := ⟨by omega, .inl (hexDigit_eq_digitChar _ (by omega))⟩

/-- **A string is written as it may be escaped.** -/
theorem escaped_flatMap (cs : List Char) : Escaped cs (cs.flatMap escapeChar) := by
  induction cs with
  | nil => exact .nil
  | cons c cs ih =>
    rw [List.flatMap_cons]
    rcases escapeChar_cases c with ⟨e, he, hc⟩ | ⟨hlt, hc⟩ | ⟨hq, hb, hlt, hc⟩
    · rw [hc]
      exact .short he ih
    · rw [hc]
      exact .unit (fourDigits_control hlt) ih
    · rw [hc]
      exact .plain hq hb (Nat.not_lt.mp hlt) ih

end Json

end PassContext
