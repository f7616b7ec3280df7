/-
# Numbers in JSON text

A numeral is what the grammar allows: an optional minus, digits without a leading zero, an
optional fraction, an optional exponent.  Its number is an integer when it has neither fraction
nor exponent and fits into 64 bits, and a floating-point number otherwise.

A floating-point number is found from as many leading digits as fit into an unsigned word of 64
bits: these are rounded once, and the power of ten is multiplied or divided in, which rounds
again.  A magnitude too great for a finite number makes the numeral unreadable.
-/
import PassContext.Decimal.Shortest

namespace PassContext.Json

open Decimal

/-! ## 1. Numerals -/

def isDigit (c : Char) : Bool := '0' ≤ c && c ≤ '9'

def digitValue (c : Char) : Nat := c.toNat - '0'.toNat

/-- A numeral as it is spelled. -/
structure Numeral where
  negative : Bool
  /-- The digits before the point. -/
  whole : List Char
  /-- The digits behind the point, if there is one. -/
  fraction : Option (List Char)
  /-- Whether the exponent is negative, and its digits. -/
  exponent : Option (Bool × List Char)
deriving DecidableEq, Repr

/-- The digits in front of a text, and what follows them. -/
def spanDigits (cs : List Char) : List Char × List Char :=
  (cs.takeWhile isDigit, cs.dropWhile isDigit)

theorem length_spanDigits (cs : List Char) : (spanDigits cs).2.length ≤ cs.length :=
  (List.dropWhile_sublist isDigit).length_le

/-- The whole part: a zero alone, or digits that begin with another one. -/
def whole? : List Char → Option (List Char × List Char)
  | [] => none
  | c :: rest =>
    if c = '0' then
      match rest with
      | d :: _ => if isDigit d then none else some (['0'], rest)
      | [] => some (['0'], [])
    else if isDigit c then some (c :: (spanDigits rest).1, (spanDigits rest).2)
    else none

theorem length_whole? {cs digits rest} (h : whole? cs = some (digits, rest)) :
    rest.length < cs.length := by
  unfold whole? at h
  split at h
  · contradiction
  · split at h
    · split at h
      · split at h
        · contradiction
        · simp at h; simp [← h.2]
      · simp at h; simp [h.2]
    · split at h
      · simp only [Option.some.injEq, Prod.mk.injEq] at h
        rw [← h.2]
        exact Nat.lt_succ_of_le (length_spanDigits _)
      · contradiction

/-- One digit or more. -/
def someDigits? (cs : List Char) : Option (List Char × List Char) :=
  if (spanDigits cs).1 = [] then none else some (spanDigits cs)

theorem length_someDigits? {cs digits rest} (h : someDigits? cs = some (digits, rest)) :
    rest.length ≤ cs.length := by
  unfold someDigits? at h
  split at h
  · contradiction
  · simp only [Option.some.injEq] at h
    have := length_spanDigits cs
    rw [h] at this
    exact this

/-- The fraction in front of a text, if a point is there. -/
def fraction? : List Char → Option (Option (List Char) × List Char)
  | '.' :: rest => (someDigits? rest).map fun (digits, rest) => (some digits, rest)
  | cs => some (none, cs)

theorem length_fraction? {cs f rest} (h : fraction? cs = some (f, rest)) :
    rest.length ≤ cs.length := by
  unfold fraction? at h
  split at h
  · simp only [Option.map_eq_some_iff, Prod.mk.injEq] at h
    obtain ⟨⟨d, r⟩, hd, _, rfl⟩ := h
    exact Nat.le_succ_of_le (length_someDigits? hd)
  · simp at h; simp [h.2]

/-- The sign of an exponent, and what follows it. -/
def exponentSign : List Char → Bool × List Char
  | '+' :: rest => (false, rest)
  | '-' :: rest => (true, rest)
  | cs => (false, cs)

theorem length_exponentSign (cs : List Char) : (exponentSign cs).2.length ≤ cs.length := by
  unfold exponentSign
  split <;> simp

/-- The exponent in front of a text, if an `e` is there. -/
def exponent? : List Char → Option (Option (Bool × List Char) × List Char)
  | [] => some (none, [])
  | c :: rest =>
    if c = 'e' ∨ c = 'E' then
      (someDigits? (exponentSign rest).2).map fun (digits, after) =>
        (some ((exponentSign rest).1, digits), after)
    else some (none, c :: rest)

theorem length_exponent? {cs e rest} (h : exponent? cs = some (e, rest)) :
    rest.length ≤ cs.length := by
  unfold exponent? at h
  split at h
  · simp at h; simp [h.2]
  · split at h
    · simp only [Option.map_eq_some_iff, Prod.mk.injEq] at h
      obtain ⟨⟨d, r⟩, hd, _, rfl⟩ := h
      have h1 := length_someDigits? hd
      have h2 := length_exponentSign
      exact Nat.le_succ_of_le (Nat.le_trans h1 (h2 _))
    · simp at h; simp [← h.2]

/-- The numeral in front of a text, with the minus already read, and what follows it. -/
def numeral? (negative : Bool) (cs : List Char) : Option (Numeral × List Char) := do
  let (whole, rest) ← whole? cs
  let (fraction, rest) ← fraction? rest
  let (exponent, rest) ← exponent? rest
  return (⟨negative, whole, fraction, exponent⟩, rest)

theorem length_numeral? {negative cs n rest} (h : numeral? negative cs = some (n, rest)) :
    rest.length < cs.length := by
  unfold numeral? at h
  simp only [Option.bind_eq_bind, Option.bind_eq_some_iff, Prod.exists, Option.pure_def,
    Option.some.injEq, Prod.mk.injEq] at h
  obtain ⟨w, r1, h1, f, r2, h2, e, r3, h3, _, rfl⟩ := h
  have := length_whole? h1
  have := length_fraction? h2
  have := length_exponent? h3
  omega

/-! ## 2. Numbers -/

/-- What a numeral stands for. -/
inductive Number
  | integer (n : Int)
  | float (x : Float64)
deriving DecidableEq, Repr

/-- The greatest unsigned word. -/
def maxWord : Nat := 18446744073709551615

/-- The magnitude of the least signed word. -/
def maxNegative : Nat := 9223372036854775808

/-- Reads digits onto a word as long as it stays one, and gives the digits left. -/
def leadingWord : Nat → List Char → Nat × List Char
  | word, [] => (word, [])
  | word, c :: rest =>
    if word * 10 + digitValue c ≤ maxWord then leadingWord (word * 10 + digitValue c) rest
    else (word, c :: rest)

/-- The magnitude `10 ^ n`, for the powers that there are. -/
def powerOfTen (n : Nat) : Binary64 := (Binary64.round? (Nat.pow 10 n) 1).getD .zero

/-- The greatest power of ten that is a finite number. -/
def maxPower : Nat := 308

/-- A magnitude times a power of ten.  A power that no number has is divided in by steps; a
result too great is nothing. -/
def scaleByTen (x : Binary64) (e : Int) : Option Binary64 :=
  if e.natAbs ≤ maxPower then
    if 0 ≤ e then x.mul? (powerOfTen e.toNat) else x.div? (powerOfTen e.natAbs)
  else if x.isZero then some x
  else if 0 ≤ e then none
  else (x.div? (powerOfTen maxPower)).bind fun y => scaleByTen y (e + maxPower)
termination_by e.natAbs
decreasing_by
  simp only [maxPower] at *
  omega

/-- The greatest exponent that is read digit by digit. -/
def maxExponent : Nat := 2147483647

/-- Adds exponents within the range of 32-bit integers. -/
def addExponents (a b : Int) : Int := max (-2147483648) (min maxExponent (a + b))

/-- The natural number with the given decimal digits. -/
def ofDigits (ds : List Char) : Nat := ds.foldl (fun n c => n * 10 + digitValue c) 0

namespace Numeral

/-- The floating-point number with the sign of the numeral. -/
def signed (n : Numeral) (x : Binary64) : Number := .float ⟨n.negative, x⟩

/-- The number with significant digits `word · 10 ^ shift` and the exponent of the numeral. -/
def scale (n : Numeral) (word : Nat) (shift : Int) : Option Number :=
  let x := (Binary64.round? word 1).getD .zero
  match n.exponent with
  | none => (scaleByTen x shift).map n.signed
  | some (negative, digits) =>
    let e := ofDigits digits
    if maxExponent < e then
      if word ≠ 0 ∧ !negative then none else some (n.signed .zero)
    else
      (scaleByTen x (addExponents shift (if negative then -e else e))).map n.signed

/-- The number of a numeral, or nothing if it is too great. -/
def number? (n : Numeral) : Option Number :=
  let (word, dropped) := leadingWord 0 n.whole
  match n.fraction with
  | some digits =>
    let (word', unread) := leadingWord word digits
    n.scale word' (dropped.length - (digits.length - unread.length : Nat))
  | none =>
    if n.exponent.isSome ∨ dropped ≠ [] then n.scale word dropped.length
    else if !n.negative then some (.integer word)
    else if word = 0 ∨ maxNegative < word then n.scale word 0
    else some (.integer (-word))

end Numeral

end PassContext.Json
