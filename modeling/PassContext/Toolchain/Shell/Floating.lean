/-
# Numbers with a point

Numbers with a point are read and written the way the system's library does both.  A text may
write a number in base ten or, behind `0x`, in base sixteen with a power of two; it may also name
what is too great for a number, or what is none.

What a text writes is rounded to the nearest magnitude.  A text that means something other than
nothing but is too great, or so small that rounding loses some of it, is out of range.
-/
import PassContext.Decimal.Places
import PassContext.Toolchain.Shell.Octets

namespace PassContext.Shell

open Decimal (Binary64)

/-! ## 1. Reading -/

/-- A number with a point, apart from its sign. -/
inductive Magnitude
  | finite (x : Binary64)
  | infinite
  | notANumber
deriving DecidableEq, Repr

/-- A number that has been read. -/
structure Numeral where
  negative : Bool
  magnitude : Magnitude
  /-- Whether rounding lost what no magnitude can hold. -/
  outOfRange : Bool
deriving DecidableEq, Repr

/-- The magnitude nearest to a quotient. -/
def nearest (negative : Bool) (num den : Nat) : Numeral :=
  match Binary64.round? num den with
  | none => ⟨negative, .infinite, true⟩
  | some x =>
    let (n, d) := x.ratio
    let isTiny := num ≠ 0 && x.significand < Binary64.leastFull
    ⟨negative, .finite x, isTiny && n * den != num * d⟩

/-- A power of a base that is not beyond all magnitudes, as a quotient. -/
def powerOf (base : Nat) (e : Int) : Nat × Nat :=
  let e := max (-5000) (min 5000 e)
  if 0 ≤ e then (Nat.pow base e.toNat, 1) else (1, Nat.pow base (-e).toNat)

/-- The digits of a base that a text begins with, with a point between them, as an integer and the
count of digits behind the point; and the rest. -/
def pointedDigits? (base : Nat) (o : Octets) : Option ((Nat × Nat) × Octets) :=
  let whole := o.takeWhile (isDigitOf base)
  let rest := o.drop whole.length
  let (places, rest) := match rest with
    | '.' :: behind =>
      let places := behind.takeWhile (isDigitOf base)
      if whole = [] ∧ places = [] then ([], rest) else (places, behind.drop places.length)
    | rest => ([], rest)
  if whole = [] ∧ places = [] then none
  else some ((valueOf base (whole ++ places), places.length), rest)

/-- The exponent behind a letter, if a text begins with one, and the rest. -/
def exponentAt (letter : Char) (o : Octets) : Int × Octets :=
  match o with
  | c :: more =>
    if c.toLower = letter ∧ !(more.head?.any isSpace) then
      match integer? (natural? 10) more with
      | some (e, rest) => (e, rest)
      | none => (0, o)
    else (0, o)
  | [] => (0, [])

/-- The number behind a sign, if a text begins with one, and the rest. -/
def unsignedAt? (negative : Bool) (o : Octets) : Option (Numeral × Octets) :=
  let begins (text : String) : Bool := text.toList.isPrefixOf (o.map Char.toLower)
  if begins "infinity" then some (⟨negative, .infinite, false⟩, o.drop 8)
  else if begins "inf" then some (⟨negative, .infinite, false⟩, o.drop 3)
  else if begins "nan" then
    let rest := o.drop 3
    let inside := (rest.drop 1).takeWhile isNameChar
    let rest := match rest.head?, (rest.drop (inside.length + 1)).head? with
      | some '(', some ')' => rest.drop (inside.length + 2)
      | _, _ => rest
    some (⟨negative, .notANumber, false⟩, rest)
  else
    let hexadecimal := if begins "0x" then pointedDigits? 16 (o.drop 2) else none
    match hexadecimal, pointedDigits? 10 o with
    | some ((n, places), rest), _ =>
      let (e, rest) := exponentAt 'p' rest
      let (num, den) := powerOf 2 (e - 4 * Int.ofNat places)
      some (nearest negative (n * num) den, rest)
    | none, some ((n, places), rest) =>
      let (e, rest) := exponentAt 'e' rest
      let (num, den) := powerOf 10 (e - Int.ofNat places)
      some (nearest negative (n * num) den, rest)
    | none, none => none

/-- The number that a text begins with behind white space, if it does, and the rest. -/
def numeralAt? (o : Octets) : Option (Numeral × Octets) :=
  unsignedAt? (signed o).1 (signed o).2

/-! ## 2. Writing -/

/-- A magnitude in base sixteen with a power of two, with so many places or as many as it has. -/
def hexadecimal (places : Option Nat) (always : Bool) (x : Binary64) : Octets :=
  let isFull := Binary64.leastFull ≤ x.significand
  let e : Int := if x.significand = 0 then 0 else x.exponent + 52
  let digits := match places with
    | some p =>
      if p < 13 then Binary64.divNearest x.significand (Nat.pow 16 (13 - p))
      else x.significand * Nat.pow 16 (p - 13)
    | none => x.significand
  let count := places.getD 13
  let first := digits / Nat.pow 16 count
  let hex := Nat.toDigits 16 (digits % Nat.pow 16 count)
  let behind := List.replicate (count - hex.length) '0' ++ (if count = 0 then [] else hex)
  let behind := match places with
    | some _ => behind
    | none => (behind.reverse.dropWhile (· == '0')).reverse
  let point := if behind = [] ∧ !always then [] else ['.']
  let sign := if e < 0 then '-' else '+'
  let e := if isFull ∨ x.significand = 0 then e else -1022
  Nat.digitChar first :: point ++ behind ++ 'p' :: sign :: Nat.toDigits 10 e.natAbs

/-- A finite magnitude, in the form that a letter tells, with so many places if it is said. -/
def writtenAs (letter : Char) (places : Option Nat) (always : Bool) (x : Binary64) : Octets :=
  let (num, den) := x.ratio
  match letter with
  | 'e' => Decimal.scientific (places.getD 6) always num den
  | 'f' => Decimal.fixed (places.getD 6) always num den
  | 'a' => hexadecimal places always x
  | _ => Decimal.general (places.getD 6) always num den

end PassContext.Shell
