/-
# Decimals with a chosen number of places

A quotient of natural numbers is written with so many places behind the point, or with so many
behind the first digit and an exponent.  The last place is the nearest one, a half going to the
even digit.
-/
import PassContext.Decimal.Binary64

namespace PassContext.Decimal

open Binary64 (divNearest)

/-- The digits of a number, at least so many. -/
def padded (least n : Nat) : List Char :=
  let digits := Nat.toDigits 10 n
  List.replicate (least - digits.length) '0' ++ digits

/-- Digits with a point in front of the last places; a whole number has a point only where it is
asked for. -/
def withPoint (places : Nat) (always : Bool) (digits : List Char) : List Char :=
  let whole := digits.length - places
  let point := if places = 0 ∧ !always then [] else ['.']
  digits.take whole ++ point ++ digits.drop whole

/-- `num / den` with so many places behind the point. -/
def fixed (places : Nat) (always : Bool) (num den : Nat) : List Char :=
  withPoint places always (padded (places + 1) (divNearest (num * Nat.pow 10 places) den))

/-- `num / den` times a power of ten, to the nearest integer. -/
def shifted (num den : Nat) (e : Int) : Nat :=
  if 0 ≤ e then divNearest (num * Nat.pow 10 e.toNat) den
  else divNearest num (den * Nat.pow 10 (-e).toNat)

/-- Whether `num / den` is at least a power of ten. -/
def reaches (num den : Nat) (e : Int) : Bool :=
  if 0 ≤ e then den * Nat.pow 10 e.toNat ≤ num else den ≤ num * Nat.pow 10 (-e).toNat

/-- The digits of `num / den`, so many behind the first one, and the exponent of the first one. -/
def leading (places num den : Nat) : Nat × Int :=
  if num = 0 then (0, 0)
  else
    let guess : Int :=
      Int.ofNat (Nat.toDigits 10 num).length - Int.ofNat (Nat.toDigits 10 den).length
    let e := if reaches num den guess then guess else guess - 1
    let digits := shifted num den (Int.ofNat places - e)
    if Nat.pow 10 (places + 1) ≤ digits then (digits / 10, e + 1) else (digits, e)

/-- An exponent of ten, with at least two digits. -/
def exponentText (e : Int) : List Char :=
  'e' :: (if e < 0 then '-' else '+') :: padded 2 e.natAbs

/-- `num / den` with so many places behind the first digit, and an exponent. -/
def scientific (places : Nat) (always : Bool) (num den : Nat) : List Char :=
  let (digits, e) := leading places num den
  withPoint places always (padded (places + 1) digits) ++ exponentText e

/-- Digits without the zeros at the end of their places, and without a point at their end. -/
def withoutFinalZeros (digits : List Char) : List Char :=
  if '.' ∈ digits then
    let kept := (digits.reverse.dropWhile (· == '0')).reverse
    if kept.getLast? = some '.' then kept.dropLast else kept
  else digits

/-- `num / den` with so many digits, in the shorter of the two forms; zeros at the end are left
out unless `always`. -/
def general (digits : Nat) (always : Bool) (num den : Nat) : List Char :=
  let digits := max digits 1
  let e := (leading (digits - 1) num den).2
  let trim (text : List Char) := if always then text else withoutFinalZeros text
  if -4 ≤ e ∧ e < Int.ofNat digits then
    trim (fixed (Int.ofNat digits - 1 - e).toNat always num den)
  else
    let text := scientific (digits - 1) always num den
    trim (text.takeWhile (· ≠ 'e')) ++ text.dropWhile (· ≠ 'e')

end PassContext.Decimal
