/-
# The shortest decimal that reads back

Between the halves towards its two neighbours lie the reals that round to a magnitude; the ends
belong to them when the significand is even.  The decimal written for a magnitude is the one with
the fewest digits in that interval, and of those the nearest.

The search goes through the grids `10 ^ p` from coarse to fine.  If any point of a grid lies in
the interval, so does one of the two grid points next to the magnitude, so only these are tested.
-/
import PassContext.Decimal.Binary64

namespace PassContext.Decimal

/-- The decimal `digits · 10 ^ exponent`. -/
structure Scientific where
  digits : Nat
  exponent : Int
deriving DecidableEq, Repr

namespace Binary64

/-- Twice the distances to the ends of the interval that rounds to a magnitude, in quarters of
its last bit: the lower half is a quarter where the neighbour below has a finer exponent. -/
def lowerQuarters (x : Binary64) : Nat :=
  if x.significand = leastFull ∧ minExponent < x.exponent then 1 else 2

/-- Whether `n · 10 ^ p` rounds to the magnitude. -/
def covers (x : Binary64) (n : Nat) (p : Int) : Bool :=
  let low := 4 * x.significand - x.lowerQuarters
  let high := 4 * x.significand + 2
  -- everything in quarters of the last bit, over a common denominator
  let unit : Int := x.exponent - 2
  let left := n * Nat.pow 10 p.toNat * Nat.pow 2 (-unit).toNat
  let scale := Nat.pow 2 unit.toNat * Nat.pow 10 (-p).toNat
  if x.significand % 2 = 0 then low * scale ≤ left && left ≤ high * scale
  else low * scale < left && left < high * scale

/-- The grid points next to the magnitude, and whether the upper one is the nearer. -/
def neighbours (x : Binary64) (p : Int) : Nat × Nat × Bool :=
  let (num, den) := x.ratio
  let num := num * Nat.pow 10 (-p).toNat
  let den := den * Nat.pow 10 p.toNat
  let q := num / den
  let twice := 2 * (num % den)
  (q, q + 1, den < twice || (den == twice && q % 2 == 1))

/-- The point of the grid `10 ^ p` that stands for the magnitude, if one does. -/
def onGrid? (x : Binary64) (p : Int) : Option Scientific :=
  let (below, above, upper) := x.neighbours p
  let first := if upper then above else below
  let second := if upper then below else above
  if x.covers first p then some ⟨first, p⟩
  else if x.covers second p then some ⟨second, p⟩
  else none

/-- The exponent of the leading decimal digit: the greatest `k` with `10 ^ k` not above the
magnitude, searched upwards from `k`. -/
def leadingExponent (x : Binary64) : Nat → Int → Int
  | 0, k => k
  | fuel + 1, k =>
    let (num, den) := x.ratio
    if den * Nat.pow 10 (k + 1).toNat ≤ num * Nat.pow 10 (-(k + 1)).toNat then
      leadingExponent x fuel (k + 1)
    else k

/-- The first grid from `10 ^ p` downwards that has a point for the magnitude. -/
def firstGrid (x : Binary64) : Nat → Int → Scientific
  | 0, p => ⟨(x.neighbours p).1, p⟩
  | fuel + 1, p => (x.onGrid? p).getD (firstGrid x fuel (p - 1))

/-- The shortest decimal that rounds to a magnitude other than zero.  Seventeen digits always
suffice; the grid above the leading digit is tried first, for a magnitude just below a power of
ten. -/
def shortest (x : Binary64) : Scientific :=
  firstGrid x 18 (x.leadingExponent 640 (-325) + 1)

end Binary64

/-- A floating-point number: a sign and a magnitude. -/
structure Float64 where
  negative : Bool
  magnitude : Binary64
deriving DecidableEq, Repr

/-- Zeros. -/
def zeros (n : Nat) : List Char := List.replicate n '0'

/-- The text of a decimal with digits `ds` and exponent `k`.  Numbers below `10 ^ 16` and not
below `10 ^ -5` are written with a point, and a whole one keeps `.0`; others have one digit
before the point and an exponent with its sign. -/
def Scientific.text (x : Scientific) : List Char :=
  let ds := Nat.toDigits 10 x.digits
  let point : Int := ds.length + x.exponent
  if 0 ≤ x.exponent ∧ point ≤ 16 then ds ++ zeros x.exponent.toNat ++ ['.', '0']
  else if 0 < point ∧ point ≤ 16 then ds.take point.toNat ++ ['.'] ++ ds.drop point.toNat
  else if -5 < point ∧ point ≤ 0 then ['0', '.'] ++ zeros (-point).toNat ++ ds
  else
    let e := point - 1
    let exponent := (if e < 0 then '-' else '+') :: Nat.toDigits 10 e.natAbs
    match ds with
    | [d] => [d, 'e'] ++ exponent
    | d :: rest => [d, '.'] ++ rest ++ ['e'] ++ exponent
    | [] => []

/-- The shortest text of a floating-point number. -/
def Float64.text (x : Float64) : String :=
  let sign := if x.negative then ['-'] else []
  if x.magnitude.isZero then .ofList (sign ++ ['0', '.', '0'])
  else .ofList (sign ++ x.magnitude.shortest.text)

end PassContext.Decimal
