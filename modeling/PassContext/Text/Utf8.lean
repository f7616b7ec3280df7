/-
# Reading bytes as UTF-8

A well-formed character takes one to four bytes.  Where the bytes at hand begin no character, the
ones that could still have begun one form a broken piece, and reading goes on behind it.  The
strict reading refuses a broken piece; the lossy reading puts one replacement character for each.
-/

namespace PassContext.Text

/-- The six bits that a continuation byte adds. -/
def continuationBits (b : UInt8) : Nat := b.toNat % 0x40

/-- How many bytes follow a leading byte, the bits it contributes, and the bytes that may come
second.  The bounds on the second byte keep out overlong forms, surrogates and code points that
do not exist. -/
def leadingByte (b : UInt8) : Option (Nat × Nat × UInt8 × UInt8) :=
  if 0xC2 ≤ b && b ≤ 0xDF then some (1, b.toNat % 0x20, 0x80, 0xBF)
  else if b = 0xE0 then some (2, b.toNat % 0x10, 0xA0, 0xBF)
  else if b = 0xED then some (2, b.toNat % 0x10, 0x80, 0x9F)
  else if 0xE1 ≤ b && b ≤ 0xEF then some (2, b.toNat % 0x10, 0x80, 0xBF)
  else if b = 0xF0 then some (3, b.toNat % 0x08, 0x90, 0xBF)
  else if 0xF1 ≤ b && b ≤ 0xF3 then some (3, b.toNat % 0x08, 0x80, 0xBF)
  else if b = 0xF4 then some (3, b.toNat % 0x08, 0x80, 0x8F)
  else none

/-- Reads `count` continuation bytes onto the bits read so far, the first of them between `low`
and `high`.  Gives the code point, or nothing where a byte does not fit, and the bytes left. -/
def continuations : Nat → Nat → UInt8 → UInt8 → List UInt8 → Option Nat × List UInt8
  | 0, bits, _, _, rest => (some bits, rest)
  | _ + 1, _, _, _, [] => (none, [])
  | count + 1, bits, low, high, b :: rest =>
    if low ≤ b && b ≤ high then
      continuations count (bits * 0x40 + continuationBits b) 0x80 0xBF rest
    else
      (none, b :: rest)

theorem length_continuations (count bits : Nat) (low high : UInt8) (bytes : List UInt8) :
    (continuations count bits low high bytes).2.length ≤ bytes.length := by
  induction bytes generalizing count bits low high with
  | nil => cases count <;> simp [continuations]
  | cons b rest ih =>
    cases count with
    | zero => simp [continuations]
    | succ count =>
      simp only [continuations]
      split
      · exact Nat.le_succ_of_le (ih ..)
      · exact Nat.le_refl _

/-- The first character of `b :: rest`, or nothing for a broken piece, and the bytes left. -/
def firstChar (b : UInt8) (rest : List UInt8) : Option Char × List UInt8 :=
  if b < 0x80 then (some (Char.ofNat b.toNat), rest)
  else match leadingByte b with
    | none => (none, rest)
    | some (count, bits, low, high) =>
      let (code, rest) := continuations count bits low high rest
      (code.map Char.ofNat, rest)

theorem length_firstChar (b : UInt8) (rest : List UInt8) :
    (firstChar b rest).2.length ≤ rest.length := by
  unfold firstChar
  split
  · exact Nat.le_refl _
  · split
    · exact Nat.le_refl _
    · exact length_continuations ..

/-- The characters of the bytes, with `none` for each broken piece. -/
def utf8Pieces : List UInt8 → List (Option Char)
  | [] => []
  | b :: rest => (firstChar b rest).1 :: utf8Pieces (firstChar b rest).2
termination_by bytes => bytes.length
decreasing_by exact Nat.lt_succ_of_le (length_firstChar b rest)

/-- The character that stands for a broken piece. -/
def replacementChar : Char := '\uFFFD'

/-- The text of the bytes, with a replacement character for each broken piece. -/
def utf8Lossy (bytes : List UInt8) : String :=
  .ofList ((utf8Pieces bytes).map (·.getD replacementChar))

/-- The text of the bytes, if none of them is broken. -/
def utf8? (bytes : List UInt8) : Option String :=
  ((utf8Pieces bytes).mapM id).map .ofList

end PassContext.Text
