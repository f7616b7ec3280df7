/-
# White space

The characters with the Unicode property White_Space.  There are twenty-five of them; core's
`Char.isWhitespace` knows only those of ASCII.
-/
import PassContext.Text.Ranges

namespace PassContext.Text

/-- The code points that are white space. -/
def blankRanges : List (Nat × Nat) :=
  [(0x9, 0xD), (0x20, 0x20), (0x85, 0x85), (0xA0, 0xA0), (0x1680, 0x1680), (0x2000, 0x200A),
   (0x2028, 0x2029), (0x202F, 0x202F), (0x205F, 0x205F), (0x3000, 0x3000)]

/-- A white-space character of any script. -/
def isBlank (c : Char) : Bool := inRanges blankRanges c.toNat

end PassContext.Text
