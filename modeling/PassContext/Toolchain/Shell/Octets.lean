/-
# The bytes of a script

A shell works on bytes, and cuts a character of several bytes where it likes.  Its texts are
therefore kept as bytes, each of them as the character of its number: the marks of the language
are then written as plain characters, and all other bytes pass through untouched.

Numerals are read the way the system's library reads them: blanks and a sign may stand in front,
and what follows the digits is handed back.
-/

namespace PassContext.Shell

/-! ## 1. Bytes -/

/-- Bytes, each as the character of its number. -/
abbrev Octets := List Char

/-- The bytes of a text. -/
def octets (s : String) : Octets := s.toUTF8.toList.map fun b => Char.ofNat b.toNat

def bytesOf (o : Octets) : List UInt8 := o.map fun c => UInt8.ofNat c.toNat

/-- A character that may begin a name. -/
def isNameStart (c : Char) : Bool := c.isAlpha || c == '_'

def isNameChar (c : Char) : Bool := c.isAlphanum || c == '_'

/-- Whether a text is a name. -/
def isName : Octets → Bool
  | [] => false
  | c :: rest => isNameStart c && rest.all isNameChar

def isBlank (c : Char) : Bool := c == ' ' || c == '\t'

/-- White space, as numerals are separated by it. -/
def isSpace (c : Char) : Bool := isBlank c || ('\n' ≤ c && c ≤ '\r')

/-- Whether a text stands in front of another one in the order of bytes, or is that one. -/
def precedes : Octets → Octets → Bool
  | [], _ => true
  | _ :: _, [] => false
  | c :: a, d :: b => c < d || (c == d && precedes a b)

/-- Texts with blanks between them. -/
def spaced (os : List Octets) : Octets := [' '].intercalate os

/-- A text without the newlines at its end. -/
def withoutFinalNewlines (o : Octets) : Octets := (o.reverse.dropWhile (· == '\n')).reverse

/-- The lines of a text; the last one may lack its newline. -/
def linesOf (o : Octets) : List Octets := go [] o
where
  go (line : Octets) : Octets → List Octets
    | [] => if line = [] then [] else [line.reverse]
    | c :: rest => if c = '\n' then line.reverse :: go [] rest else go (c :: line) rest

/-! ## 2. Numerals -/

/-- The value of a digit, in any base up to 16. -/
def digitValue? (c : Char) : Option Nat :=
  if c.isDigit then some (c.toNat - '0'.toNat)
  else if 'a' ≤ c ∧ c ≤ 'f' then some (c.toNat - 'a'.toNat + 10)
  else if 'A' ≤ c ∧ c ≤ 'F' then some (c.toNat - 'A'.toNat + 10)
  else none

/-- Whether a character is a digit of a base. -/
def isDigitOf (base : Nat) (c : Char) : Bool :=
  match digitValue? c with
  | some d => d < base
  | none => false

/-- The number that digits of a base write. -/
def valueOf (base : Nat) (digits : Octets) : Nat :=
  digits.foldl (fun n c => n * base + (digitValue? c).getD 0) 0

/-- The digits that a text begins with, if there are any, and the rest. -/
def natural? (base : Nat) (o : Octets) : Option (Nat × Octets) :=
  match o.takeWhile (isDigitOf base) with
  | [] => none
  | digits => some (valueOf base digits, o.dropWhile (isDigitOf base))

/-- The digits that a text begins with in the base that their beginning tells: `0x` stands for
sixteen and `0` for eight. -/
def prefixedNatural? (o : Octets) : Option (Nat × Octets) :=
  match o with
  | '0' :: x :: c :: rest =>
    if (x = 'x' ∨ x = 'X') ∧ isDigitOf 16 c then natural? 16 (c :: rest) else natural? 8 o
  | '0' :: _ => natural? 8 o
  | o => natural? 10 o

/-- The sign that a text begins with behind white space, and the rest. -/
def signed (o : Octets) : Bool × Octets :=
  match o.dropWhile isSpace with
  | '-' :: rest => (true, rest)
  | '+' :: rest => (false, rest)
  | rest => (false, rest)

/-- The integer that a text begins with, if there is one, and the rest. -/
def integer? (natural? : Octets → Option (Nat × Octets)) (o : Octets) : Option (Int × Octets) :=
  match natural? (signed o).2 with
  | some (n, rest) => some (if (signed o).1 then -Int.ofNat n else Int.ofNat n, rest)
  | none => none

/-- The least integer of 64 bits. -/
def minInteger : Int := -9223372036854775808

/-- The greatest integer of 64 bits. -/
def maxInteger : Int := 9223372036854775807

/-- The integer that a text is in base ten, with white space around it. -/
def decimal? (o : Octets) : Option Int :=
  match integer? (natural? 10) o with
  | some (n, rest) =>
    if rest.all isSpace ∧ minInteger ≤ n ∧ n ≤ maxInteger then some n else none
  | none => none

/-- An integer in base ten. -/
def decimal (n : Int) : Octets :=
  if n < 0 then '-' :: Nat.toDigits 10 n.natAbs else Nat.toDigits 10 n.natAbs

end PassContext.Shell
