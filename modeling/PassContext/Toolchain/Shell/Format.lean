/-
# Printing by a format

A format is text with escapes, which can name any byte, and with conversions, each of which prints
one argument.  A format that uses arguments is used again while there are some left, and arguments
that are missing count as empty.

Numbers are written the way the system's library writes them.  An argument that is not quite a
number is printed as far as it is one, with a complaint.
-/
import PassContext.Toolchain.Shell.Floating

namespace PassContext.Shell

/-! ## 1. Escapes -/

/-- The byte of an escape with one letter. -/
def letterEscape? (c : Char) : Option Char :=
  match c with
  | 'a' => some '\x07'
  | 'b' => some '\x08'
  | 'e' => some '\x1b'
  | 't' => some '\t'
  | 'n' => some '\n'
  | 'v' => some '\x0b'
  | 'f' => some '\x0c'
  | 'r' => some '\r'
  | '\\' => some '\\'
  | _ => none

/-- The byte that is named behind a backslash, and how long its name is; where there is no name,
the byte is the backslash itself.  Up to three octal digits name a byte. -/
def escapeAt (o : Octets) : Char × Nat :=
  match (o.take 3).takeWhile (isDigitOf 8) with
  | [] =>
    match o with
    | c :: _ => match letterEscape? c with
      | some named => (named, 1)
      | none => ('\\', 0)
    | [] => ('\\', 0)
  | digits => (Char.ofNat (valueOf 8 digits % 256), digits.length)

/-- A text with its escapes carried out, and whether one of them ends all printing.  Here a zero
may stand in front of octal digits.  At most so many characters are read. -/
def unescaped : Nat → Octets → Octets × Bool
  | 0, _ => ([], false)
  | _, [] => ([], false)
  | bound + 1, c :: o =>
    if c ≠ '\\' then
      let (text, ends) := unescaped bound o
      (c :: text, ends)
    else match o with
      | 'c' :: _ => ([], true)
      | o =>
        let o := match o with
          | '0' :: d :: rest => if isDigitOf 8 d then d :: rest else o
          | o => o
        let (byte, length) := escapeAt o
        let (text, ends) := unescaped bound (o.drop length)
        (byte :: text, ends)

/-! ## 2. Conversions -/

/-- A conversion up to the letter that says what it prints. -/
structure Conversion where
  flags : List Char
  width : Nat
  /-- The digits behind a point, if there is one. -/
  precision : Option Nat
deriving DecidableEq, Repr

namespace Conversion

/-- Fills up to the width: with blanks behind for the flag `-`, else in front. -/
def pad (s : Conversion) (o : Octets) : Octets :=
  let blanks := List.replicate (s.width - o.length) ' '
  if '-' ∈ s.flags then o ++ blanks else blanks ++ o

/-- A text, of which the precision is the most that is printed. -/
def text (s : Conversion) (o : Octets) : Octets :=
  s.pad (match s.precision with | some p => o.take p | none => o)

/-- Digits behind a sign; the flag `0` fills up to the width with zeros between them, if they may
be filled up. -/
def signedDigits (s : Conversion) (mayFill : Bool) (sign digits : Octets) : Octets :=
  let least := if mayFill && '0' ∈ s.flags && '-' ∉ s.flags then s.width - sign.length else 0
  s.pad (sign ++ List.replicate (least - digits.length) '0' ++ digits)

/-- The sign of a number that may be negative. -/
def sign (s : Conversion) (negative : Bool) : Octets :=
  if negative then ['-']
  else if '+' ∈ s.flags then ['+'] else if ' ' ∈ s.flags then [' '] else []

/-- Digits of an integer, of which the precision is the least count; no digit at all is left of a
zero with the precision zero. -/
def filled (s : Conversion) (digits : Octets) : Octets :=
  match s.precision with
  | none => digits
  | some p =>
    if p = 0 ∧ digits = ['0'] then [] else List.replicate (p - digits.length) '0' ++ digits

/-- An integer in base ten. -/
def integer (s : Conversion) (n : Int) : Octets :=
  s.signedDigits s.precision.isNone (s.sign (n < 0)) (s.filled (Nat.toDigits 10 n.natAbs))

/-- A natural number, in the base that a letter tells; the flag `#` asks for a sign of the base. -/
def natural (s : Conversion) (letter : Char) (n : Nat) : Octets :=
  let shown (sign digits : Octets) := s.signedDigits s.precision.isNone sign (s.filled digits)
  let marked := '#' ∈ s.flags
  match letter with
  | 'o' =>
    let digits := s.filled (Nat.toDigits 8 n)
    let digits := if marked ∧ digits.head? ≠ some '0' then '0' :: digits else digits
    s.signedDigits s.precision.isNone [] digits
  | 'x' => shown (if marked ∧ n ≠ 0 then "0x".toList else []) (Nat.toDigits 16 n)
  | 'X' =>
    shown (if marked ∧ n ≠ 0 then "0X".toList else []) ((Nat.toDigits 16 n).map Char.toUpper)
  | _ => shown [] (Nat.toDigits 10 n)

/-- A number with a point, in the form that a letter tells. -/
def float (s : Conversion) (letter : Char) (x : Numeral) : Octets :=
  let (front, digits) := match x.magnitude with
    | .infinite => ([], "inf".toList)
    | .notANumber => ([], "nan".toList)
    | .finite m =>
      let front := if letter.toLower = 'a' then "0x".toList else []
      (front, writtenAs letter.toLower s.precision ('#' ∈ s.flags) m)
  let text := s.signedDigits (x.magnitude matches .finite _) (s.sign x.negative ++ front) digits
  if letter.isUpper then text.map Char.toUpper else text

end Conversion

/-! ## 3. Arguments -/

/-- What has been printed, the last character first, the arguments left, and the complaints
made. -/
structure Printing where
  out : Octets
  args : List Octets
  complaints : List Octets

/-- A step of printing; it may end all printing with a message or without one. -/
abbrev Print := ExceptT (Option Octets) (StateM Printing)

def put (o : Octets) : Print Unit := modify fun s => { s with out := o.reverse ++ s.out }

/-- Complains about an argument. -/
def grumble (o : Octets) (message : String) : Print Unit :=
  modify fun s => { s with complaints := s.complaints ++ [o ++ ": ".toList ++ message.toList] }

/-- The next argument, if there is one. -/
def nextArg? : Print (Option Octets) :=
  modifyGet fun s => (s.args.head?, { s with args := s.args.tail })

/-- Complains about an argument of which the number left some characters. -/
def grumbleAbout (o rest : Octets) : Print Unit :=
  if rest = o then grumble o "expected numeric value"
  else grumble o "not completely converted"

/-- The number of a character behind a quote, if an argument is that. -/
def quotedNumber? (o : Octets) : Option Nat :=
  match o with
  | q :: rest => if q = '\'' ∨ q = '"' then some ((rest.head?.map Char.toNat).getD 0) else none
  | [] => none

/-- The next argument as an integer between bounds, and a given one where it is too small. -/
def integerArg (least greatest tooSmall : Int) : Print Int := do
  match ← nextArg? with
  | none => return 0
  | some o =>
    match quotedNumber? o, integer? prefixedNatural? o with
    | some n, _ => return n
    | none, none =>
      if o ≠ [] then grumbleAbout o o
      return 0
    | none, some (n, rest) =>
      if rest ≠ [] then grumbleAbout o rest
      else if n < least ∨ greatest < n then grumble o "Numerical result out of range"
      return if n < least then tooSmall else min greatest n

/-- The greatest natural number of 64 bits. -/
def maxNatural : Int := 18446744073709551615

/-- The next argument as a natural number; a negative one wraps around. -/
def naturalArg : Print Nat := do
  let n ← integerArg (-maxNatural) maxNatural maxNatural
  return (n % (maxNatural + 1)).toNat

/-- The next argument as a number with a point. -/
def floatArg : Print Numeral := do
  match ← nextArg? with
  | none => return nearest false 0 1
  | some o =>
    match quotedNumber? o, numeralAt? o with
    | some n, _ => return nearest false n 1
    | none, none =>
      if o ≠ [] then grumbleAbout o o
      return nearest false 0 1
    | none, some (x, rest) =>
      if rest ≠ [] then grumbleAbout o rest
      else if x.outOfRange then grumble o "Numerical result out of range"
      return x

/-! ## 4. Formats -/

/-- Reads a width or a precision: digits, or a star for the next argument. -/
def sizeAt (o : Octets) : Print (Int × Octets) := do
  match o with
  | '*' :: rest => return (← integerArg (-2147483648) 2147483647 (-2147483648), rest)
  | o => return (valueOf 10 (o.takeWhile Char.isDigit), o.dropWhile Char.isDigit)

/-- Prints the argument of a conversion. -/
def convert (s : Conversion) (letter : Char) (source : Octets) : Print Unit := do
  match letter with
  | 's' => put (s.text ((← nextArg?).getD []))
  | 'c' => put (s.pad [((← nextArg?).getD []).headD '\x00'])
  | 'b' =>
    let o := (← nextArg?).getD []
    let (text, ends) := unescaped o.length o
    put (s.text text)
    if ends then throw none
  | 'd' | 'i' => put (s.integer (← integerArg minInteger maxInteger minInteger))
  | 'o' | 'u' | 'x' | 'X' => put (s.natural letter (← naturalArg))
  | 'e' | 'E' | 'f' | 'F' | 'g' | 'G' | 'a' | 'A' => put (s.float letter (← floatArg))
  | _ => throw (some (source ++ ": invalid directive".toList))

/-- Prints a conversion behind its percent sign, and gives what follows it. -/
def printConversion (o : Octets) : Print Octets := do
  let flags := o.takeWhile fun c => c ∈ ['#', '-', '+', ' ', '0']
  let (width, rest) ← sizeAt (o.drop flags.length)
  let (precision, rest) ← match rest with
    | '.' :: rest => do
      let (n, rest) ← sizeAt rest
      pure (if n < 0 then none else some n.toNat, rest)
    | rest => pure (none, rest)
  match rest with
  | [] => throw (some "missing format character".toList)
  | letter :: rest =>
    let flags := if width < 0 then '-' :: flags else flags
    convert ⟨flags, width.natAbs, precision⟩ letter ('%' :: o.take (o.length - rest.length))
    return rest

/-- Prints a format once; at most so many characters are read. -/
def printOnce : Nat → Octets → Print Unit
  | 0, _ => return
  | _, [] => return
  | bound + 1, c :: o => do
    match c, o with
    | '\\', o =>
      let (byte, length) := escapeAt o
      put [byte]
      printOnce bound (o.drop length)
    | '%', '%' :: o =>
      put ['%']
      printOnce bound o
    | '%', o => do
      let rest ← printConversion o
      printOnce bound rest
    | c, o =>
      put [c]
      printOnce bound o

/-- Prints a format, again and again as long as it uses arguments and some are left. -/
def printAll (format : Octets) : Nat → Print Unit
  | 0 => return
  | bound + 1 => do
    let before := (← get).args.length
    printOnce format.length format
    let left := (← get).args.length
    if left ≠ 0 ∧ left < before then printAll format bound

/-- What a format prints with its arguments, the complaints made, and the message that ended the
printing too early, if one did. -/
def printed (format : Octets) (args : List Octets) : Octets × List Octets × Option Octets :=
  let (r, s) := (printAll format (args.length + 1)).run ⟨[], args, []⟩
  (s.out.reverse, s.complaints, match r with
    | .error (some message) => some message
    | _ => none)

end PassContext.Shell
