/-
# Patterns

A pattern is matched against a whole text.  A star stands for any text, a question mark for any
byte, and brackets for one of the bytes that they list; a quoted character stands for itself.  A
bracket that is never closed stands for itself, too.  A backslash that is not quoted has come out
of a variable, and quotes what follows it.
-/
import PassContext.Toolchain.Shell.Octets

namespace PassContext.Shell

/-! ## 1. The parts of a pattern -/

/-- A character of a pattern, which may be quoted. -/
structure PatternChar where
  quoted : Bool
  char : Char
deriving DecidableEq, Repr

/-- What brackets list. -/
inductive Listed
  | range (first last : Char)
  /-- A class of characters by its name. -/
  | class (name : Octets)
deriving DecidableEq, Repr

/-- A part of a pattern. -/
inductive Atom
  /-- Any text. -/
  | many
  /-- Any byte. -/
  | one
  | char (c : Char)
  /-- One of the listed bytes, or one that is not listed. -/
  | oneOf (listed : List Listed) (negated : Bool)
deriving DecidableEq, Repr

/-- Whether a character belongs to the class with a name.  Classes hold characters of seven bits
only. -/
def inClass (name : Octets) (c : Char) : Bool :=
  let visible := '!' ≤ c && c ≤ '~'
  match String.ofList name with
  | "alpha" => c.isAlpha
  | "digit" => c.isDigit
  | "alnum" => c.isAlphanum
  | "upper" => c.isUpper
  | "lower" => c.isLower
  | "space" => isSpace c
  | "blank" => isBlank c
  | "punct" => visible && !c.isAlphanum
  | "print" => visible || c == ' '
  | "graph" => visible
  | "cntrl" => c.toNat < 32 || c.toNat == 127
  | "xdigit" => isDigitOf 16 c
  | _ => false

/-- The names of classes. -/
def classNames : List String :=
  ["alpha", "digit", "alnum", "upper", "lower", "space", "blank", "punct", "print", "graph",
   "cntrl", "xdigit"]

/-- The place of a byte in the order of ranges, in which bytes of eight bits come first. -/
def rank (c : Char) : Nat := (c.toNat + 128) % 256

def Listed.holds (c : Char) : Listed → Bool
  | .range first last => rank first ≤ rank c && rank c ≤ rank last
  | .class name => inClass name c

/-! ## 2. Reading a pattern -/

/-- A pattern in which each backslash has quoted what follows it. -/
def withQuotes : List PatternChar → List PatternChar
  | ⟨false, '\\'⟩ :: c :: cs => ⟨true, c.char⟩ :: withQuotes cs
  | [⟨false, '\\'⟩] => [⟨true, '\\'⟩]
  | c :: cs => c :: withQuotes cs
  | [] => []

/-- The name of a class behind its opening bracket, and what follows the class. -/
def classAt? : List PatternChar → Option (Octets × List PatternChar)
  | ⟨false, ':'⟩ :: cs =>
    let name := (cs.takeWhile (·.char.isAlpha)).map (·.char)
    match cs.dropWhile (·.char.isAlpha) with
    | ⟨false, ':'⟩ :: ⟨false, ']'⟩ :: rest => some (name, rest)
    | _ => none
  | _ => none

/-- The next entry of a list in brackets, and what follows it. -/
def listedAt? (cs : List PatternChar) : Option (Listed × List PatternChar) :=
  match cs with
  | [] => none
  | c :: rest =>
    match if c = ⟨false, '['⟩ then classAt? rest else none with
    | some (name, rest) => some (.class name, rest)
    | none =>
      match rest with
      | ⟨false, '-'⟩ :: last :: more =>
        if last = ⟨false, ']'⟩ then some (.range c.char c.char, rest)
        else some (.range c.char last.char, more)
      | rest => some (.range c.char c.char, rest)

/-- The entries of a list in brackets, at most so many, and what follows the closing bracket. -/
def listAt? : Nat → List PatternChar → Option (List Listed × List PatternChar)
  | 0, _ => none
  | bound + 1, cs => do
    let (entry, rest) ← listedAt? cs
    match rest with
    | ⟨false, ']'⟩ :: rest => return ([entry], rest)
    | rest =>
      let (entries, rest) ← listAt? bound rest
      return (entry :: entries, rest)

/-- A list in brackets behind the opening one, and what follows it. -/
def bracketsAt? (cs : List PatternChar) : Option (Atom × List PatternChar) :=
  match cs with
  | ⟨false, '!'⟩ :: inside => (listAt? cs.length inside).map fun (l, rest) => (.oneOf l true, rest)
  | inside => (listAt? cs.length inside).map fun (l, rest) => (.oneOf l false, rest)

/-- The parts of a pattern; at most so many are read. -/
def atomsOf : Nat → List PatternChar → List Atom
  | 0, _ => []
  | _, [] => []
  | bound + 1, c :: cs =>
    if c = ⟨false, '*'⟩ then .many :: atomsOf bound cs
    else if c = ⟨false, '?'⟩ then .one :: atomsOf bound cs
    else match if c = ⟨false, '['⟩ then bracketsAt? cs else none with
      | some (atom, rest) => atom :: atomsOf bound rest
      | none => .char c.char :: atomsOf bound cs

/-! ## 3. Matching -/

/-- The ends of a text, the longest first. -/
def endsOf : Octets → List Octets
  | [] => [[]]
  | c :: rest => (c :: rest) :: endsOf rest

/-- Whether a pattern matches a whole text. -/
def matchAtoms : List Atom → Octets → Bool
  | [], o => o.isEmpty
  | .many :: atoms, o => (endsOf o).any fun rest => matchAtoms atoms rest
  | _ :: _, [] => false
  | .one :: atoms, _ :: rest => matchAtoms atoms rest
  | .char d :: atoms, c :: rest => c == d && matchAtoms atoms rest
  | .oneOf listed negated :: atoms, c :: rest =>
    (listed.any (·.holds c)) != negated && matchAtoms atoms rest

/-- The parts of a pattern. -/
def partsOf (pattern : List PatternChar) : List Atom :=
  atomsOf pattern.length (withQuotes pattern)

/-- Whether a pattern matches a whole text. -/
def patternMatches (pattern : List PatternChar) (o : Octets) : Bool :=
  matchAtoms (partsOf pattern) o

/-- A character that stands between texts which are trimmed together. -/
def boundaryChar : Char := '\x00'

/-- Whether the parts of a pattern match a text up to its first boundary. -/
def matchFront (atoms : List Atom) (o : Octets) : Bool :=
  matchAtoms atoms (o.takeWhile (· ≠ boundaryChar))

/-- The text without what a pattern matches at its start: the shortest such piece, or the longest
one. -/
def trimStart (longest : Bool) (pattern : List PatternChar) (o : Octets) : Octets :=
  let atoms := partsOf pattern
  let counts := List.range (o.length + 1)
  match (if longest then counts.reverse else counts).find? fun n => matchFront atoms (o.take n) with
  | some n => o.drop n
  | none => o

/-- The text without what a pattern matches from some place on: the shortest such piece, or the
longest one.  A match ends at a boundary, and what is behind the boundary goes with it. -/
def trimEnd (longest : Bool) (pattern : List PatternChar) (o : Octets) : Octets :=
  let atoms := partsOf pattern
  let counts := List.range (o.length + 1)
  match (if longest then counts else counts.reverse).find? fun n => matchFront atoms (o.drop n) with
  | some n => o.take n
  | none => o

end PassContext.Shell
