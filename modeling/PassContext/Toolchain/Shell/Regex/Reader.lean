/-
# Reading regular expressions

There are two ways to write regular expressions.  In the basic one the marks for groups, bounds and
alternatives stand behind backslashes; in the extended one they stand alone.  A mark that repeats
what stands in front of it has nothing to repeat at the start of an expression: in the basic way it
then stands for itself.
-/
import PassContext.Toolchain.Shell.Regex.Basic

namespace PassContext.Shell

/-! ## 1. Dialects -/

/-- How expressions are written. -/
structure Dialect where
  extended : Bool
  /-- Whether misplaced marks are refused where they could be passed over. -/
  strict : Bool
  /-- Whether a range may have its ends in the wrong order, and hold nothing, and a bound may stand
  for itself. -/
  forgiving : Bool
deriving DecidableEq, Repr

/-- What is left of an expression, and how many groups have begun and which of them are closed. -/
structure RegexSource where
  rest : Octets
  opened : Nat
  closed : List Nat

/-- A step of reading an expression; it may be refused with a message. -/
abbrev RegexReading := StateT RegexSource (Except String)

/-- Takes characters off the front. -/
def skipChars (count : Nat) : RegexReading Unit :=
  modify fun s => { s with rest := s.rest.drop count }

/-! ## 2. Lists in brackets -/

def unmatchedBracket : String := "Unmatched [, [^, [:, [., or [="

/-- The text between a bracket with a mark and the mark with a closing bracket, and what follows. -/
def untilMark (mark : Char) : Octets → Option (Octets × Octets)
  | [] => none
  | c :: rest =>
    if c = mark ∧ rest.head? = some ']' then some ([], rest.tail)
    else (untilMark mark rest).map fun (text, rest) => (c :: text, rest)

/-- An end of a range, or a class, and what follows it. -/
def bracketItem (o : Octets) : Except String (Listed × Octets) :=
  match o with
  | [] => throw unmatchedBracket
  | '[' :: mark :: rest =>
    if mark ∈ [':', '.', '='] then
      match untilMark mark rest with
      | none => throw unmatchedBracket
      | some (name, rest) =>
        if mark = ':' then
          if classNames.any (·.toList == name) then return (.class name, rest)
          else throw "Invalid character class name"
        else match name with
          | [c] => return (.range c c, rest)
          | _ => throw "Invalid collation character"
    else return (.range '[' '[', mark :: rest)
  | c :: rest => return (.range c c, rest)

/-- The entries of a list behind the opening bracket, at most so many, and what follows it. -/
def bracketItems (d : Dialect) : Nat → Bool → Octets → Except String (List Listed × Octets)
  | 0, _, _ => throw unmatchedBracket
  | bound + 1, isFirst, o => do
    match isFirst, o with
    | false, ']' :: rest => return ([], rest)
    | _, o =>
      if !isFirst && o.head? = some '-' && o[1]? ≠ some ']' then throw "Invalid range end"
      let (item, rest) ← bracketItem o
      match item, rest with
      | _, '-' :: ']' :: _ => do
        let (items, left) ← bracketItems d bound false rest
        return (item :: items, left)
      | .range first _, '-' :: rest => do
        let (last, rest) ← bracketItem rest
        match last with
        | .range last _ =>
          if last < first && !d.forgiving then throw "Invalid range end"
          let (items, left) ← bracketItems d bound false rest
          return (.range first last :: items, left)
        | .class _ => throw "Invalid range end"
      | item, rest => do
        let (items, left) ← bracketItems d bound false rest
        return (item :: items, left)

/-- Reads a list behind its opening bracket. -/
def readBracket (d : Dialect) : RegexReading Regex := do
  let s ← get
  let (negated, inside) := match s.rest with
    | '^' :: rest => (true, rest)
    | rest => (false, rest)
  if inside = [] then throw "Invalid regular expression"
  let (items, rest) ← bracketItems d (inside.length + 1) true inside
  set { s with rest }
  return .oneOf items negated

/-! ## 3. Marks -/

/-- What a character or an escape means. -/
inductive RegexMark
  | char (c : Char)
  | any
  | bracket
  | open
  | close
  | bar
  | turns (least : Nat) (most : Option Nat)
  /-- The start of a bound. -/
  | bound
  | edge (e : Edge)
  | back (number : Nat)
  /-- A character of words, or another one. -/
  | wordChar (negated : Bool)
  /-- White space, or something else. -/
  | space (negated : Bool)
  | finish
deriving DecidableEq, Repr

/-- What an escape with a character means. -/
def escapedMark (extended : Bool) (c : Char) : RegexMark :=
  match c with
  | 'w' => .wordChar false
  | 'W' => .wordChar true
  | 's' => .space false
  | 'S' => .space true
  | 'b' => .edge .word
  | 'B' => .edge .notWord
  | '<' => .edge .wordStart
  | '>' => .edge .wordEnd
  | '\x60' => .edge .textStart
  | '\'' => .edge .textEnd
  | c =>
    if '1' ≤ c ∧ c ≤ '9' then .back (c.toNat - '0'.toNat)
    else if extended then .char c
    else match c with
      | '(' => .open
      | ')' => .close
      | '|' => .bar
      | '\x7b' => .bound
      | '+' => .turns 1 none
      | '?' => .turns 0 (some 1)
      | c => .char c

/-- What a character means that stands alone. -/
def plainMark (extended : Bool) (c : Char) : RegexMark :=
  match c with
  | '.' => .any
  | '[' => .bracket
  | '*' => .turns 0 none
  | c =>
    if !extended then .char c
    else match c with
      | '(' => .open
      | ')' => .close
      | '|' => .bar
      | '\x7b' => .bound
      | '+' => .turns 1 none
      | '?' => .turns 0 (some 1)
      | c => .char c

/-- Whether an end of a line is meant by a dollar sign in front of a text. -/
def endsBranch (o : Octets) : Bool :=
  match o with
  | [] | '\\' :: ')' :: _ | '\\' :: '|' :: _ => true
  | _ => false

/-- The mark at the front of an expression, and its length. -/
def markAt (d : Dialect) (atStart : Bool) (o : Octets) : Except String (RegexMark × Nat) :=
  match o with
  | [] => return (.finish, 0)
  | ['\\'] => throw "Trailing backslash"
  | '\\' :: c :: _ => return (escapedMark d.extended c, 2)
  | '^' :: _ => return (if d.extended || atStart then .edge .textStart else .char '^', 1)
  | '$' :: rest => return (if d.extended || endsBranch rest then .edge .textEnd else .char '$', 1)
  | c :: _ => return (plainMark d.extended c, 1)

/-! ## 4. Repetitions -/

/-- The greatest bound. -/
def maxTurns : Nat := 32767

/-- A bound behind its opening brace, and its length. -/
def boundAt (d : Dialect) (o : Octets) : Except String ((Nat × Option Nat) × Nat) := do
  let first := o.takeWhile Char.isDigit
  let rest := o.drop first.length
  let (last, rest) : Option Octets × Octets := match rest with
    | ',' :: rest => (some (rest.takeWhile Char.isDigit), rest.dropWhile Char.isDigit)
    | rest => (none, rest)
  let close := if d.extended then ['\x7d'] else ['\\', '\x7d']
  if rest = [] ∨ (!d.extended ∧ rest = ['\\']) then throw "Unmatched \\\x7b"
  if !close.isPrefixOf rest ∨ (first = [] ∧ last = none) then
    throw "Invalid content of \\\x7b\\\x7d"
  let least := valueOf 10 first
  let most := match last with
    | none => some least
    | some [] => none
    | some digits => some (valueOf 10 digits)
  if most.any (· < least) then throw "Invalid content of \\\x7b\\\x7d"
  if maxTurns < max least (most.getD 0) then throw "Regular expression too big"
  return ((least, most), o.length - rest.length + close.length)

/-- Whether a bound that cannot be read stands for itself. -/
def boundIsPlain (d : Dialect) (inside : Octets) (message : String) : Bool :=
  d.extended && !d.strict && message ≠ "Regular expression too big" &&
    !(message = "Invalid content of \\\x7b\\\x7d" && inside.head?.any Char.isDigit)

/-- Reads the marks that repeat an expression, at most so many.  The basic way does not let a star
or a bound stand behind another one where it is strict. -/
def readRepeats (d : Dialect) : Nat → Bool → Regex → RegexReading Regex
  | 0, _, r => return r
  | bound + 1, isFirst, r => do
    let o := (← get).rest
    let checked (mark : Octets) : RegexReading Unit := do
      if d.strict && !d.extended && !isFirst && mark ∈ [['*'], ['\\', '\x7b']] then
        throw "Invalid preceding regular expression"
    match markAt d false o with
    | .ok (.turns least most, length) =>
      checked (o.take length)
      skipChars length
      readRepeats d bound false (.many r least most)
    | .ok (.bound, length) =>
      checked (o.take length)
      match boundAt d (o.drop length) with
      | .ok ((least, most), size) =>
        skipChars (length + size)
        readRepeats d bound false (.many r least most)
      | .error message =>
        if boundIsPlain d (o.drop length) message then return r
        throw message
    | _ => return r

/-- Reads what repeats an expression. -/
def repeated (d : Dialect) (r : Regex) : RegexReading Regex := do
  readRepeats d ((← get).rest.length + 1) true r

/-! ## 5. Expressions -/

/-- The characters of words. -/
def wordListed : List Listed := [.class "alnum".toList, .range '_' '_']

/-- Reads the parts of a branch behind others, the last of them first; groups are read by
`inner`. -/
def readBranch (d : Dialect) (inner : RegexReading Regex) (inGroup : Bool) :
    Nat → Bool → List Regex → RegexReading Regex
  | 0, _, parts => return .ofList parts.reverse
  | bound + 1, atStart, parts => do
    let o := (← get).rest
    let (mark, length) ← markAt d atStart o
    let next (r : Regex) : RegexReading Regex := do
      readBranch d inner inGroup bound false ((← repeated d r) :: parts)
    let plain (r : Regex) : RegexReading Regex := do
      skipChars length
      next r
    match mark with
    | .finish | .bar => return .ofList parts.reverse
    | .close =>
      if inGroup then return .ofList parts.reverse
      if d.extended && !d.strict then plain (.char ')') else throw "Unmatched ) or \\)"
    | .char c => plain (.char c)
    | .any => plain .any
    | .wordChar negated => plain (.oneOf wordListed negated)
    | .space negated => plain (.oneOf [.class "space".toList] negated)
    | .bracket =>
      skipChars length
      next (← readBracket d)
    | .edge e =>
      if d.extended && e ≠ .textStart then plain (.edge e)
      else
        skipChars length
        readBranch d inner inGroup bound false (.edge e :: parts)
    | .back number =>
      if !(← get).closed.contains number then throw "Invalid back reference"
      plain (.back number)
    | .turns _ _ =>
      if !d.extended then plain (.char ((o.drop (length - 1)).headD '*'))
      else if d.strict then throw "Invalid preceding regular expression"
      else
        skipChars length
        readBranch d inner inGroup bound true parts
    | .bound =>
      if d.forgiving || !(d.extended || d.strict) then return ← plain (.char '\x7b')
      if d.strict then throw "Invalid preceding regular expression"
      match boundAt d (o.drop length) with
      | .ok (_, size) =>
        skipChars (length + size)
        readBranch d inner inGroup bound true parts
      | .error _ => plain (.char '\x7b')
    | .open =>
      skipChars length
      let number := (← get).opened + 1
      modify fun s => { s with opened := number }
      let inside ← inner
      match markAt d false (← get).rest with
      | .ok (.close, length) =>
        skipChars length
        modify fun s => { s with closed := number :: s.closed }
        next (.group number inside)
      | _ => throw "Unmatched ( or \\("

/-- Reads branches behind others, at most so many. -/
def readBranches (d : Dialect) (inner : RegexReading Regex) (inGroup : Bool) :
    Nat → RegexReading Regex
  | 0 => throw "Regular expression too big"
  | bound + 1 => do
    let first ← readBranch d inner inGroup ((← get).rest.length + 1) true []
    match markAt d false (← get).rest with
    | .ok (.bar, length) =>
      skipChars length
      return .alt first (← readBranches d inner inGroup bound)
    | _ => return first

/-- Reads an expression up to its end or the end of its group; it nests at most so deep. -/
def readRegex (d : Dialect) (inGroup : Bool) : Nat → RegexReading Regex
  | 0 => throw "Regular expression too big"
  | depth + 1 => do
    readBranches d (readRegex d true depth) inGroup ((← get).rest.length + 1)

/-- What looks for an expression, or why a text is none. -/
def finderOf (d : Dialect) (foldsCase : Bool) (o : Octets) : Except String Finder := do
  let (r, s) ← (readRegex d false (o.length + 1)).run ⟨o, 0, []⟩
  return ⟨r, s.opened, r.looksBack, foldsCase⟩

end PassContext.Shell
