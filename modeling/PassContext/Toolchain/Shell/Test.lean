/-
# Testing conditions

A condition is a list of words, and what a word is depends on the words behind it: an operator
stands for itself where operands are missing.  Conditions of three words are read as an operator
between operands wherever they can be.
-/
import PassContext.Toolchain.Shell.Paths

namespace PassContext.Shell

/-! ## 1. Operators -/

/-- The part that an operator plays. -/
inductive TestOp
  | unary
  | binary
  | not
  | and
  | or
  | open
  | close
deriving DecidableEq, Repr

/-- The operator that a word is. -/
def testOp? (o : Octets) : Option TestOp :=
  match String.ofList o with
  | "!" => some .not
  | "-a" => some .and
  | "-o" => some .or
  | "(" => some .open
  | ")" => some .close
  | "=" | "!=" | "<" | ">" | "-eq" | "-ne" | "-gt" | "-ge" | "-lt" | "-le" | "-nt" | "-ot"
  | "-ef" => some .binary
  | "-r" | "-w" | "-x" | "-e" | "-f" | "-d" | "-c" | "-b" | "-p" | "-u" | "-g" | "-k" | "-s" | "-t"
  | "-z" | "-n" | "-h" | "-L" | "-O" | "-G" | "-S" => some .unary
  | _ => none

/-- The operator at the front of words, unless it is an operand there. -/
def frontOp? : List Octets → Option TestOp
  | [] => none
  | word :: rest =>
    match testOp? word, rest with
    | some .unary, [] => none
    | some .unary, next :: _ :: _ => if testOp? next = some .binary then none else some .unary
    | some .open, [] => none
    | op, _ => op

/-- A condition that is no condition. -/
def misuse {α : Type} (word : Octets) (message : String) : Act α :=
  fail (if word = [] then message.toList else word ++ ": ".toList ++ message.toList)

/-! ## 2. Operands -/

/-- The integer that an operand is. -/
def testInteger (o : Octets) : Act Int := do
  match decimal? o with
  | some n => return n
  | none => badNumber o

/-- What a place is for operators that ask about it. -/
structure Nature where
  isRunnable : Bool
  isSticky : Bool
  isDirectory : Bool
  isFile : Bool
  isDevice : Bool
  isPipe : Bool
  isLink : Bool
  filled : Bool

/-- What stands at a place, if something does.  A file that no path leads to is a pipe. -/
def natureOf? (p : Place) : Act (Option Nature) := do
  let fs := (← get).files
  let plain : Nature := ⟨p.isRunnable, p.isSticky, false, false, false, false, false, false⟩
  let file (n : Nat) : Nature :=
    { plain with isFile := true, filled := (fs.contents[n]?.getD #[]).size ≠ 0 }
  match p with
  | .directory _ => return some { plain with isDirectory := true, filled := true }
  | .device _ => return some { plain with isDevice := true }
  | .program _ => return some { plain with isFile := true, filled := true }
  | .link _ _ => return some { plain with isLink := true, filled := true }
  | .file _ n => return some (file n)
  | .descriptor n =>
    match ← handle? n with
    | none => return none
    | some (.device _) => return some { plain with isDevice := true }
    | some .directory => return some { plain with isDirectory := true, filled := true }
    | some (.opened n) =>
      let number := (fs.handles[n]?.map OpenFile.file).getD 0
      if fs.paths.any (·.2 = number) then return some (file number)
      return some { plain with isPipe := true }
  | .absent _ _ | .refused _ => return none

/-- Whether an operator with a letter holds of what stands somewhere. -/
def Nature.has (n : Nature) (letter : Char) : Bool :=
  match letter with
  | 'e' | 'r' | 'w' | 'O' | 'G' => true
  | 'x' => n.isRunnable
  | 'd' => n.isDirectory
  | 'f' => n.isFile
  | 'c' => n.isDevice
  | 'p' => n.isPipe
  | 'h' | 'L' => n.isLink
  | 's' => n.filled
  | 'k' => n.isSticky
  | _ => false

/-- Whether an operator in front of an operand holds. -/
def testUnary (op operand : Octets) : Act Bool := do
  match op.getD 1 ' ' with
  | 'z' => return operand.isEmpty
  | 'n' => return !operand.isEmpty
  | 't' =>
    let _ ← testInteger operand
    return false
  | letter =>
    let p ← if letter = 'h' || letter = 'L' then placeItself operand else place operand
    return (← natureOf? p).any (·.has letter)

/-- Whether two places are the same; a file may have more than one path. -/
def Place.isSameAs (p q : Place) : Bool :=
  match p, q with
  | .file _ n, .file _ m => n = m
  | p, q => p = q

/-- Whether an operator between operands holds. -/
def testBinary (left op right : Octets) : Act Bool := do
  let compare (holds : Int → Int → Bool) : Act Bool := do
    let n ← testInteger left
    return holds n (← testInteger right)
  match String.ofList op with
  | "=" => return left = right
  | "!=" => return left ≠ right
  | "<" => return !precedes right left
  | ">" => return !precedes left right
  | "-eq" => compare (· == ·)
  | "-ne" => compare (· != ·)
  | "-gt" => compare (· > ·)
  | "-ge" => compare (· ≥ ·)
  | "-lt" => compare (· < ·)
  | "-le" => compare (· ≤ ·)
  | "-ef" =>
    let p ← place left
    return p.isThere && p.isSameAs (← place right)
  | _ => return false

/-! ## 3. Conditions

A reader gives whether the words at the front hold, and the words from the last one read on. -/

/-- A condition in parentheses, an operator with its operands, or a word, which holds unless it is
empty. -/
def testPrimary (inner : List Octets → Act (Bool × List Octets)) (words : List Octets) :
    Act (Bool × List Octets) := do
  match words with
  | [] => return (false, [])
  | word :: rest =>
    match frontOp? words, rest with
    | some .open, rest =>
      if frontOp? rest = some .close then return (false, rest)
      let (holds, left) ← inner rest
      match left.tail with
      | close :: more =>
        if frontOp? (close :: more) = some .close then return (holds, close :: more)
        misuse [] "closing paren expected"
      | [] => misuse [] "closing paren expected"
    | some .unary, [] => misuse word "argument expected"
    | some .unary, operand :: more => return (← testUnary word operand, operand :: more)
    | _, op :: more =>
      if frontOp? (op :: more) = some .binary then
        match more with
        | right :: more => return (← testBinary word op right, right :: more)
        | [] => misuse op "argument expected"
      return (!word.isEmpty, words)
    | _, [] => return (!word.isEmpty, words)

/-- A condition that may be negated, so many times at most. -/
def testNegated (inner : List Octets → Act (Bool × List Octets)) :
    Nat → List Octets → Act (Bool × List Octets)
  | 0, words => return (false, words)
  | bound + 1, words => do
    if frontOp? words ≠ some .not then return ← testPrimary inner words
    match words.tail with
    | [] => return (true, words)
    | rest =>
      let (holds, left) ← testNegated inner bound rest
      return (!holds, left)

/-- Conditions that an operator joins, so many at most. -/
def testJoined (op : TestOp) (combine : Bool → Bool → Bool)
    (part : List Octets → Act (Bool × List Octets)) :
    Nat → List Octets → Act (Bool × List Octets)
  | 0, words => part words
  | bound + 1, words => do
    let (holds, left) ← part words
    if frontOp? left.tail ≠ some op then return (holds, left)
    let (others, left) ← testJoined op combine part bound (left.drop 2)
    return (combine holds others, left)

/-- A condition; it nests at most so deep. -/
def testCondition : Nat → List Octets → Act (Bool × List Octets)
  | 0, words => return (false, words)
  | bound + 1, words =>
    let part := testNegated (testCondition bound) (words.length + 1)
    testJoined .or (· || ·) (testJoined .and (· && ·) part words.length) words.length words

/-- Whether words hold, without regard to how many there are. -/
def testWords (words : List Octets) : Act Bool := do
  let (holds, left) ← testCondition (words.length + 1) words
  match left with
  | word :: _ :: _ => misuse word "unexpected operator"
  | _ => return holds

/-- Whether words hold. -/
def testHolds : List Octets → Act Bool
  | [] => return false
  | [left, op, right] => do
    if testOp? op = some .binary then testBinary left op right
    else if left = ['('] ∧ right = [')'] then testWords [op]
    else if left = ['!'] then return !(← testWords [op, right])
    else testWords [left, op, right]
  | [a, b, c, d] => do
    if a = ['('] ∧ d = [')'] then testWords [b, c]
    else if a = ['!'] then return !(← testHolds [b, c, d])
    else testWords [a, b, c, d]
  | words => testWords words

end PassContext.Shell
