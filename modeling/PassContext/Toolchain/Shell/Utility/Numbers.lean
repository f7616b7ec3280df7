/-
# Programs for numbers

One counts from a number to another one, by steps that may be no integers.  One calculates with its
operands, which are numbers, texts and operators between them.
-/
import PassContext.Toolchain.Shell.Floating
import PassContext.Toolchain.Shell.Regex.Reader
import PassContext.Toolchain.Shell.Utility.Options

namespace PassContext.Shell.Utility

/-! ## 1. Bounds and steps -/

/-- A number with places behind the point, and how wide it is written. -/
structure Placed where
  /-- The number, in units of its last place. -/
  units : Int
  places : Nat
  width : Nat
deriving DecidableEq, Repr

/-- A bound of counting. -/
inductive SeqBound
  | number (p : Placed)
  | endless
  | notANumber
deriving DecidableEq, Repr

/-- The number that a text writes in base ten, if it is one. -/
def placed? (o : Octets) : Option Placed := do
  let o := o.dropWhile fun c => isSpace c || c = '+'
  let (negative, digits) := match o with
    | '-' :: rest => (true, rest)
    | rest => (false, rest)
  let ((n, places), rest) ← pointedDigits? 10 digits
  let (e, rest) := exponentAt 'e' rest
  if rest ≠ [] then none
  let whole := digits.takeWhile Char.isDigit
  let hasPoint := digits.contains '.'
  let mantissa := (if negative then 1 else 0) + max 1 whole.length
  let kept := Int.toNat (Int.ofNat places - e)
  let grown := Int.toNat (e - Int.ofNat places)
  let units := Int.ofNat (n * Nat.pow 10 grown)
  let behind := if hasPoint || e < 0 then (if kept = 0 then 0 else kept + 1) else 0
  let front := if 0 ≤ e then mantissa + e.toNat else mantissa
  return ⟨if negative then -units else units, kept, front + behind⟩

/-- The bound that a text writes, if it is one. -/
def seqBound? (o : Octets) : Option SeqBound :=
  match placed? o with
  | some p => some (.number p)
  | none =>
    match numeralAt? o with
    | some (x, []) =>
      match x.magnitude with
      | .infinite => some .endless
      | .notANumber => some .notANumber
      | .finite y =>
        let (num, den) := y.ratio
        let n := Int.ofNat (num / den)
        some (.number ⟨if x.negative then -n else n, 0, 0⟩)
    | _ => none

/-- A number in units of a place that is not in front of its own. -/
def Placed.inUnits (p : Placed) (places : Nat) : Int :=
  p.units * Int.ofNat (Nat.pow 10 (places - p.places))

/-- The numbers from one on by steps, at most so many, up to a last one if there is one. -/
def countUp (step : Int) (last : Option Int) : Nat → Int → List Int
  | 0, _ => []
  | bound + 1, n =>
    let beyond := last.any fun last => if 0 ≤ step then last < n else n < last
    if beyond then [] else n :: countUp step last bound (n + step)

/-- How many numbers are counted where there is no last one. -/
def endlessSteps : Nat := 50000

/-! ## 2. Written numbers -/

/-- A number in units of a place with its point, filled up with zeros to a width. -/
def pointed (places width : Nat) (n : Int) : Octets :=
  let digits := Nat.toDigits 10 n.natAbs
  let digits := List.replicate (places + 1 - digits.length) '0' ++ digits
  let front := digits.take (digits.length - places)
  let text := if places = 0 then front else front ++ '.' :: digits.drop front.length
  let sign := if n < 0 then ['-'] else []
  sign ++ List.replicate (width - sign.length - text.length) '0' ++ text

/-! ## 3. Counting -/

/-- Options in front of operands; a number behind a minus sign is an operand. -/
def beforeNumbers (args : List Octets) : List Octets × List Octets :=
  let isNumber (o : Octets) : Bool :=
    match o with
    | '-' :: c :: _ => c.isDigit || c = '.'
    | o => o.head? ≠ some '-' || o = ['-']
  go isNumber args
where
  /-- Splits arguments; the value of an option may be an argument of its own. -/
  go (isNumber : Octets → Bool) : List Octets → List Octets × List Octets
    | [] => ([], [])
    | o :: rest =>
      if o = ['-', '-'] then ([], rest)
      else if isNumber o then ([], o :: rest)
      else if o ∈ ["-s".toList, "-ws".toList, "--separator".toList] then
        match rest with
        | value :: rest =>
          let (options, operands) := go isNumber rest
          (o :: value :: options, operands)
        | [] => ([o], [])
      else
        let (options, operands) := go isNumber rest
        (o :: options, operands)

/-- Counts from a number to another one by steps. -/
def counted (given : Given) (first step last : SeqBound) : Act Nat := do
  match first, step, last with
  | .number first, .number step, last =>
    let places := max first.places step.places
    let common := match last with
      | .number p => max places p.places
      | _ => places
    let stop := match last with
      | .number p => some (p.inUnits common)
      | _ => none
    let start := first.inUnits common
    let stepping := step.inUnits common
    let count := match stop with
      | some stop => ((stop - start) / stepping).toNat + 1
      | none => endlessSteps
    let numbers := countUp stepping stop count start
    let numbers := numbers.map (Int.tdiv · (Int.ofNat (Nat.pow 10 (common - places))))
    let widened (p : Placed) : Nat :=
      if p.places < places then
        p.width + (places - p.places) + (if p.places = 0 then 1 else 0)
      else if places < p.places then
        p.width - (p.places - places) - (if places = 0 then 1 else 0)
      else p.width
    let width := if given.has 'w' then
        max (widened first) (match last with
          | .number p => widened p
          | _ => 0)
      else 0
    let between := (given.value? 's').getD ['\n']
    let text := between.intercalate (numbers.map (pointed places width))
    printing 0 (if numbers.isEmpty then [] else text ++ ['\n'])
  | _, _, _ => return 0

def seq (args : List Octets) : Act Nat :=
  let known : Known := ⟨"s:w", [("separator", 's'), ("equal-width", 'w')], false⟩
  let (options, operands) := beforeNumbers args
  withOptions "seq" known 1 options fun given => do
    if operands.isEmpty then return ← failWithHelp "seq" "missing operand".toList
    if let _ :: _ :: _ :: extra :: _ := operands then
      return ← failWithHelp "seq" ("extra operand ".toList ++ quotedName extra)
    let bounds := operands.map seqBound?
    match operands.find? fun o => (seqBound? o).isNone, operands.find? fun o =>
        seqBound? o = some .notANumber with
    | some o, _ =>
      failWithHelp "seq" ("invalid floating point argument: ".toList ++ quotedName o)
    | none, some o =>
      failWithHelp "seq" ("invalid 'not-a-number' argument: ".toList ++ quotedName o)
    | none, none =>
      let one : SeqBound := .number ⟨1, 0, 1⟩
      match bounds.filterMap id with
      | [last] => counted given one one last
      | [first, last] => counted given first one last
      | [first, step, last] =>
        if let .number ⟨0, _, _⟩ := step then
          return ← failWithHelp "seq" ("invalid Zero increment value: ".toList ++
            quotedName (operands[1]?.getD []))
        counted given first step last
      | _ => return 1

/-! ## 4. Calculating -/

/-- The integer that a text is. -/
def wholeNumber? (o : Octets) : Option Int :=
  let (negative, digits) := match o with
    | '-' :: rest => (true, rest)
    | o => (false, o)
  if digits = [] ∨ !digits.all Char.isDigit then none
  else
    let n := Int.ofNat (valueOf 10 digits)
    some (if negative then -n else n)

/-- Whether a text counts as nothing. -/
def isNothing (o : Octets) : Bool :=
  match o with
  | [] => true
  | '-' :: rest => rest ≠ [] && rest.all (· == '0')
  | o => o.all (· == '0')

/-- Operators of expressions, from those that bind loosely on. -/
def exprBinding? (o : Octets) : Option Nat :=
  match String.ofList o with
  | "|" => some 0
  | "&" => some 1
  | "=" | "==" | "!=" | "<" | "<=" | ">" | ">=" => some 2
  | "+" | "-" => some 3
  | "*" | "/" | "%" => some 4
  | ":" => some 5
  | _ => none

/-- The words that are left of an expression, and the word that was read last. -/
structure ExprWords where
  rest : List Octets
  last : Octets

/-- A step of reading an expression and finding its value. -/
abbrev ExprReading := StateT ExprWords (Except Octets)

/-- The next word of an expression. -/
def nextExprWord : ExprReading Octets := do
  let s ← get
  match s.rest with
  | [] => throw ("syntax error: missing argument after ".toList ++ quotedName s.last)
  | o :: rest =>
    set (ExprWords.mk rest o)
    return o

/-- What a text holds of an expression that matches at its start: the first group, or how long the
match is. -/
def matchedText (text pattern : Octets) : Except Octets Octets := do
  match finderOf ⟨false, false, true⟩ false pattern with
  | .error message => throw message.toList
  | .ok f =>
    match f.matchAt? text.toArray 0 with
    | some (stop, groups) =>
      if f.groups = 0 then return decimal stop
      return pieceOf text.toArray (groups[1]?).join
    | none => return if f.groups = 0 then ['0'] else []

/-- A truth value. -/
def truthText (b : Bool) : Octets := if b then ['1'] else ['0']

/-- The value of an operator between two values. -/
def exprApply (op a b : Octets) : Except Octets Octets := do
  let order : Ordering := match wholeNumber? a, wholeNumber? b with
    | some n, some m => compare n m
    | _, _ => if a = b then .eq else if precedes a b then .lt else .gt
  let calculate (f : Int → Int → Int) (divides : Bool) : Except Octets Octets := do
    match wholeNumber? a, wholeNumber? b with
    | some n, some m =>
      if divides && m = 0 then throw "division by zero".toList
      return decimal (f n m)
    | _, _ => throw "non-integer argument".toList
  match String.ofList op with
  | "|" => return if !isNothing a then a else if isNothing b then ['0'] else b
  | "&" => return if isNothing a || isNothing b then ['0'] else a
  | "=" | "==" => return truthText (order == .eq)
  | "!=" => return truthText (order != .eq)
  | "<" => return truthText (order == .lt)
  | "<=" => return truthText (order != .gt)
  | ">" => return truthText (order == .gt)
  | ">=" => return truthText (order != .lt)
  | "+" => calculate (· + ·) false
  | "-" => calculate (· - ·) false
  | "*" => calculate (· * ·) false
  | "/" => calculate Int.tdiv true
  | "%" => calculate Int.tmod true
  | _ => matchedText a b

/-- The part of a text from a position on, which is counted from one, of so many characters. -/
def partOfText (text start count : Octets) : Octets :=
  match wholeNumber? start, wholeNumber? count with
  | some start, some count =>
    if start < 1 ∨ count < 1 then [] else (text.drop (start.toNat - 1)).take count.toNat
  | _, _ => []

/-- The position of the first character of a text that is one of some, or zero. -/
def firstOf (text chars : Octets) : Nat :=
  match text.findIdx? (chars.contains ·) with
  | some i => i + 1
  | none => 0

/-- Reads a word, or a function of words; `inner` reads what stands in parentheses. -/
def exprValue (inner : Bool → ExprReading Octets) (counts : Bool) : Nat → ExprReading Octets
  | 0 => throw "syntax error".toList
  | bound + 1 => do
    let operand := exprValue inner counts bound
    match String.ofList (← nextExprWord) with
    | "+" => nextExprWord
    | "length" => return decimal (← operand).length
    | "match" =>
      let text ← operand
      let pattern ← operand
      if counts then matchedText text pattern else return text
    | "index" =>
      let text ← operand
      return decimal (firstOf text (← operand))
    | "substr" =>
      let text ← operand
      let start ← operand
      return partOfText text start (← operand)
    | "(" =>
      let value ← inner counts
      let s ← get
      match s.rest with
      | [] => throw ("syntax error: expecting ')' after ".toList ++ quotedName s.last)
      | [')'] :: rest =>
        set (ExprWords.mk rest [')'])
        return value
      | o :: _ => throw ("syntax error: expecting ')' instead of ".toList ++ quotedName o)
    | ")" => throw "syntax error: unexpected ')'".toList
    | word => return word.toList

/-- Whether the right operand counts, where the left one has a value. -/
def rightCounts (op left : Octets) : Bool :=
  match op with
  | ['|'] => isNothing left
  | ['&'] => !isNothing left
  | _ => true

/-- Reads operators that bind at least so tightly, at most so many and nested so deep; where the
value does not count, nothing is calculated. -/
def readExpr (counts : Bool) : Nat → Nat → ExprReading Octets
  | 0, _ => throw "syntax error".toList
  | bound + 1, least => do
    let first ← exprValue (fun counts => readExpr counts bound 0) counts (bound + 1)
    operators bound least first
where
  /-- Reads operators behind a left operand. -/
  operators : Nat → Nat → Octets → ExprReading Octets
    | 0, _, left => return left
    | bound + 1, least, left => do
      let s ← get
      match s.rest with
      | op :: rest =>
        match exprBinding? op with
        | some binding =>
          if binding < least then return left
          set (ExprWords.mk rest op)
          let right ← readExpr (counts && rightCounts op left) bound (binding + 1)
          if !counts && !(op = ['|'] || op = ['&']) then operators bound least left
          else match exprApply op left right with
            | .ok value => operators bound least value
            | .error message => throw message
        | none => return left
      | [] => return left

def expr (args : List Octets) : Act Nat := do
  let words := if args.head? = some ['-', '-'] then args.tail else args
  if words.isEmpty then
    let _ ← failWithHelp "expr" "missing operand".toList
    return 2
  match (readExpr true (2 * words.length + 2) 0).run ⟨words, []⟩ with
  | .ok (value, ⟨[], _⟩) => printing (if isNothing value then 1 else 0) (value ++ ['\n'])
  | .ok (_, ⟨word :: _, _⟩) =>
    complainAs "expr" ("syntax error: unexpected argument ".toList ++ quotedName word)
    return 2
  | .error message =>
    complainAs "expr" message
    return 2

/-! ## 5. Waiting -/

/-- Waits, which takes no time here; only the intervals are checked. -/
def sleep (args : List Octets) : Act Nat := do
  let isInterval (o : Octets) : Bool :=
    match numeralAt? o with
    | some (x, rest) => !x.negative && ["", "s", "m", "h", "d"].any (·.toList == rest)
    | none => false
  match args, args.find? fun o => !isInterval o with
  | [], _ => failWithHelp "sleep" "missing operand".toList
  | _, none => return 0
  | _, some o => failWithHelp "sleep" ("invalid time interval ".toList ++ quotedName o)

end PassContext.Shell.Utility
