/-
# Programs for whole texts

They print texts as they are or cut short, and count what is in them.
-/
import PassContext.Toolchain.Shell.Utility.Options

namespace PassContext.Shell.Utility

/-! ## 1. As they are -/

/-- Prints texts one after the other. -/
def cat (args : List Octets) : Act Nat :=
  withOptions "cat" ⟨"", [], true⟩ 1 args fun given =>
    overOperands "cat" toldPlainly given.operands id

/-- Writes the standard input to the standard output and to files. -/
def tee (args : List Octets) : Act Nat :=
  withOptions "tee" ⟨"a", [("append", 'a')], true⟩ 1 args fun given => do
    let text := (← read? 0 false).getD []
    let _ ← write 1 text
    given.operands.foldlM (fun status path => do
      match ← openFile path (given.has 'a') with
      | .ok h =>
        modify fun s => { s with files := s.files.write h text }
        return status
      | .error p => failAs "tee" (toldPlainly path (p.refusal?.getD "Text file busy"))) 0

/-- Prints a line again and again. -/
def yes (args : List Octets) : Act Nat := do
  let line := (if args.isEmpty then ['y'] else spaced args) ++ ['\n']
  printing 0 (List.replicate (endlessCount / line.length + 1) line).flatten

/-! ## 2. Cut short -/

/-- A count that stands as an option of its own, such as `-2`, as an option with a value. -/
def countedArgs (args : List Octets) : List Octets :=
  match args with
  | ('-' :: c :: cs) :: rest =>
    if (c :: cs).all Char.isDigit then ['-', 'n'] :: (c :: cs) :: rest else args
  | args => args

/-- A refusal to read an operand that is a directory, or to open another one. -/
def toldAsUnread (operand : Octets) (reason : String) : Octets :=
  if reason = "Is a directory" then
    "error reading ".toList ++ quotedName operand ++ ": ".toList ++ reason.toList
  else "cannot open ".toList ++ quotedName operand ++ " for reading: ".toList ++ reason.toList

/-- Prints a part of each operand, behind titles if there are several. -/
def printParts (program : String) (given : Given) (part : Octets → Octets) : Act Nat := do
  let titled := 1 < given.operands.length && !given.has 'q'
  let title (isFirst : Bool) (operand : Octets) : Octets :=
    let name := if operand = ['-'] then "standard input".toList else operand
    (if isFirst then [] else ['\n']) ++ "==> ".toList ++ name ++ " <==\n".toList
  let operands := if given.operands.isEmpty then [['-']] else given.operands
  let (status, _) ← operands.foldlM (fun (status, isFirst) operand => do
    match ← contentsOf operand with
    | .ok text =>
      let _ ← write 1 ((if titled then title isFirst operand else []) ++ part text)
      return (status, false)
    | .error reason =>
      complainAs program (toldAsUnread operand reason)
      return (1, isFirst)) (0, true)
  return status

/-- Prints a part of each operand that is told by a number of lines or bytes, in front of which a
sign may stand. -/
def printCounted (program : String) (args : List Octets)
    (part : Option Char → Nat → List Octets → List Octets) : Act Nat :=
  let known : Known := ⟨"c:n:q", [("bytes", 'c'), ("lines", 'n'), ("quiet", 'q')], true⟩
  withOptions program known 1 (countedArgs args) fun given => do
    let (unit, amount) := (given.last? ['n', 'c']).getD ('n', "10".toList)
    let sign := amount.head?.filter fun c => c = '-' || c = '+'
    match natural? 10 (amount.drop sign.toList.length) with
    | some (n, []) =>
      printParts program given fun text =>
        (part sign n (if unit = 'n' then wholeLines text else text.map ([·]))).flatten
    | _ =>
      let noun := if unit = 'n' then "lines" else "bytes"
      failAs program ("invalid number of ".toList ++ noun.toList ++ ": ".toList ++
        quotedName amount)

/-- The first lines or bytes; a count behind a minus sign leaves so many at the end. -/
def head (args : List Octets) : Act Nat :=
  printCounted "head" args fun sign n pieces =>
    pieces.take (if sign = some '-' then pieces.length - n else n)

/-- The last lines or bytes; a count behind a plus sign is where to begin. -/
def tail (args : List Octets) : Act Nat :=
  printCounted "tail" args fun sign n pieces =>
    pieces.drop (if sign = some '+' then n - 1 else pieces.length - n)

/-! ## 3. Counted -/

/-- How many words a text has. -/
def wordCount : Bool → Octets → Nat
  | _, [] => 0
  | inside, c :: rest =>
    if isSpace c then wordCount false rest
    else (if inside then 0 else 1) + wordCount true rest

/-- Counts in texts: each of them, and all together. -/
def wc (args : List Octets) : Act Nat :=
  let known : Known := ⟨"clmw", [("bytes", 'c'), ("chars", 'm'), ("lines", 'l'), ("words", 'w')],
    true⟩
  withOptions "wc" known 1 args fun given => do
    let wanted (letter : Char) : Bool :=
      if given.options.isEmpty then letter ≠ 'm' else given.has letter
    let counts (text : Octets) : List Nat :=
      (if wanted 'l' then [text.count '\n'] else []) ++
      (if wanted 'w' then [wordCount false text] else []) ++
      (if wanted 'm' then [text.length] else []) ++ (if wanted 'c' then [text.length] else [])
    let (texts, status) ← readNamed "wc" toldPlainly 1 given.operands
    let rows := texts.map fun (name, text) => (name, counts text)
    let total := rows.foldl (fun sums (_, row) => List.zipWith (· + ·) sums row) (counts [])
    let rows := if 1 < given.operands.length then rows ++ [("total".toList, total)] else rows
    -- The length of the standard input is not known beforehand, which makes the counts wide.
    let readsInput := given.operands.isEmpty || given.operands.contains ['-']
    let size : Nat := (texts.map (·.2.length)).foldl (· + ·) 0
    let width :=
      if given.operands.length ≤ 1 ∧ (counts []).length = 1 then 1
      else if readsInput then 7 else (decimal size).length
    printing status <| rows.flatMap fun (name, row) =>
      spaced (row.map fun (n : Nat) => rightAligned width (decimal n)) ++
        (if given.operands.isEmpty then [] else ' ' :: name) ++ ['\n']

end PassContext.Shell.Utility
