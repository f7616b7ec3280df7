/-
# Looking for lines

A program prints the lines of texts that some expression matches, or those that none does.  It may
print only the pieces that match, count lines, or name files.
-/
import PassContext.Toolchain.Shell.Regex.Reader
import PassContext.Toolchain.Shell.Utility.Options

namespace PassContext.Shell.Utility

/-! ## 1. Expressions -/

/-- The options of the program. -/
def grepOptions : Known :=
  ⟨"EFGHce:hilm:noqsvwx", [("extended-regexp", 'E'), ("fixed-strings", 'F'), ("basic-regexp", 'G'),
    ("with-filename", 'H'), ("count", 'c'), ("regexp", 'e'), ("no-filename", 'h'),
    ("ignore-case", 'i'), ("files-with-matches", 'l'), ("max-count", 'm'), ("line-number", 'n'),
    ("only-matching", 'o'), ("quiet", 'q'), ("silent", 'q'), ("no-messages", 's'),
    ("invert-match", 'v'), ("word-regexp", 'w'), ("line-regexp", 'x')], true⟩

/-- What looks for one expression. -/
def grepFinder (given : Given) (o : Octets) : Except String Finder := do
  let f ← if given.has 'F' then
      pure ⟨.ofList (o.map .char), 0, false, given.has 'i'⟩
    else finderOf ⟨given.has 'E', false, false⟩ (given.has 'i') o
  let around (first last : Edge) : Regex := .seq (.edge first) (.seq f.regex (.edge last))
  let regex :=
    if given.has 'x' then around .textStart .textEnd
    else if given.has 'w' then around .noWordBefore .noWordBehind
    else f.regex
  return { f with regex }

/-- The first match of some expressions in a line at or behind a place, and of those that begin
there the longest. -/
def firstAmong (finders : List Finder) (line : Array Char) (start : Nat) : Option (Nat × Nat) :=
  finders.foldl (fun best f =>
    match best, f.find? line start with
    | none, found => found.map fun (i, j, _) => (i, j)
    | some (i, j), some (i', j', _) =>
      if i' < i ∨ (i' = i ∧ j < j') then some (i', j') else some (i, j)
    | best, none => best) none

/-- The matches in a line that are not empty, one behind the other, at most so many. -/
def matchesIn (finders : List Finder) (line : Array Char) : Nat → Nat → List (Nat × Nat)
  | 0, _ => []
  | bound + 1, start =>
    match firstAmong finders line start with
    | none => []
    | some (i, j) =>
      if i < j then (i, j) :: matchesIn finders line bound j
      else matchesIn finders line bound (j + 1)

/-! ## 2. Lines -/

/-- The lines that are looked for, behind their numbers. -/
def wantedLines (given : Given) (finders : List Finder) (text : Octets) : List (Nat × Octets) :=
  let found (line : Octets) : Bool := (firstAmong finders line.toArray 0).isSome
  let lines := ((linesOf text).zipIdx 1).filter fun (line, _) => found line != given.has 'v'
  let most := ((given.value? 'm').bind (natural? 10)).elim lines.length (·.1)
  (lines.take most).map fun (line, n) => (n, line)

/-- What is printed of a text, where a name may stand in front of lines. -/
def grepReport (given : Given) (finders : List Finder) (front name : Octets)
    (lines : List (Nat × Octets)) : Octets :=
  if given.has 'q' then []
  else if given.has 'l' then (if lines.isEmpty then [] else name ++ ['\n'])
  else if given.has 'c' then front ++ decimal lines.length ++ ['\n']
  else
    lines.flatMap fun (n, line) =>
      let front := front ++ if given.has 'n' then decimal n ++ [':'] else []
      if !given.has 'o' then front ++ line ++ ['\n']
      else if given.has 'v' then []
      else
        (matchesIn finders line.toArray (line.length + 1) 0).flatMap fun (i, j) =>
          front ++ (line.toArray.extract i j).toList ++ ['\n']

/-! ## 3. The program -/

/-- Complains, shows how the program is used, and gives its status. -/
def grepUsage (message : Octets) : Act Nat := do
  if message ≠ [] then complainAs "grep" message
  let usage := "Usage: grep [OPTION]... PATTERNS [FILE]...\n"
  let _ ← write 2 (usage ++ "Try 'grep --help' for more information.\n").toList
  return 2

def grep (args : List Octets) : Act Nat := do
  match grepOptions.read args with
  | .error message => grepUsage message
  | .ok given =>
    let (patterns, operands) : List Octets × List Octets :=
      match given.values 'e', given.operands with
      | [], pattern :: operands => ([pattern], operands)
      | patterns, operands => (patterns, operands)
    if patterns.isEmpty then return ← grepUsage []
    match (patterns.flatMap (·.splitOn '\n')).mapM (grepFinder given) with
    | .error message =>
      complainAs "grep" message.toList
      return 2
    | .ok finders =>
      let operands := if operands.isEmpty then [['-']] else operands
      let named := given.has 'H' || (1 < operands.length && !given.has 'h')
      let (found, failed) ← operands.foldlM (fun (found, failed) operand => do
        let name := if operand = ['-'] then "(standard input)".toList else operand
        match ← contentsOf operand with
        | .error reason =>
          if !given.has 's' then complainAs "grep" (name ++ ": ".toList ++ reason.toList)
          return (found, true)
        | .ok text =>
          let lines := wantedLines given finders text
          let front := if named then name ++ [':'] else []
          let _ ← write 1 (grepReport given finders front name lines)
          return (found || !lines.isEmpty, failed)) (false, false)
      return if failed && !(found && given.has 'q') then 2 else if found then 0 else 1

end PassContext.Shell.Utility
