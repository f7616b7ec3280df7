/-
# Commands about places

Conditions, the directory of the process, and what is held back of the rights on new files.
-/
import PassContext.Toolchain.Shell.Builtin.Arguments
import PassContext.Toolchain.Shell.Rights
import PassContext.Toolchain.Shell.Test

namespace PassContext.Shell.Builtin

/-! ## 1. Conditions -/

def test (args : List Octets) : Act Nat := return statusOf (← testHolds args)

/-- The test whose last argument has to be a closing bracket. -/
def bracket (args : List Octets) : Act Nat := do
  if args.getLast? = some [']'] then test args.dropLast else fail "missing ]".toList

/-! ## 2. Directories -/

/-- A path without dots and needless slashes, seen from a directory.  Names above the root are
dropped, and two slashes in front of a path are kept. -/
def plainPath (directory path : Octets) : Octets :=
  let isWhole := path.head? = some '/'
  let whole := if isWhole then path else directory ++ '/' :: path
  let root := match if isWhole then path else directory with
    | '/' :: '/' :: '/' :: _ => ['/']
    | '/' :: '/' :: _ => ['/', '/']
    | _ => ['/']
  let names := (whole.splitOn '/').foldl (fun names name =>
    if name = [] ∨ name = ['.'] then names
    else if name = ['.', '.'] then names.dropLast
    else names ++ [name]) []
  root ++ ['/'].intercalate names

/-- The directory that the path of a place leads to, without links. -/
def physicalPath (directory : Octets) : Act Octets := do
  match ← place directory with
  | .directory path => return path
  | _ => return directory

/-- Goes to a directory, if there is one. -/
def goTo (physically : Bool) (target : Octets) : Act Bool := do
  let p ← process
  let plain := plainPath p.directory target
  match ← place (if physically then target else plain) with
  | .directory path =>
    let directory := if physically then path else plain
    let oldValue := p.directory
    changeVariable "OLDPWD".toList fun _ => some ⟨some oldValue, true, false⟩
    changeVariable "PWD".toList fun _ => some ⟨some directory, true, false⟩
    modifyProcess fun p => { p with directory }
    return true
  | _ => return false

/-- The paths that a target may have, in the order in which they are tried: those in the
directories of a list in front of the target itself, unless the target says where it begins. -/
def targetPaths (target : Octets) : Act (List Octets) := do
  let isFixed := match target with
    | '/' :: _ | ['.'] | '.' :: '/' :: _ | ['.', '.'] | '.' :: '.' :: '/' :: _ => true
    | _ => false
  match isFixed, ← value? "CDPATH".toList with
  | false, some list =>
    return (list.splitOn ':').map fun directory =>
      if directory = [] then target else directory ++ '/' :: target
  | _, _ => return []

def changeDirectory (args : List Octets) : Act Nat := do
  let (letters, args) ← optionsOf ['L', 'P'] args
  let physically := letters.getLast? = some 'P'
  let (target, shows) ← match args with
    | ['-'] :: _ => pure ((← value? "OLDPWD".toList).getD [], true)
    | target :: _ => pure (target, false)
    | [] => pure ((← value? "HOME".toList).getD [], false)
  let target := if target = [] then ['.'] else target
  let found ← (← targetPaths target).findM? fun path => return (← place path).isDirectory
  let path := found.getD target
  if !(← goTo physically path) then fail ("can't cd to ".toList ++ target)
  if shows || path ≠ target then
    let _ ← print "cd".toList ((← process).directory ++ ['\n'])
  return 0

def printDirectory (args : List Octets) : Act Nat := do
  let (letters, _) ← optionsOf ['L', 'P'] args
  let directory := (← process).directory
  let shown ← if letters.getLast? = some 'P' then physicalPath directory else pure directory
  print "pwd".toList (shown ++ ['\n'])

/-! ## 3. Rights -/

/-- Prints or sets the rights that new files lack. -/
def fileMask (args : List Octets) : Act Nat := do
  let (letters, args) ← optionsOf ['S'] args
  let mask := (← process).mask
  let held := 511 - mask
  match args with
  | [] =>
    let shown := if letters.isEmpty then Rights.digits mask else Rights.shown held
    print "umask".toList (shown ++ ['\n'])
  | o :: _ =>
    if o.head?.any Char.isDigit then
      if !o.all (isDigitOf 8) then badNumber o
      modifyProcess fun p => { p with mask := valueOf 8 o % 512 }
      return 0
    match Rights.changes? held o with
    | some mode =>
      modifyProcess fun p => { p with mask := 511 - mode % 512 }
      return 0
    | none => fail ("Illegal mode: ".toList ++ o)

/-! ## 4. Limits -/

/-- What there may be limits on, by the letters of options, with the count of units in one unit of
the system. -/
def limitedThings : List (Char × String × Nat) :=
  [('t', "time(seconds)", 1), ('f', "file(blocks)", 512), ('d', "data(kbytes)", 1024),
   ('s', "stack(kbytes)", 1024), ('c', "coredump(blocks)", 512), ('m', "memory(kbytes)", 1024),
   ('l', "locked memory(kbytes)", 1024), ('p', "process", 1), ('n', "nofiles", 1),
   ('v', "vmemory(kbytes)", 1024), ('w', "locks", 1), ('r', "rtprio", 1)]

/-- The limits at first, in the units of the system: one that a process keeps to, and the greatest
one that it may have. -/
def firstLimits (letter : Char) : Option Nat × Option Nat :=
  match letter with
  | 's' => (some 8388608, none)
  | 'c' => (some 0, none)
  | 'l' => (some 8388608, some 8388608)
  | 'n' => (some 20000, some 20000)
  | 'p' => (some 128620, some 128620)
  | 'r' => (some 0, some 0)
  | _ => (none, none)

/-- The number that a limit is set to. -/
def limitArg (o : Octets) : Act (Option Nat) := do
  if o = "unlimited".toList then return none
  if o.any (!·.isDigit) then fail "bad number".toList
  return some (valueOf 10 o)

/-- Prints or sets the limits of the process. -/
def limit (args : List Octets) : Act Nat := do
  let known := ['H', 'S', 'a'] ++ limitedThings.map (·.1)
  let (letters, args) ← optionsOf known args
  let how := (letters.filter fun c => c = 'H' || c = 'S').getLast?
  let wanted := (letters.filter fun c => c ≠ 'H' && c ≠ 'S' && c ≠ 'a').getLast?.getD 'f'
  let limits := (← process).limits
  let current (letter : Char) := (limits.lookup letter).getD (firstLimits letter)
  let shown (letter : Char) (units : Nat) : Octets :=
    let pair := current letter
    match if how = some 'H' then pair.2 else pair.1 with
    | none => "unlimited".toList
    | some n => decimal (n / units)
  let everything := letters.contains 'a'
  let units := ((limitedThings.lookup wanted).map (·.2)).getD 1
  match args with
  | [] =>
    if everything then
      let lines := limitedThings.map fun (letter, title, units) =>
        let front := title.toList ++ List.replicate (20 - title.length) ' '
        front ++ ' ' :: shown letter units ++ ['\n']
      print "ulimit".toList lines.flatten
    else print "ulimit".toList (shown wanted units ++ ['\n'])
  | o :: rest =>
    if everything || !rest.isEmpty then fail "too many arguments".toList
    let value := (← limitArg o).map (· * units)
    let (soft, hard) := current wanted
    let soft := if how = some 'H' then soft else value
    let hard := if how = some 'S' then hard else value
    let fits := match soft, hard with
      | _, none => true
      | some n, some m => n ≤ m
      | none, some _ => false
    if !fits then fail "error setting limit: Invalid argument".toList
    modifyProcess fun p =>
      { p with limits := (wanted, (soft, hard)) :: limits.filter (·.1 != wanted) }
    return 0

end PassContext.Shell.Builtin
