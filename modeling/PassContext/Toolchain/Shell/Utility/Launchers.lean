/-
# Programs that run others

Some programs run another program in a changed environment, or with arguments that they read.
-/
import PassContext.Toolchain.Shell.Executable
import PassContext.Toolchain.Shell.Utility.Options

namespace PassContext.Shell.Utility

/-- What runs a program with arguments, if there is one with the name. -/
abbrev Launcher := Octets → List Octets → Act (Except Unrunnable Ended)

/-! ## 1. The environment -/

/-- The variables that programs get, with their values, in order. -/
def environment : Act (List (Octets × Octets)) := do
  return (← process).bindings.reverse.filterMap fun (name, v) =>
    if v.exported then v.value.map fun value => (name, value) else none

/-- Gives a variable that programs get another value, in its place. -/
def setInEnvironment (name value : Octets) : Act Unit :=
  modifyProcess fun p =>
    let v : Variable := ⟨some value, true, false⟩
    { p with bindings :=
        if (p.bindings.lookup name).isSome then
          p.bindings.map fun (n, old) => (n, if n = name then v else old)
        else (name, v) :: p.bindings }

/-- Prints variables with their values. -/
def printVariables (entries : List (Octets × Octets)) : Act Nat :=
  printing 0 (joinLines (entries.map fun (name, value) => name ++ '=' :: value))

/-- Runs a program in a changed environment, or prints the environment. -/
def env (run : Launcher) (args : List Octets) : Act Nat :=
  let known : Known := ⟨"iu:", [("ignore-environment", 'i'), ("unset", 'u')], false⟩
  withOptions "env" known 125 args fun given => do
    let isKept (name : Octets) : Bool := !given.has 'i' && !(given.values 'u').contains name
    modifyProcess fun p => { p with bindings := p.bindings.filter fun (n, _) => isKept n }
    let sets := given.operands.takeWhile (·.contains '=')
    sets.forM fun o =>
      setInEnvironment (o.takeWhile (· ≠ '=')) ((o.dropWhile (· ≠ '=')).drop 1)
    match given.operands.drop sets.length with
    | [] => printVariables (← environment)
    | name :: args =>
      match ← run name args with
      | .ok (.exit status) => return status
      | .ok (.killed s) => throw (.killed s)
      | .error why =>
        complainAs "env" (quotedName name ++ ": ".toList ++ why.shown.toList)
        return if why.isAbsence then 127 else 126

/-- Prints the values of variables that programs get, or all of them. -/
def printenv (args : List Octets) : Act Nat :=
  withOptions "printenv" ⟨"", [], false⟩ 2 args fun given => do
    let known ← environment
    if given.operands.isEmpty then return ← printVariables known
    let values := given.operands.map fun name => known.lookup name
    printing (if values.all Option.isSome then 0 else 1) (joinLines (values.filterMap id))

/-! ## 2. Arguments that are read -/

/-- What is read of arguments before something stands in the way, and what does. -/
structure ReadArgs where
  args : List Octets
  fault? : Option String

/-- The complaint about a quote that is not closed. -/
def unmatchedQuote (c : Char) : String :=
  "unmatched " ++ (if c = '"' then "double" else "single") ++
    " quote; by default quotes are special to xargs unless you use the -0 option"

/-- Reads arguments between white space, in which quotes and backslashes keep characters from
having a meaning; `wholeLines` tells that blanks do not end an argument.  The argument that has
begun is given from its end.  At most so many characters are read. -/
def readArgs (wholeLines : Bool) : Nat → Option Octets → Octets → ReadArgs
  | 0, _, _ => ⟨[], none⟩
  | _, none, [] | _, some [], [] => ⟨[], none⟩
  | _, some w, [] => ⟨[w.reverse], none⟩
  | bound + 1, none, c :: rest =>
    if isSpace c then readArgs wholeLines bound none rest
    else readArgs wholeLines bound (some []) (c :: rest)
  | bound + 1, some w, c :: rest =>
    if c = '\n' ∨ (isBlank c ∧ !wholeLines) then
      let more := readArgs wholeLines bound none rest
      { more with args := w.reverse :: more.args }
    else if c = '\\' then
      readArgs wholeLines bound (some (rest.take 1 ++ w)) (rest.drop 1)
    else if c = '\'' ∨ c = '"' then
      let inside := rest.takeWhile fun d => d ≠ c ∧ d ≠ '\n'
      let rest := rest.drop inside.length
      if rest.head? = some c then
        readArgs wholeLines bound (some (inside.reverse ++ w)) (rest.drop 1)
      else ⟨[], some (unmatchedQuote c)⟩
    else readArgs wholeLines bound (some (c :: w)) rest

/-- Groups of arguments in order, so many in each. -/
def groupedBy (count : Nat) : Nat → List Octets → List (List Octets)
  | 0, _ => []
  | _, [] => []
  | bound + 1, args => args.take count :: groupedBy count bound (args.drop count)

/-- A text in which another one stands in place of each occurrence of a third, which is not
empty. -/
def replacedIn (old new : Octets) : Nat → Octets → Octets
  | 0, o => o
  | _, [] => []
  | bound + 1, c :: rest =>
    if old.isPrefixOf (c :: rest) then new ++ replacedIn old new bound ((c :: rest).drop old.length)
    else c :: replacedIn old new bound rest

/-- Runs commands one after the other, and gives the status that tells how they ended. -/
def runGathered (run : Launcher) : Nat → List (List Octets) → Act Nat
  | status, [] => return status
  | status, command :: rest => do
    let name := command.headD []
    match ← run name command.tail with
    | .ok (.exit 0) => runGathered run status rest
    | .ok (.exit 255) =>
      complainAs "xargs" (name ++ ": exited with status 255; aborting".toList)
      return 124
    | .ok (.exit _) => runGathered run 123 rest
    | .ok (.killed s) =>
      complainAs "xargs" (name ++ ": terminated by signal ".toList ++ decimal s.number)
      return 125
    | .error why =>
      complainAs "xargs" (name ++ ": ".toList ++ why.shown.toList)
      return if why.isAbsence then 127 else 126

/-- Runs a program with arguments that stand in the standard input: with all of them at once, with
so many at a time, or with each line in place of a mark. -/
def xargs (run : Launcher) (args : List Octets) : Act Nat :=
  let known : Known := ⟨"0I:n:r", [("null", '0'), ("max-args", 'n'), ("no-run-if-empty", 'r')],
    false⟩
  withOptions "xargs" known 1 args fun given => do
    let text := (← read? 0 false).getD []
    let mark := given.value? 'I'
    let input : ReadArgs :=
      if given.has '0' then ⟨(text.splitOn '\x00').filter (· ≠ []), none⟩
      else readArgs mark.isSome (2 * text.length + 2) none text
    let command := if given.operands.isEmpty then ["echo".toList] else given.operands
    let all := input.args
    let groups := match given.value? 'n' with
      | some n => groupedBy (max 1 (valueOf 10 n)) all.length all
      | none => if all.isEmpty then [] else [all]
    let groups := if groups.isEmpty && !given.has 'r' && input.fault?.isNone then [[]] else groups
    let commands := match mark with
      | some old => all.map fun arg =>
        command.take 1 ++ command.tail.map fun o => replacedIn old arg (o.length + 1) o
      | none => groups.map (command ++ ·)
    setHandle 0 (some (.device .null))
    let status ← runGathered run 0 commands
    match input.fault? with
    | some message => if status < 124 then failAs "xargs" message.toList else return status
    | none => return status

end PassContext.Shell.Utility
