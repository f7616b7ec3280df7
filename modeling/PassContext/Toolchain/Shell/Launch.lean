/-
# Running programs

A program runs as a process of its own, with the variables that are marked for it and nothing else
of the script that asks for it.

Some programs run others.  What runs a program is therefore given to them, and how often they can
be nested is bounded.
-/
import PassContext.Toolchain.Shell.Builtin
import PassContext.Toolchain.Shell.Utility
import PassContext.Toolchain.Shell.Utility.Launchers

namespace PassContext.Shell

/-- What runs statements, and scripts line by line. -/
structure Runner where
  statement : Statement → Act Nat
  script : Octets → Act Nat

/-! ## 1. Shells -/

/-- The variables that a shell begins with. -/
def firstVariables (directory : Octets) : List (Octets × Variable) :=
  let plain := [("IFS", " \t\n"), ("OPTIND", "1"), ("PATH", programDirectories), ("PPID", "1"),
    ("PS1", "# "), ("PS2", "> "), ("PS4", "+ ")].map fun (name, value) =>
      (name.toList, Variable.mk (some value.toList) false false)
  plain ++ [("PWD".toList, ⟨some directory, true, false⟩)]

/-- Runs a shell in a process that has just begun. -/
def shell (r : Runner) (name : Octets) (args : List Octets) : Act Nat := do
  let number := (← get).nextNumber
  modify fun s => { s with nextNumber := number + 1 }
  modifyProcess fun p =>
    let fixed := ["IFS", "OPTIND", "PPID", "PWD"].map String.toList
    let exported := p.bindings.filter fun (n, v) => v.exported && !fixed.contains n
    let known := (firstVariables p.directory).filter fun (n, _) => (exported.lookup n).isNone
    { p with
      number, name, args := [], bindings := exported ++ known, functions := [], status := 0
      line := 0, builtin := none, tested := false, options := [], loops := 0, calls := 0
      saved := none, traps := [], shellTraps := none
      ignored := p.ignored ++ (p.traps.filter (·.2 = [])).map (·.1)
      pending := [], lastJob := none, jobs := [], aliases := [], found := []
      optionsRead := none }
  settle r.script do
    let (letters, rest) ← Builtin.setOptions ['c', 'l', 's'] args.length args
    let isScript := letters.contains 'c'
    let begin (name : Octets) (args : List Octets) (script : Octets) : Act Nat := do
      modifyProcess fun p => { p with name, args }
      r.script script
    match rest.getD [] with
    | [] =>
      if isScript then fail "-c requires an argument".toList
      begin name [] ((← read? 0 false).getD [])
    | first :: rest =>
      if isScript then begin (rest.headD name) rest.tail first
      else if letters.contains 's' then begin name (first :: rest) ((← read? 0 false).getD [])
      else match ← place first with
        | .file _ n => begin first rest (← contentOf n)
        | .descriptor n => begin first rest ((← read? n false).getD [])
        | .device _ | .directory _ => return 0
        | _ => fail ("cannot open ".toList ++ first ++ ": No such file".toList)

/-! ## 2. Processes -/

/-- What a program says when its output is lost, for a reason, and its status then. -/
def lostOutput (program : String) (reason : String) : List String × Nat :=
  let closed := reason = "Bad file descriptor"
  match program with
  | "cat" => ([if closed then "standard output: " ++ reason else "write error: " ++ reason], 1)
  | "yes" => (["standard output: " ++ reason], 1)
  | "tee" => (["'standard output': " ++ reason], 1)
  | "sed" => (["couldn't " ++ (if closed then "close" else "flush") ++ " stdout: " ++ reason], 4)
  | "sort" =>
    (["fflush failed: 'standard output': " ++ reason,
      if closed then "write error: " ++ reason else "write error"], 2)
  | "wc" => ([if closed then "write error: " ++ reason else "write error"], 1)
  | "grep" | "ls" | "printenv" => (["write error: " ++ reason], 2)
  | "expr" => (["write error: " ++ reason], 3)
  | "env" => (["write error: " ++ reason], 125)
  | _ => (["write error: " ++ reason], 1)

/-- Runs a program that is not a shell up to its end, at which it looks whether its output is
lost. -/
def toItsEnd (program : String) (a : Act Nat) : Act Nat := do
  modifyProcess fun p => { p with outputLost := false }
  let status ← a
  if !(← process).outputLost then return status
  let reason := if (← handle? 1).isNone then "Bad file descriptor" else "No space left on device"
  let (messages, failure) := lostOutput program reason
  messages.forM fun message => Utility.complainAs program message.toList
  return max status failure

/-- Runs an action as the process of a program with a name, and tells how it ends. -/
def asProgram (name : Octets) (a : Act Nat) : Act Ended := do
  let result ← attempt <| inSubshell (fun _ => return 0) do
    modifyProcess fun p => { p with name, builtin := none }
    a
  match result with
  | .ok status => return .exit status
  | .error (.killed s) => return .killed s
  | .error stop => throw stop

/-- Runs the processes that wait in the background, and those that they leave in turn. -/
def runWaiting (r : Runner) : Act Unit :=
  repeatAct (do
    let waiting := (← get).waiting
    modify fun s => { s with waiting := [] }
    waiting.forM fun w => do
      let before ← process
      modifyProcess fun _ => w.process
      let result ← attempt (settle r.script (r.statement w.body))
      modifyProcess fun _ => before
      match result with
      | .ok status => modify fun s => { s with ended := (w.number, .exit status) :: s.ended }
      | .error stop => throw stop
    return !waiting.isEmpty) maxRepetitions

/-- Prints arguments, in which escapes are carried out only if an option asks for it. -/
def plainEcho (args : List Octets) : Act Nat :=
  let isOption (o : Octets) : Bool :=
    o.length > 1 && o.head? = some '-' && o.tail.all fun c => c ∈ ['n', 'e', 'E']
  let letters := (args.takeWhile isOption).flatten
  let words := args.dropWhile isOption
  let newline := !letters.contains 'n'
  Utility.printing 0
    (if letters.contains 'e' then Builtin.echoed newline words
    else spaced words ++ (if newline then ['\n'] else []))

/-! ## 3. Launching -/

/-- The program with a name that runs others. -/
def launcher? (name : String) : Option (Utility.Launcher → List Octets → Act Nat) :=
  match name with
  | "env" => some Utility.env
  | "xargs" => some Utility.xargs
  | _ => none

/-- The program with a name that runs no others. -/
def simpleProgram? (name : String) : Option (List Octets → Act Nat) :=
  match name with
  | "echo" => some plainEcho
  | "printenv" => some Utility.printenv
  | name => Utility.utility? name <|> Builtin.regular? name.toList

/-- Runs a program under a name with arguments; so many programs may be nested. -/
def launch (r : Runner) : Nat → String → Octets → List Octets → Act Ended
  | 0, _, _, _ => throw .exhausted
  | bound + 1, program, name, args => do
    let run : Utility.Launcher := fun name args => do
      match ← findForProgram name with
      | .ok (_, program) => return .ok (← launch r bound program name args)
      | .error why => return .error why
    if program = "dash" then return ← asProgram name (shell r name args)
    if program = "sleep" then runWaiting r
    let a := match launcher? program with
      | some a => a run args
      | none => ((simpleProgram? program).getD fun _ => return 0) args
    asProgram name (toItsEnd program a)

/-- How many programs may be nested. -/
def maxPrograms : Nat := 1000

/-- Complains that a program cannot be run, and gives the status. -/
def refuseProgram (name : Octets) (why : Unrunnable) : Act Nat := do
  let reason := if why.isAbsence then "not found" else why.shown
  complain (name ++ ": ".toList ++ reason.toList)
  return if why = .denied && name.contains '/' then 126 else 127

/-- The variables that a program gets, in the order in which it gets them, in front of the others,
the last of them first. -/
def Process.ranked (p : Process) : Process :=
  let (exported, others) := p.bindings.partition (·.2.exported)
  let sorted := exported.reverse.mergeSort fun a b =>
    Builtin.listRank 39 a.1 ≤ Builtin.listRank 39 b.1
  { p with bindings := sorted.reverse ++ others }

/-- Launches a program that a script has found. -/
def launchFound (r : Runner) (program : String) (name : Octets) (args : List Octets) :
    Act Ended :=
  restoring (fun before after => { after with bindings := before.bindings }) do
    modifyProcess Process.ranked
    launch r maxPrograms program name args

/-- The status that tells how a program ended; what a signal does to it is said. -/
def statusOfEnded : Ended → Act Nat
  | .exit status => return status
  | .killed s => do
    if s.name ≠ "INT" && s.name ≠ "PIPE" then
      let _ ← write 2 (s.death.toList ++ ['\n'])
    return 128 + s.number

/-- Runs what a name stands for apart from what is built in. -/
def runExternal (r : Runner) (name : Octets) (args : List Octets) : Act Nat := do
  match ← find name with
  | .error why => refuseProgram name why
  | .ok (path, program) =>
    if !name.contains '/' then remember name path
    let _ ← Builtin.freeRank
    statusOfEnded (← launchFound r program name args)

end PassContext.Shell
