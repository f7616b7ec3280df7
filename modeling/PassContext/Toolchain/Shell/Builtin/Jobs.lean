/-
# Commands about signals and other processes

Signals are sent and met, and the processes in the background are told and waited for.
-/
import PassContext.Toolchain.Shell.Builtin.Arguments

namespace PassContext.Shell.Builtin

/-! ## 1. Background processes by name -/

/-- The background process that an argument names: by its rank, or as the last one or the one
before it. -/
def findJob (o : Option Octets) : Act Job := do
  let jobs := (← process).jobs
  let shown := o.getD "(null)".toList
  let found (j : Option Job) (message : Octets) : Act Job :=
    match j with
    | some j => return j
    | none => fail message
  match o with
  | none | some ['%'] | some ['%', '%'] | some ['%', '+'] =>
    found jobs.head? "No current job".toList
  | some ['%', '-'] => found jobs[1]? "No previous job".toList
  | some ('%' :: digits) =>
    let rank := if digits.all Char.isDigit then valueOf 10 digits else 0
    found (jobs.find? (·.rank == rank)) ("No such job: ".toList ++ shown)
  | _ => fail ("No such job: ".toList ++ shown)

/-- The rank of a new background process: the least that no other one has.  One that has been
waited for and has ended gives its rank up. -/
def freeRank : Act Nat := do
  let jobs := (← process).jobs
  let ended := (← get).ended
  let holds (rank : Nat) : Bool := jobs.any fun j =>
    j.rank = rank && !(j.waitedFor && (ended.lookup j.number).isSome)
  let rank := ((List.range (jobs.length + 1)).map (· + 1)).find? (!holds ·)
  let rank := rank.getD (jobs.length + 1)
  modifyProcess fun p => { p with jobs := p.jobs.filter (·.rank != rank) }
  return rank

/-! ## 2. Sending signals -/

/-- Lets a signal that is not ignored do what it does to a shell. -/
def meet (s : Signal) : Act Unit := do
  if s.name = "KILL" || ((← process).traps.lookup s.number).isNone then throw (.killed s)
  modifyProcess fun p => { p with pending := p.pending ++ [s.number] }

/-- Lets the signals do what they do that parts of the shell have sent to it. -/
def meetArrived : Act Unit := do
  let p ← process
  if p.shellTraps.isNone then
    let (own, others) := (← get).arrived.partition (·.1 == p.number)
    modify fun s => { s with arrived := others }
    own.reverse.forM fun (_, s) => meet s

/-- Sends a signal to the shell that the process is, or is a part of. -/
def receive (s : Signal) : Act Unit := do
  let p ← process
  let isIgnored := p.ignored.contains s.number ||
    match (p.shellTraps.getD p.traps).lookup s.number with
    | some script => script = []
    | none => s.isHarmless
  if s.name ≠ "KILL" && isIgnored then return
  if p.shellTraps.isNone then meet s
  else modify fun state => { state with arrived := (p.number, s) :: state.arrived }

/-- Sends a signal to processes, of which only the process itself and the background processes
that wait are there. -/
def sendTo (s : Signal) (targets : List Octets) : Act Nat := do
  let statuses ← targets.mapM fun o => do
    if o.head? = some '%' then
      let _ ← findJob (some o)
      complain "No such process\n".toList
      return 1
    let n ← countArg (if o.head? = some '-' then o.tail else o)
    if o.head? ≠ some '-' && (n = 0 || n = (← process).number) then
      receive s
      return 0
    if (← get).waiting.any fun w => n = w.number then
      if !s.isHarmless then
        modify fun state =>
          { state with
            waiting := state.waiting.filter fun w => n ≠ w.number
            ended := (n, .killed s) :: state.ended }
      return 0
    complain "No such process\n".toList
    return 1
  return statuses.foldl max 0

/-- Prints the names of all signals, or of the one that a status tells. -/
def listSignals (statuses : List Octets) : Act Nat := do
  match statuses with
  | [] =>
    let names := (signals.drop 1).map fun s => s.name.toList ++ ['\n']
    print "kill".toList ("0\n".toList ++ names.flatten)
  | o :: _ =>
    let n ← countArg o
    match (signals.drop 1).find? (·.number == if 128 < n then n - 128 else n) with
    | some s => print "kill".toList (s.name.toList ++ ['\n'])
    | none => fail ("invalid signal number or exit status: ".toList ++ o)

/-- The signal that an option asks for; a script cannot send its own end. -/
def sentSignal? (o : Octets) : Option Signal :=
  (signal? o).filter fun s => s.number ≠ 0 || o.all Char.isDigit

/-- What the options in front of processes ask for: a list of names, and the signal to be sent. -/
def killOptions : List Octets → Act (Bool × Option Signal × List Octets)
  | [] => return (false, none, [])
  | o :: rest => do
    let named (name : Octets) : Act Signal :=
      match sentSignal? name with
      | some s => return s
      | none => fail ("invalid signal number or name: ".toList ++ name)
    match o with
    | ['-', '-'] => return (false, none, rest)
    | '-' :: c :: cs =>
      let front := (c :: cs).takeWhile (· == 'l')
      match (c :: cs).drop front.length with
      | [] =>
        let (_, s, targets) ← killOptions rest
        return (true, s, targets)
      | ['s'] =>
        match rest with
        | [] => fail "No arg for -s option".toList
        | name :: rest =>
          let given ← named name
          let (lists, s, targets) ← killOptions rest
          return (lists || !front.isEmpty, some (s.getD given), targets)
      | 's' :: name =>
        let given ← named name
        let (lists, s, targets) ← killOptions rest
        return (lists || !front.isEmpty, some (s.getD given), targets)
      | letter :: _ => badOption letter
    | o => return (false, none, o :: rest)

def kill (args : List Octets) : Act Nat := do
  let (lists, s, targets) ← match args with
    | ('-' :: name) :: rest =>
      match sentSignal? name with
      | some s => pure (false, some s, rest)
      | none => killOptions args
    | args => pure (false, none, args)
  if lists && (s.isNone || targets.isEmpty) then return ← listSignals targets
  if lists || targets.isEmpty then
    fail ("Usage: kill [-s sigspec | -signum | -sigspec] [pid | job]... or\n" ++
      "kill -l [exitstatus]").toList
  sendTo (s.getD ⟨15, "TERM", "Terminated"⟩) targets

/-! ## 3. Meeting signals -/

/-- Says what is run at signals. -/
def showTraps : Act Nat := do
  let traps := (← process).traps
  let shown := signals.flatMap fun s =>
    match traps.lookup s.number with
    | some script => "trap -- ".toList ++ requoted script ++ ' ' :: s.name.toList ++ ['\n']
    | none => []
  print "trap".toList shown

/-- Sets what is run at signals, up to a name that is none. -/
def setTraps (script : Option Octets) : List Octets → Act Nat
  | [] => return 0
  | name :: names => do
    match signal? name with
    | none =>
      let _ ← write 2 ("trap: ".toList ++ name ++ ": bad trap\n".toList)
      return 1
    | some s =>
      let others := (← process).traps.filter (·.1 != s.number)
      modifyProcess fun p =>
        { p with traps := match script with
            | some script => (s.number, script) :: others
            | none => others }
      setTraps script names

def trap (args : List Octets) : Act Nat := do
  let (_, args) ← optionsOf [] args
  match args with
  | [] => showTraps
  | first :: rest =>
    let (script, names) : Option Octets × List Octets :=
      if rest.isEmpty then (none, args)
      else if first = ['-'] then (none, rest)
      else if (numberedSignal? first).isSome then (none, args)
      else (some first, rest)
    setTraps script names

/-! ## 4. Telling of background processes -/

/-- What is said of how a background process is doing. -/
def standing (e : Option Ended) : Octets :=
  match e with
  | none => "Running".toList
  | some (.exit 0) => "Done".toList
  | some (.exit status) => "Done(".toList ++ decimal status ++ [')']
  | some (.killed s) => s.death.toList

/-- Tells of a background process, which is forgotten if it has ended. -/
def showJob (letters : List Char) (j : Job) : Act Unit := do
  let state := (← get).ended.lookup j.number
  let jobs := (← process).jobs
  let mark := if jobs.head? = some j then '+' else if jobs[1]? = some j then '-' else ' '
  let front := '[' :: decimal j.rank ++ [']', ' ', mark, ' ']
  let number := if letters.contains 'l' then decimal j.number ++ [' '] else []
  let line := front ++ number ++ standing state
  let blanks := List.replicate (33 - line.length) ' '
  let shown := if letters.contains 'p' then decimal j.number else line ++ blanks
  let _ ← write 1 (shown ++ ['\n'])
  if state.isSome then
    modifyProcess fun p => { p with jobs := p.jobs.filter (· != j) }

def showJobs (args : List Octets) : Act Nat := do
  let (letters, args) ← optionsOf ['l', 'p'] args
  let jobs ← if args.isEmpty then pure (← process).jobs else args.mapM fun o => findJob (some o)
  jobs.forM (showJob letters)
  return 0

/-- Brings background processes to the front or lets them go on, which scripts cannot. -/
def moveJob (all : Bool) (args : List Octets) : Act Nat := do
  let (_, args) ← optionsOf [] args
  let names := if args.isEmpty then [none] else args.map some
  (if all then names else names.take 1).forM fun o => do
    let _ ← findJob o
    let shown := o.getD "(null)".toList
    fail ("job ".toList ++ shown ++ " not created under job control".toList)
  return 0

/-- Tells how background processes have ended; those that are not known count as not found. -/
def endings (args : List Octets) : Act Nat := do
  let (_, args) ← optionsOf [] args
  let waited (number : Nat) : Act Unit :=
    modifyProcess fun p =>
      { p with jobs := p.jobs.map fun j =>
          if j.number = number then { j with waitedFor := true } else j }
  if args.isEmpty then (← process).jobs.forM fun j => waited j.number
  let statuses ← args.mapM fun o => do
    let number ← if o.head? = some '%' then do pure (← findJob (some o)).number else countArg o
    if !(← process).jobs.any (·.number == number) then return 127
    waited number
    match (← get).ended.lookup number with
    | none => return 127
    | some (.exit status) => return status
    | some (.killed s) =>
      let _ ← write 2 (s.death.toList ++ ['\n'])
      return 128 + s.number
  return statuses.getLast?.getD 0

/-- Tells how long the process and those that it began have run; no time passes here. -/
def showTimes (_ : List Octets) : Act Nat :=
  let line := "0m0.000000s 0m0.000000s\n".toList
  print "times".toList (line ++ line)

end PassContext.Shell.Builtin
