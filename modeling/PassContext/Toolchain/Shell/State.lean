/-
# What a script runs in

A script runs in a process, which has variables, functions and descriptors of its own, and among
files, which all processes share.  A subshell is a process that begins as a copy: what it does to
itself is gone when it ends, and what it does to files stays.

A process stops in one of several ways before its last statement; loops, functions and subshells
each bring one kind of stop to an end.
-/
import PassContext.Toolchain.Shell.Signal
import PassContext.Toolchain.Shell.Tree

namespace PassContext.Shell

/-! ## 1. Files -/

/-- A device that descriptors may lead to. -/
inductive Device
  /-- Swallows everything and gives nothing. -/
  | null
  /-- Swallows everything and gives zeros without end. -/
  | zeros
  /-- Gives zeros without end and takes nothing. -/
  | full
  /-- Cannot be opened, because scripts run without one. -/
  | terminal
deriving DecidableEq, Repr

/-- Where a descriptor leads. -/
inductive Handle
  | device (d : Device)
  /-- To a directory, from which nothing can be read as from a file. -/
  | directory
  /-- To a file, from a position that all copies of the descriptor share. -/
  | opened (number : Nat)
deriving DecidableEq, Repr

/-- A file that has been opened, and the position from which it is read and written. -/
structure OpenFile where
  file : Nat
  position : Nat
  /-- Whether everything is written at the end. -/
  appends : Bool
deriving DecidableEq, Repr

/-- The files that scripts make. -/
structure Files where
  contents : Array (Array Char)
  /-- The numbers of files by their paths, which begin at the root and lead through no links. -/
  paths : List (Octets × Nat)
  handles : Array OpenFile

/-- A new file without a path, which holds a text. -/
def Files.addFile (fs : Files) (text : Octets) : Nat × Files :=
  (fs.contents.size, { fs with contents := fs.contents.push text.toArray })

/-- A new handle, which begins at the start of a file. -/
def Files.openFile (fs : Files) (file : Nat) (appends : Bool) : Handle × Files :=
  (.opened fs.handles.size, { fs with handles := fs.handles.push ⟨file, 0, appends⟩ })

/-- A content in which a text stands from a position on. -/
def overwritten (content : Array Char) (position : Nat) (o : Octets) : Array Char :=
  if position = content.size then o.foldl Array.push content
  else
    let gap := Array.replicate (position - content.size) '\x00'
    content.extract 0 position ++ gap ++ o.toArray ++
      content.extract (position + o.length) content.size

/-- Writes a text behind a handle. -/
def Files.write (fs : Files) (h : Handle) (o : Octets) : Files :=
  match h with
  | .opened n =>
    match fs.handles[n]? with
    | some ⟨file, position, appends⟩ =>
      let start := if appends then (fs.contents[file]?.getD #[]).size else position
      { fs with
        contents := fs.contents.modify file (overwritten · start o)
        handles := fs.handles.set! n ⟨file, start + o.length, appends⟩ }
    | none => fs
  | _ => fs

/-- How much is read from where reading never ends. -/
def endlessCount : Nat := 262144

/-- What is left behind a handle, up to the end of a line or of all, and the files afterwards. -/
def Files.read (fs : Files) (h : Handle) (oneLine : Bool) : Octets × Files :=
  match h with
  | .device .zeros | .device .full => (List.replicate endlessCount '\x00', fs)
  | .device _ | .directory => ([], fs)
  | .opened n =>
    match fs.handles[n]? with
    | none => ([], fs)
    | some ⟨file, start, appends⟩ =>
      let content := fs.contents[file]?.getD #[]
      let stop :=
        if oneLine then
          let offsets := List.range (content.size - start)
          match offsets.find? fun i => content[start + i]? = some '\n' with
          | some i => start + i + 1
          | none => content.size
        else content.size
      ((content.extract start stop).toList,
        { fs with handles := fs.handles.set! n ⟨file, max start stop, appends⟩ })

/-! ## 2. Processes -/

/-- A variable, which may be marked before it has a value. -/
structure Variable where
  value : Option Octets
  exported : Bool
  readOnly : Bool

/-- A background process as the process that began it knows it. -/
structure Job where
  /-- The number that was given to it. -/
  rank : Nat
  /-- Its number among all processes. -/
  number : Nat
  /-- Whether it has been waited for. -/
  waitedFor : Bool
deriving DecidableEq, Repr

/-- What a process is, apart from the files. -/
structure Process where
  /-- The number of the process that the script began as. -/
  number : Nat
  /-- The name of the script, with which messages begin. -/
  name : Octets
  args : List Octets
  bindings : List (Octets × Variable)
  functions : List (Octets × Statement)
  descriptors : List (Nat × Handle)
  /-- How the last statement ended; zero is success. -/
  status : Nat
  /-- How the last nested script of the current statement ended. -/
  nestedStatus : Nat
  line : Nat
  /-- The built-in command that runs. -/
  builtin : Option Octets
  /-- Whether somebody looks at how the current statement ends. -/
  tested : Bool
  /-- The options that are set, by their letters. -/
  options : List Char
  /-- How many loops are around the current statement. -/
  loops : Nat
  /-- How many functions are. -/
  calls : Nat
  /-- The variables to be put back at the end of the current function, the last of them first. -/
  saved : Option (List (Octets × Option Variable))
  /-- What is run at a signal. -/
  traps : List (Nat × Octets)
  /-- What the shell runs at a signal, where the process is only a part of one. -/
  shellTraps : Option (List (Nat × Octets))
  /-- The signals that were ignored when the script began, and stay so. -/
  ignored : List Nat
  /-- The signals whose traps are to be run. -/
  pending : List Nat
  directory : Octets
  /-- The rights that new files lack. -/
  mask : Nat
  /-- The limits that have been set, by the letters of what they are on. -/
  limits : List (Char × Option Nat × Option Nat)
  /-- The number of the last background process. -/
  lastJob : Option Nat
  /-- The background processes that the process knows, the last of them first. -/
  jobs : List Job
  /-- Other texts for words where a command may begin. -/
  aliases : List (Octets × Octets)
  /-- The paths of programs that have been looked for. -/
  found : List (Octets × Octets)
  /-- How far the options in an argument have been read, and the number of that argument. -/
  optionsRead : Option (Nat × Nat)
  /-- Whether something has been written to where nothing can be written. -/
  outputLost : Bool

/-- A process that waits in the background, with what it is to run. -/
structure Waiting where
  number : Nat
  process : Process
  body : Statement

/-- How a background process has ended. -/
inductive Ended
  | exit (status : Nat)
  | killed (s : Signal)
deriving DecidableEq, Repr

/-- A process among files and among background processes, which wait until somebody waits for
them. -/
structure State where
  files : Files
  process : Process
  waiting : List Waiting
  ended : List (Nat × Ended)
  /-- The number of the next process that has one. -/
  nextNumber : Nat
  /-- The signals that parts of shells have sent to them, with the numbers of the shells, the last
  of them first. -/
  arrived : List (Nat × Signal)

/-- How a process stops before its last statement. -/
inductive Stop
  /-- The process ends with a status. -/
  | exit (status : Nat)
  /-- A command ended with a message; the process ends unless the command was not its own. -/
  | failure
  /-- The function ends with a status. -/
  | return (status : Nat)
  /-- So many loops end. -/
  | break (count : Nat)
  /-- All but one of so many loops end, and that one goes on. -/
  | continue (count : Nat)
  | killed (s : Signal)
  /-- The bound on nesting and repetition was reached. -/
  | exhausted
deriving DecidableEq, Repr

/-- An action of a process. -/
abbrev Act := ExceptT Stop (StateM State)

/-- The current process. -/
def process : Act Process := return (← get).process

def modifyProcess (f : Process → Process) : Act Unit :=
  modify fun s => { s with process := f s.process }

/-- Runs an action, and puts something back afterwards, however the action ends. -/
def restoring {α : Type} (restore : Process → Process → Process) (a : Act α) : Act α :=
  ExceptT.mk fun s =>
    let before := s.process
    let (r, s) := a.run s
    (r, { s with process := restore before s.process })

/-- Runs an action, and tells how it stopped, if it did. -/
def attempt {α : Type} (a : Act α) : Act (Except Stop α) := ExceptT.mk fun s =>
  let (r, s) := a.run s
  (.ok r, s)

/-- Repeats an action as long as it tells to, at most `bound` times. -/
def repeatAct (a : Act Bool) : Nat → Act Unit
  | 0 => throw .exhausted
  | bound + 1 => do
    if ← a then repeatAct a bound

/-- How often a loop may be repeated. -/
def maxRepetitions : Nat := 100000000

/-! ## 3. Input and output -/

def handle? (descriptor : Nat) : Act (Option Handle) := do
  return (← process).descriptors.lookup descriptor

/-- Lets a descriptor lead somewhere, or nowhere. -/
def setHandle (descriptor : Nat) (h : Option Handle) : Act Unit :=
  modifyProcess fun p =>
    let others := p.descriptors.filter (·.1 != descriptor)
    { p with descriptors := match h with
        | some h => (descriptor, h) :: others
        | none => others }

/-- Writes to a descriptor, and tells whether it leads to where something can be written. -/
def write (descriptor : Nat) (o : Octets) : Act Bool := do
  match ← handle? descriptor with
  | some h =>
    if h = .device .full ∨ h = .directory then
      modifyProcess fun p => { p with outputLost := p.outputLost || (descriptor = 1 && o ≠ []) }
      return false
    modify fun s => { s with files := s.files.write h o }
    return true
  | none =>
    modifyProcess fun p => { p with outputLost := p.outputLost || (descriptor = 1 && o ≠ []) }
    return false

/-- Reads what is left behind a descriptor, up to the end of a line or of all, if the descriptor
leads anywhere. -/
def read? (descriptor : Nat) (oneLine : Bool) : Act (Option Octets) := do
  match ← handle? descriptor with
  | some h =>
    let (o, files) := (← get).files.read h oneLine
    modify fun s => { s with files }
    return some o
  | none => return none

/-- Writes a message about the script.  It tells the line and the built-in command that runs. -/
def complain (message : Octets) : Act Unit := do
  let p ← process
  let place := p.name ++ ": ".toList ++ decimal p.line ++ ": ".toList
  let place := match p.builtin with
    | some name => place ++ name ++ ": ".toList
    | none => place
  let _ ← write 2 (place ++ message ++ ['\n'])

/-- Ends the command with a message. -/
def fail {α : Type} (message : Octets) : Act α := do
  complain message
  throw .failure

/-- Ends the command with a message about a text that is no number, or not a good one. -/
def badNumber {α : Type} (o : Octets) : Act α := fail ("Illegal number: ".toList ++ o)

/-! ## 4. Variables -/

def binding? (name : Octets) : Act (Option Variable) := do
  return (← process).bindings.lookup name

/-- The value of a variable, if it has one. -/
def value? (name : Octets) : Act (Option Octets) := do
  return (← binding? name).bind (·.value)

/-- Puts a variable in place of the one with its name, or takes that one away. -/
def Process.withVariable (p : Process) (name : Octets) (v : Option Variable) : Process :=
  let others := p.bindings.filter (·.1 != name)
  { p with bindings := match v with
      | some v => (name, v) :: others
      | none => others }

/-- Changes a variable, which must not be marked as one that keeps its value. -/
def changeVariable (name : Octets) (f : Variable → Option Variable) : Act Unit := do
  let v := (← binding? name).getD ⟨none, false, false⟩
  if v.readOnly then fail (name ++ ": is read only".toList)
  modifyProcess fun p =>
    { p.withVariable name (f v) with found := if name = "PATH".toList then [] else p.found }

/-- Assigns to a variable. -/
def assign (name value : Octets) : Act Unit := do
  let exported := (← process).options.contains 'a'
  changeVariable name fun v =>
    some { v with value := some value, exported := v.exported || exported }

/-- The characters that separate fields. -/
def separators : Act Octets := do
  match ← binding? "IFS".toList with
  | some v => return v.value.getD " \t\n".toList
  | none => return " \t\n".toList

/-- Whether an option is set. -/
def hasOption (letter : Char) : Act Bool := return (← process).options.contains letter

/-! ## 5. Ends of processes -/

/-- Runs an action to the end of its process and gives the status.  What is set to be run at the
end is run by `run`. -/
def settle (run : Octets → Act Nat) (a : Act Nat) : Act Nat := do
  let status ← match ← attempt a with
    | .ok status | .error (.exit status) | .error (.return status) => pure status
    | .error .failure => pure 2
    | .error (.break _) | .error (.continue _) => pure 0
    | .error stop => throw stop
  let traps := (← process).traps
  match traps.lookup 0 with
  | some script =>
    modifyProcess fun p => { p with status, traps := traps.filter (·.1 != 0) }
    match ← attempt (run script) with
    | .error (.exit status) => return status % 256
    | .error .failure => return 2
    | _ => return status % 256
  | none => return status % 256

/-- Runs an action as a process of its own and gives its status. -/
def inSubshell (run : Octets → Act Nat) (a : Act Nat) : Act Nat := do
  restoring (fun before _ => before) do
    modifyProcess fun p =>
      { p with
        traps := p.traps.filter (·.2 = []), shellTraps := some (p.shellTraps.getD p.traps)
        saved := none, jobs := [] }
    settle run a

end PassContext.Shell
