/-
# Running queries by the system

Queries are run by the system.  Of the system's programs only the shell is known here, with the
small programs that scripts lean on; any other program is not there.  A script has nothing to
read, and what it prints is read as UTF-8 in the end.
-/
import PassContext.Text.Utf8
import PassContext.Toolchain.Command
import PassContext.Toolchain.Shell.Evaluation

namespace PassContext.Shell

/-- The files at first: one for each output. -/
def Files.first : Files where
  contents := #[#[], #[]]
  paths := []
  handles := #[⟨0, 0, true⟩, ⟨1, 0, true⟩]

/-- A process at first: it has nothing to read, and two outputs. -/
def Process.first : Process where
  number := 0
  name := []
  args := []
  bindings :=
    [("HOME", "/root"), ("PATH", programDirectories)].map fun (name, value) =>
      (name.toList, ⟨some value.toList, true, false⟩)
  functions := []
  descriptors := [(0, .device .null), (1, .opened 0), (2, .opened 1)]
  status := 0
  nestedStatus := 0
  line := 0
  builtin := none
  tested := false
  options := []
  loops := 0
  calls := 0
  saved := none
  traps := []
  shellTraps := none
  ignored := []
  pending := []
  directory := firstDirectory.toList
  mask := 18
  limits := []
  lastJob := none
  jobs := []
  aliases := []
  found := []
  optionsRead := none
  outputLost := false

/-- A state at first, in which nothing has been run. -/
def State.first : State := ⟨.first, .first, [], [], firstNumber, []⟩
where
  /-- The number of the first process. -/
  firstNumber : Nat := 4100

/-- What a program prints with its arguments, and how it ends. -/
def outputOf (program name : String) (args : List String) : Output :=
  let act : Act Nat := do
    let r ← attempt <|
      if program = "dash" then shell runner (octets name) (args.map octets)
      else do
        match ← launch runner maxPrograms program (octets name) (args.map octets) with
        | .exit status => return status
        | .killed s => throw (.killed s)
    let _ ← attempt (runWaiting runner)
    r
  let (r, s) := act.run .first
  let printed (file : Nat) : String :=
    Text.utf8Lossy (bytesOf (s.files.contents[file]?.getD #[]).toList)
  let status : Option Nat :=
    match r with
    | .ok status => some status
    | .error _ => none
  ⟨status = some 0, status.map Int.ofNat, printed 0, printed 1⟩

/-- Why the system does not start a program. -/
inductive Refusal
  | unrunnable (why : Unrunnable)
  /-- A text that no program can be given. -/
  | nulInText
deriving DecidableEq, Repr

/-- The system's words for a refusal. -/
def Refusal.message : Refusal → String
  | .unrunnable why => why.shown ++ " (os error " ++ toString (number why) ++ ")"
  | .nulInText => "nul byte found in provided data"
where
  /-- The system's number for what stands in the way of a program. -/
  number : Unrunnable → Nat
    | .missing .missing => 2
    | .denied => 13
    | .missing .notDirectory => 20
    | .missing .nameTooLong => 36
    | .missing .looped => 40

/-- The program that a path or a name stands for, or why there is none. -/
def programOf (program : String) : Except Unrunnable String :=
  let act := find (octets program)
  match if program = "" then .error .failure else (act.run .first).1 with
  | .ok found => found.map (·.2)
  | .error _ => .error (.missing .missing)

/-- Runs a query. -/
def run (c : Command) : Except Refusal Output :=
  if (c.program :: c.args).any (·.contains '\x00') then .error .nulInText
  else match programOf c.program with
    | .ok program => .ok (outputOf program c.program c.args)
    | .error why => .error (.unrunnable why)

end PassContext.Shell
