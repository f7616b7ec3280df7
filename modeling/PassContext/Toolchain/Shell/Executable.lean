/-
# Finding programs

A program is found by its path, or by its name in the directories that the script names.  It is
one that every system has: the files that a script makes are for nobody to run.
-/
import PassContext.Toolchain.Shell.Paths

namespace PassContext.Shell

/-! ## 1. At a path -/

/-- Why a program is not run. -/
inductive Unrunnable
  | missing (t : Trouble)
  /-- It is no file, or one that nobody may run. -/
  | denied
deriving DecidableEq, Repr

/-- What the system says of a program that is not run. -/
def Unrunnable.shown : Unrunnable → String
  | .missing t => t.shown
  | .denied => "Permission denied"

/-- The name of the program at a path. -/
def programAt (path : Octets) : Act (Except Unrunnable String) := do
  match ← place path with
  | .program name => return .ok name
  | .absent _ _ => return .error (.missing .missing)
  | .refused t => return .error (.missing t)
  | _ => return .error .denied

/-! ## 2. In directories -/

/-- Whether nothing at all stands where a program is looked for. -/
def Unrunnable.isAbsence : Unrunnable → Bool
  | .missing .missing | .missing .notDirectory => true
  | _ => false

/-- The first program with a name in directories; where there is none, the last thing that stands
in the way decides what is said. -/
def searchIn (name : Octets) : List Octets → Act (Except Unrunnable (Octets × String))
  | [] => return .error (.missing .missing)
  | directory :: rest => do
    let path := if directory = [] then name else directory ++ '/' :: name
    match ← programAt path with
    | .ok program => return .ok (path, program)
    | .error why =>
      match ← searchIn name rest with
      | .error other => return .error (if other.isAbsence then why else other)
      | result => return result

/-- The directories in which programs are looked for. -/
def searchPath : Act (List Octets) := do
  match ← value? "PATH".toList with
  | some list => return list.splitOn ':'
  | none => return []

/-- The program that a name or a path stands for, with its path. -/
def find (name : Octets) : Act (Except Unrunnable (Octets × String)) := do
  if name.contains '/' then return (← programAt name).map fun program => (name, program)
  searchIn name (← searchPath)

/-- The program that a name or a path stands for when another program asks for it: where no
directories are named, it is looked for in those that every system has. -/
def findForProgram (name : Octets) : Act (Except Unrunnable (Octets × String)) := do
  if (← value? "PATH".toList).isSome then return ← find name
  if name.contains '/' then find name
  else searchIn name ["/bin".toList, "/usr/bin".toList]

/-- Keeps the path of a program that has been found. -/
def remember (name path : Octets) : Act Unit :=
  modifyProcess fun p => { p with found := (name, path) :: p.found.filter (·.1 != name) }

end PassContext.Shell
