/-
# Built-in commands

The commands that need nothing but the process they run in, by their names.  Those that run scripts
are with the evaluation of statements.
-/
import PassContext.Toolchain.Shell.Builtin.Course
import PassContext.Toolchain.Shell.Builtin.Jobs
import PassContext.Toolchain.Shell.Builtin.Names
import PassContext.Toolchain.Shell.Builtin.Options
import PassContext.Toolchain.Shell.Builtin.Places
import PassContext.Toolchain.Shell.Builtin.Printing

namespace PassContext.Shell.Builtin

/-- The special built-in command with a name; a misuse of one ends the script. -/
def special? (name : Octets) : Option (List Octets → Act Nat) :=
  match String.ofList name with
  | ":" => some fun _ => return 0
  | "break" => some (leaveLoops .break)
  | "continue" => some (leaveLoops .continue)
  | "exit" => some exit
  | "export" => some (markVariables "export" ({ · with exported := true }) (·.exported))
  | "local" => some makeLocal
  | "readonly" => some (markVariables "readonly" ({ · with readOnly := true }) (·.readOnly))
  | "return" => some returnFrom
  | "set" => some set
  | "shift" => some shift
  | "times" => some showTimes
  | "trap" => some trap
  | "unset" => some unset
  | _ => none

/-- The other built-in command with a name. -/
def regular? (name : Octets) : Option (List Octets → Act Nat) :=
  match String.ofList name with
  | "[" => some bracket
  | "alias" => some setAliases
  | "cd" | "chdir" => some changeDirectory
  | "echo" => some echo
  | "false" => some fun _ => return 1
  | "getopts" => some readOption
  | "bg" => some (moveJob true)
  | "fg" => some (moveJob false)
  | "jobs" => some showJobs
  | "kill" => some kill
  | "printf" => some printf
  | "pwd" => some printDirectory
  | "read" => some readVariables
  | "test" => some test
  | "true" => some fun _ => return 0
  | "ulimit" => some limit
  | "umask" => some fileMask
  | "unalias" => some unsetAliases
  | _ => none

end PassContext.Shell.Builtin
