/-
# Programs by their names

The programs that every system has and that run no others, as far as scripts need them to look
into what another program prints.
-/
import PassContext.Toolchain.Shell.Utility.Characters
import PassContext.Toolchain.Shell.Utility.Editing
import PassContext.Toolchain.Shell.Utility.Grep
import PassContext.Toolchain.Shell.Utility.Lines
import PassContext.Toolchain.Shell.Utility.Names
import PassContext.Toolchain.Shell.Utility.Numbers
import PassContext.Toolchain.Shell.Utility.Texts

namespace PassContext.Shell.Utility

/-- The program with a name, apart from those that run other programs. -/
def utility? (name : String) : Option (List Octets → Act Nat) :=
  match name with
  | "basename" => some basename
  | "cat" => some cat
  | "cut" => some cut
  | "dirname" => some dirname
  | "egrep" => some fun args => grep (['-', 'E'] :: args)
  | "expr" => some expr
  | "fgrep" => some fun args => grep (['-', 'F'] :: args)
  | "grep" => some grep
  | "head" => some head
  | "ls" => some ls
  | "sed" => some sed
  | "seq" => some seq
  | "sleep" => some sleep
  | "sort" => some sort
  | "tail" => some tail
  | "tee" => some tee
  | "tr" => some tr
  | "uniq" => some uniq
  | "wc" => some wc
  | "yes" => some yes
  | _ => none

end PassContext.Shell.Utility
