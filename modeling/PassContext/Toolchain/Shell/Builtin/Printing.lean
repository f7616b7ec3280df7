/-
# Commands that print

Texts are printed one after the other, or by a format.
-/
import PassContext.Toolchain.Shell.Builtin.Arguments
import PassContext.Toolchain.Shell.Format

namespace PassContext.Shell.Builtin

/-- Prints texts with blanks between them and a newline behind them; an escape may end the
printing. -/
def echoed (newline : Bool) : List Octets → Octets
  | [] => if newline then ['\n'] else []
  | o :: rest =>
    let (text, ends) := unescaped o.length o
    if ends then text
    else text ++ (if rest.isEmpty then [] else [' ']) ++ echoed newline rest

def echo (args : List Octets) : Act Nat :=
  match args with
  | ['-', 'n'] :: rest => print "echo".toList (echoed false rest)
  | args => print "echo".toList (echoed true args)

def printf (args : List Octets) : Act Nat := do
  let (_, args) ← optionsOf [] args
  match args with
  | [] => fail "usage: printf format [arg ...]".toList
  | format :: args =>
    let (out, complaints, message) := printed format args
    complaints.forM complain
    match message with
    | some message =>
      complain message
      let _ ← print "printf".toList out
      throw .failure
    | none =>
      let status ← print "printf".toList out
      return if complaints.isEmpty then status else 1

end PassContext.Shell.Builtin
