/-
# Commands about the course of a script

They end the script, a function or a loop, or take arguments away.
-/
import PassContext.Toolchain.Shell.Builtin.Arguments

namespace PassContext.Shell.Builtin

def exit (args : List Octets) : Act Nat := do
  match args with
  | o :: _ => throw (.exit (← countArg o))
  | [] => throw (.exit (← process).status)

def returnFrom (args : List Octets) : Act Nat := do
  match args with
  | o :: _ => throw (.return (← countArg o))
  | [] => throw (.return (← process).status)

/-- Leaves loops or goes on with them; with no loop around nothing happens. -/
def leaveLoops (stop : Nat → Stop) (args : List Octets) : Act Nat := do
  let count ← match args with
    | o :: _ =>
      let n ← countArg o
      if n = 0 then badNumber o
      pure n
    | [] => pure 1
  let loops := (← process).loops
  if loops = 0 then return 0
  throw (stop (min count loops))

def shift (args : List Octets) : Act Nat := do
  let count ← match args with
    | o :: _ => countArg o
    | [] => pure 1
  let given := (← process).args
  if given.length < count then fail "can't shift that many".toList
  modifyProcess fun p => { p with args := given.drop count }
  return 0

end PassContext.Shell.Builtin
