/-
# Queries of the toolchain

A query is a program with arguments.  Whoever runs it gives back what it printed and how it
ended; a query that ran without success is an answer too, and becomes a failure only when its
standard output is asked for.
-/
import PassContext.Failure

namespace PassContext

/-- A program with its arguments. -/
structure Command where
  program : String
  args : List String
deriving DecidableEq, Repr

/-- The program and its arguments with spaces between them. -/
def Command.text (c : Command) : String := " ".intercalate (c.program :: c.args)

/-- What a finished query printed and how it ended. -/
structure Output where
  success : Bool
  /-- Missing when a signal ended the program. -/
  exitCode : Option Int
  stdout : String
  stderr : String
deriving DecidableEq, Repr

namespace Output

/-- A successful run that printed `stdout`. -/
def succeeded (stdout : String) : Output := ⟨true, some 0, stdout, ""⟩

/-- A run without success. -/
def failed (exitCode : Int) (stderr : String) : Output := ⟨false, some exitCode, "", stderr⟩

/-- All that was printed: the standard output, then the standard error. -/
def printed (o : Output) : String := o.stdout ++ o.stderr

/-- The standard output of a successful run of a command. -/
def stdoutOf (o : Output) (c : Command) : Except Failure String :=
  if o.success then .ok o.stdout else .error (.queryFailed c.text o.exitCode o.printed)

end Output

end PassContext
