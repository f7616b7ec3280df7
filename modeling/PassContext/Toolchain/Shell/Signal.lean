/-
# Signals

The signals of the system with their names, their numbers, and what is said of a process that one
of them ends.
-/
import PassContext.Toolchain.Shell.Octets

namespace PassContext.Shell

/-- A signal. -/
structure Signal where
  number : Nat
  name : String
  /-- What is said of a process that the signal ends. -/
  death : String
deriving DecidableEq, Repr

/-- The signals with numbers below the ones for free use; the first one stands for the end of a
script, and some have no name but their number. -/
def namedSignals : List Signal :=
  [⟨0, "EXIT", ""⟩, ⟨1, "HUP", "Hangup"⟩, ⟨2, "INT", "Interrupt"⟩, ⟨3, "QUIT", "Quit"⟩,
   ⟨4, "ILL", "Illegal instruction"⟩, ⟨5, "TRAP", "Trace/breakpoint trap"⟩, ⟨6, "ABRT", "Aborted"⟩,
   ⟨7, "BUS", "Bus error"⟩, ⟨8, "FPE", "Floating point exception"⟩, ⟨9, "KILL", "Killed"⟩,
   ⟨10, "USR1", "User defined signal 1"⟩, ⟨11, "SEGV", "Segmentation fault"⟩,
   ⟨12, "USR2", "User defined signal 2"⟩, ⟨13, "PIPE", "Broken pipe"⟩, ⟨14, "ALRM", "Alarm clock"⟩,
   ⟨15, "TERM", "Terminated"⟩, ⟨16, "16", "Stack fault"⟩, ⟨17, "CHLD", "Child exited"⟩,
   ⟨18, "CONT", "Continued"⟩, ⟨19, "STOP", "Stopped (signal)"⟩, ⟨20, "TSTP", "Stopped"⟩,
   ⟨21, "TTIN", "Stopped (tty input)"⟩, ⟨22, "TTOU", "Stopped (tty output)"⟩,
   ⟨23, "URG", "Urgent I/O condition"⟩, ⟨24, "XCPU", "CPU time limit exceeded"⟩,
   ⟨25, "XFSZ", "File size limit exceeded"⟩, ⟨26, "VTALRM", "Virtual timer expired"⟩,
   ⟨27, "PROF", "Profiling timer expired"⟩, ⟨28, "WINCH", "Window changed"⟩,
   ⟨29, "IO", "I/O possible"⟩, ⟨30, "PWR", "Power failure"⟩, ⟨31, "SYS", "Bad system call"⟩,
   ⟨32, "32", "Unknown signal 32"⟩, ⟨33, "33", "Unknown signal 33"⟩]

/-- The signals for free use, whose names count from the first or from the last one. -/
def freeSignals : List Signal :=
  (List.range 31).map fun i =>
    let name :=
      if i = 0 then "RTMIN" else if i = 30 then "RTMAX"
      else if i ≤ 15 then "RTMIN+" ++ toString i else "RTMAX-" ++ toString (30 - i)
    ⟨34 + i, name, "Real-time signal " ++ toString i⟩

/-- All signals by their numbers. -/
def signals : List Signal := namedSignals ++ freeSignals

/-- The signal with a number, if a text is the number of one. -/
def numberedSignal? (o : Octets) : Option Signal :=
  if o ≠ [] ∧ o.all Char.isDigit then
    signals.find? (·.number == valueOf 10 o)
  else none

/-- The signal with a number, or with a name in any case. -/
def signal? (o : Octets) : Option Signal :=
  if o ≠ [] ∧ o.all Char.isDigit then numberedSignal? o
  else signals.find? fun s => s.name.toList == o.map Char.toUpper

/-- Whether a process that does nothing about a signal goes on. -/
def Signal.isHarmless (s : Signal) : Bool := s.name ∈ ["EXIT", "CHLD", "CONT", "URG", "WINCH"]

end PassContext.Shell
