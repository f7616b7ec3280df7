/-
# Arguments of built-in commands

A built-in command runs in the process of the script itself.  It gets its arguments expanded and
gives a status; a misuse ends it with a message.  What commands have in common is here: how they
read their arguments, and how they print.
-/
import PassContext.Toolchain.Shell.State

namespace PassContext.Shell.Builtin

/-! ## 1. Arguments -/

/-- Ends the command with a message about a letter that is no option. -/
def badOption {α : Type} (letter : Char) : Act α := fail ("Illegal option -".toList ++ [letter])

/-- A number that counts something. -/
def countArg (o : Octets) : Act Nat := do
  match decimal? o with
  | some n => if 0 ≤ n && n ≤ 2147483647 then return n.toNat else badNumber o
  | none => badNumber o

/-- The letters of the options in front of the arguments, each of them one of the known letters,
and the arguments behind the options. -/
def optionsOf (known : List Char) : List Octets → Act (List Char × List Octets)
  | [] => return ([], [])
  | o :: rest => do
    match o with
    | '-' :: '-' :: [] => return ([], rest)
    | '-' :: c :: cs =>
      match (c :: cs).find? fun letter => !known.contains letter with
      | some letter => badOption letter
      | none =>
        let (letters, args) ← optionsOf known rest
        return (c :: cs ++ letters, args)
    | o => return ([], o :: rest)

/-- A name and the value assigned to it, if one is. -/
def assigned (o : Octets) : Octets × Option Octets :=
  match o.dropWhile (· ≠ '=') with
  | '=' :: value => (o.takeWhile (· ≠ '='), some value)
  | _ => (o, none)

/-- Ends the command with a message about a text that is no name. -/
def checkName (name : Octets) : Act Unit := do
  if !isName name then fail (name ++ ": bad variable name".toList)

/-! ## 2. Answers -/

/-- The status that tells whether something holds. -/
def statusOf (holds : Bool) : Nat := if holds then 0 else 1

/-- Writes to the standard output; a command whose output leads nowhere fails. -/
def print (name o : Octets) : Act Nat := do
  if o.isEmpty then return 0
  if ← write 1 o then return 0
  complain (name ++ ": I/O error".toList)
  return 1

/-- A text between single quotes; the single quotes in it stand between double ones. -/
def requoted (o : Octets) : Octets :=
  let pieces := (o.splitOn '\'').map fun piece => '\'' :: piece ++ ['\'']
  "\"'\"".toList.intercalate pieces

end PassContext.Shell.Builtin
