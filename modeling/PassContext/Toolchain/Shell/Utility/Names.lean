/-
# Programs for paths

They take paths apart, whether something stands at them or not, and list what is there.
-/
import PassContext.Toolchain.Shell.Utility.Options

namespace PassContext.Shell.Utility

/-! ## 1. Parts of paths -/

/-- A path without the slashes at its end. -/
def withoutFinalSlashes (path : Octets) : Octets := (path.reverse.dropWhile (· == '/')).reverse

/-- The last name of a path. -/
def lastName (path : Octets) : Octets :=
  let plain := withoutFinalSlashes path
  if plain = [] then path.take 1 else lastPart plain

/-- The path of the directory that a path names something in. -/
def directoryName (path : Octets) : Octets :=
  let plain := withoutFinalSlashes path
  if plain = [] then (if path = [] then ['.'] else ['/'])
  else
    let above := (plain.reverse.dropWhile (· ≠ '/')).reverse
    if above = [] then ['.']
    else if withoutFinalSlashes above = [] then ['/'] else withoutFinalSlashes above

/-- A name without an ending, unless it is nothing else. -/
def withoutEnding (ending name : Octets) : Octets :=
  if ending.reverse.isPrefixOf name.reverse ∧ name ≠ ending then
    name.take (name.length - ending.length)
  else name

def basename (args : List Octets) : Act Nat :=
  withOptions "basename" ⟨"", [], false⟩ 1 args fun given =>
    match given.operands with
    | [] => failWithHelp "basename" "missing operand".toList
    | [path] => printing 0 (lastName path ++ ['\n'])
    | [path, ending] => printing 0 (withoutEnding ending (lastName path) ++ ['\n'])
    | _ :: _ :: extra :: _ =>
      failWithHelp "basename" ("extra operand ".toList ++ quotedName extra)

def dirname (args : List Octets) : Act Nat :=
  withOptions "dirname" ⟨"", [], true⟩ 1 args fun given => do
    if given.operands.isEmpty then return ← failWithHelp "dirname" "missing operand".toList
    printing 0 (joinLines (given.operands.map directoryName))

/-! ## 2. What is there -/

/-- Lists files, and what is in directories. -/
def ls (args : List Octets) : Act Nat :=
  withOptions "ls" ⟨"1d", [("directory", 'd')], true⟩ 2 args fun given => do
    let operands := if given.operands.isEmpty then [['.']] else given.operands.mergeSort precedes
    let (files, folders, status) ← operands.foldlM (fun (files, folders, status) path => do
      let p ← place path
      match p, p.isThere with
      | .directory full, _ =>
        if given.has 'd' then return (files ++ [path], folders, status)
        let names := (namesIn (← get).files full).filter (·.head? ≠ some '.')
        return (files, folders ++ [(path, names)], status)
      | _, true => return (files ++ [path], folders, status)
      | _, false =>
        let reason := p.refusal?.getD Trouble.missing.shown
        complainAs "ls" (toldAs "cannot access" path reason)
        return (files, folders, 2)) ([], [], 0)
    let titled := 1 < operands.length
    let blocks := folders.map fun (path, names) =>
      (if titled then path ++ ":\n".toList else []) ++ joinLines names
    let blocks := if files.isEmpty then blocks else joinLines files :: blocks
    printing status (['\n'].intercalate blocks)

end PassContext.Shell.Utility
