/-
# Commands about what names stand for

A word where a command may begin may stand for another text, and a name for a program that has been
looked for.
-/
import PassContext.Toolchain.Shell.Builtin.Arguments

namespace PassContext.Shell.Builtin

/-- The place of a name in the order in which names are listed. -/
def listRank (modulus : Nat) (name : Octets) : Nat :=
  (name.foldl (fun n c => n + c.toNat) (16 * (name.headD '\x00').toNat)) % modulus

/-- Prints the text that is known for a word. -/
def showAlias (entry : Octets × Octets) : Octets := entry.1 ++ '=' :: requoted entry.2 ++ ['\n']

/-- Makes texts known for words, or tells them. -/
def setAliases (args : List Octets) : Act Nat := do
  if args.isEmpty then
    let ranked := (← process).aliases.mergeSort fun a b => listRank 39 a.1 ≤ listRank 39 b.1
    return ← print "alias".toList (ranked.flatMap showAlias)
  args.foldlM (fun status o => do
    let front := o.take 1 ++ o.tail.takeWhile (· ≠ '=')
    let known := (← process).aliases
    match o.drop front.length, known.lookup o with
    | '=' :: text, _ =>
      let changed :=
        if (known.lookup front).isSome then
          known.map fun (name, old) => (name, if name = front then text else old)
        else known ++ [(front, text)]
      modifyProcess fun p => { p with aliases := changed }
      return status
    | _, some text =>
      let _ ← print "alias".toList (showAlias (o, text))
      return status
    | _, none =>
      let _ ← write 2 ("alias: ".toList ++ o ++ " not found\n".toList)
      return 1) 0

/-- Forgets the texts for words. -/
def unsetAliases (args : List Octets) : Act Nat := do
  let (letters, args) ← optionsOf ['a'] args
  if !letters.isEmpty then
    modifyProcess fun p => { p with aliases := [] }
    return 0
  args.foldlM (fun status o => do
    let known := (← process).aliases
    modifyProcess fun p => { p with aliases := known.filter (·.1 != o) }
    if (known.lookup o).isSome then return status
    let _ ← write 2 ("unalias: ".toList ++ o ++ " not found\n".toList)
    return 1) 0

end PassContext.Shell.Builtin
