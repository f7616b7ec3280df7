/-
# Replacing characters

A program takes a text character by character: it puts the characters of one set in place of those
of another, takes characters away, or lets none of them follow itself.  A set is written as a list
of characters, ranges and classes.
-/
import PassContext.Toolchain.Shell.Format
import PassContext.Toolchain.Shell.Pattern
import PassContext.Toolchain.Shell.Utility.Options

namespace PassContext.Shell.Utility

/-! ## 1. Sets -/

/-- The characters of a set as they are written, each with whether a backslash stands in front. -/
def unquotedSet : Nat → Octets → List PatternChar
  | 0, _ => []
  | _, [] => []
  | bound + 1, c :: rest =>
    match c, rest with
    | '\\', d :: after =>
      let digits := ((d :: after).take 3).takeWhile (isDigitOf 8)
      let digits := if 255 < valueOf 8 digits then digits.take 2 else digits
      if digits ≠ [] then
        ⟨true, Char.ofNat (valueOf 8 digits)⟩ :: unquotedSet bound (rest.drop digits.length)
      else ⟨true, (letterEscape? d).getD d⟩ :: unquotedSet bound after
    | c, rest => ⟨false, c⟩ :: unquotedSet bound rest

/-- The class behind an opening bracket, and what follows it, if there is one. -/
def classAt? : List PatternChar → Option (Octets × List PatternChar)
  | ⟨false, ':'⟩ :: rest =>
    let name := rest.takeWhile (· ≠ ⟨false, ':'⟩)
    match rest.drop name.length with
    | _ :: ⟨false, ']'⟩ :: rest => some (name.map (·.char), rest)
    | _ => none
  | _ => none

/-- All bytes. -/
def allBytes : Octets := (List.range 256).map Char.ofNat

/-- The characters of a set, of which at most so many parts are read. -/
def expandedSet : Nat → List PatternChar → Except Octets Octets
  | 0, _ => return []
  | _, [] => return []
  | bound + 1, first :: rest => do
    if first = ⟨false, '['⟩ then
      if let some (name, rest) := classAt? rest then
        if !classNames.any (·.toList == name) then
          throw ("invalid character class ".toList ++ quotedName name)
        return allBytes.filter (inClass name) ++ (← expandedSet bound rest)
    match rest with
    | ⟨false, '-'⟩ :: last :: rest =>
      if last.char < first.char then
        throw ("range-endpoints of '".toList ++ first.char :: '-' :: last.char ::
          "' are in reverse collating sequence order".toList)
      let count := last.char.toNat + 1 - first.char.toNat
      return (List.range' first.char.toNat count).map Char.ofNat ++ (← expandedSet bound rest)
    | rest => return first.char :: (← expandedSet bound rest)

/-! ## 2. Plans -/

/-- How a text is changed: what happens to each character, and which characters never follow
themselves. -/
structure CharPlan where
  change : Char → Option Char
  squeezed : Char → Bool

/-- What options and sets ask for.  Where the second set is shorter, its last character stands for
the rest. -/
def charPlan (given : Given) (sets : List Octets) : Except Octets CharPlan := do
  let deletes := given.has 'd'
  let squeezes := given.has 's'
  let listed := sets.headD []
  let first := if given.has 'c' then allBytes.filter fun c => !listed.contains c else listed
  match sets[1]? with
  | none =>
    return ⟨fun c => if deletes && first.contains c then none else some c,
      fun c => !deletes && squeezes && first.contains c⟩
  | some second =>
    if deletes then
      return ⟨fun c => if first.contains c then none else some c, second.contains⟩
    match second.getLast? with
    | none => throw "when not truncating set1, string2 must be non-empty".toList
    | some last =>
      let pairs := (first.zip (second ++ List.replicate first.length last)).reverse
      return ⟨fun c => some ((pairs.lookup c).getD c), fun c => squeezes && second.contains c⟩

/-- A text in which no character of some ever follows itself. -/
def squeezed (test : Char → Bool) : Octets → Octets
  | c :: d :: rest =>
    if c = d ∧ test c then squeezed test (d :: rest) else c :: squeezed test (d :: rest)
  | o => o

/-! ## 3. The program -/

def tr (args : List Octets) : Act Nat :=
  let known : Known := ⟨"cds", [("complement", 'c'), ("delete", 'd'), ("squeeze-repeats", 's')],
    false⟩
  withOptions "tr" known 1 args fun given => do
    let most := if given.has 'd' && !given.has 's' then 1 else 2
    let least := if given.has 'd' == given.has 's' then 2 else 1
    match given.operands.getLast?, given.operands[most]? with
    | none, _ => failWithHelp "tr" "missing operand".toList
    | _, some extra => failWithHelp "tr" ("extra operand ".toList ++ quotedName extra)
    | some last, none =>
      if given.operands.length < least then
        return ← failWithHelp "tr" ("missing operand after ".toList ++ quotedName last)
      let read (o : Octets) := expandedSet (o.length + 1) (unquotedSet o.length o)
      match given.operands.mapM read >>= charPlan given with
      | .error message => failAs "tr" message
      | .ok plan =>
        let text := (← read? 0 false).getD []
        printing 0 (squeezed plan.squeezed (text.filterMap plan.change))

end PassContext.Shell.Utility
