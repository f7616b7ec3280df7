/-
# Options and answers of programs

The arguments of a program are options and operands in any order.  Options are single letters,
several of which may share an argument, or words behind two dashes, which may be cut short as long
as they stay clear; some take a value.  A program complains in its own name, and says where help
is when its options are wrong.

A program knows the options that scripts make use of to see what another program says, and no
others.
-/
import PassContext.Toolchain.Shell.Paths

namespace PassContext.Shell.Utility

/-! ## 1. Answers -/

/-- The name with which a program complains: the one under which it runs, with its path if that
was given. -/
def nameShown (program : String) : Act Octets := do
  let name := (← process).name
  return if lastPart name = program.toList then name else program.toList

/-- Complains in the name of a program. -/
def complainAs (program : String) (message : Octets) : Act Unit := do
  let _ ← write 2 ((← nameShown program) ++ ": ".toList ++ message ++ ['\n'])

/-- Writes to the standard output and gives a status. -/
def printing (status : Nat) (o : Octets) : Act Nat := do
  let _ ← write 1 o
  return status

/-- Complains in the name of a program and gives the status of a failure. -/
def failAs (program : String) (message : Octets) : Act Nat := do
  complainAs program message
  return 1

/-- Complains, and says where help is. -/
def failWithHelp (program : String) (message : Octets) : Act Nat := do
  complainAs program message
  let help := "Try '".toList ++ (← nameShown program) ++ " --help' for more information.\n".toList
  let _ ← write 2 help
  return 1

/-- A text between single quotes. -/
def inQuotes (o : Octets) : Octets := '\'' :: o ++ ['\'']

/-- Whether a shell would take a text for something else. -/
def looksStrange (o : Octets) : Bool :=
  o.isEmpty || o.any (" !\"$&\'()*:;<=>?[\\^\x60|\t\n".toList.contains ·) ||
    o.head? = some '#' || o.head? = some '~'

/-- A name between quotes, in which single quotes are told apart. -/
def quotedName (o : Octets) : Octets :=
  if !o.contains '\'' then inQuotes o
  else if !o.any ("\"$\\\x60".toList.contains ·) then '"' :: o ++ ['"']
  else inQuotes ("\'\\\'\'".toList.intercalate (o.splitOn '\''))

/-- The name of a file, between quotes if a shell would take it for something else. -/
def shownName (o : Octets) : Octets := if looksStrange o then quotedName o else o

/-- A refusal that tells the operand first. -/
def toldPlainly (operand : Octets) (reason : String) : Octets :=
  shownName operand ++ ": ".toList ++ reason.toList

/-- A refusal to do something with an operand. -/
def toldAs (what : String) (operand : Octets) (reason : String) : Octets :=
  what.toList ++ ' ' :: quotedName operand ++ ": ".toList ++ reason.toList

/-! ## 2. Options -/

/-- The options that a program knows: letters, behind which a colon says that a value follows, and
words that stand for letters. -/
structure Known where
  letters : String
  words : List (String × Char)
  /-- Whether options may stand behind operands. -/
  anywhere : Bool

/-- Whether an option takes a value, if the letter is among those that are given. -/
def takesValue? (letters : String) (letter : Char) : Option Bool :=
  match letters.toList.dropWhile (· ≠ letter) with
  | [] => none
  | _ :: ':' :: _ => some true
  | _ => if letter = ':' then none else some false

/-- Options in the order in which they were given, with their values, and the operands. -/
structure Given where
  options : List (Char × Octets)
  operands : List Octets

namespace Given

/-- Whether an option was given. -/
def has (g : Given) (letter : Char) : Bool := g.options.any (·.1 == letter)

/-- The value of an option that was given last. -/
def value? (g : Given) (letter : Char) : Option Octets :=
  (g.options.reverse.find? (·.1 == letter)).map (·.2)

/-- The values of an option in order. -/
def values (g : Given) (letter : Char) : List Octets :=
  (g.options.filter (·.1 == letter)).map (·.2)

/-- The last of some options that was given. -/
def last? (g : Given) (letters : List Char) : Option (Char × Octets) :=
  g.options.reverse.find? fun o => letters.contains o.1

end Given

/-- The options of an argument of letters, and the last of them if its value is still missing. -/
def lettersIn (k : Known) : Octets → Except Octets (List (Char × Octets) × Option Char)
  | [] => return ([], none)
  | c :: cs =>
    match takesValue? k.letters c with
    | none => throw ("invalid option -- ".toList ++ inQuotes [c])
    | some false => do
      let (more, wants) ← lettersIn k cs
      return ((c, []) :: more, wants)
    | some true => return if cs = [] then ([], some c) else ([(c, cs)], none)

/-- The letter that a word stands for. -/
def Known.letterOf (k : Known) (word : Octets) : Except Octets (String × Char) :=
  let shown := inQuotes ("--".toList ++ word)
  let matching := k.words.filter fun (w, _) => word.isPrefixOf w.toList
  match k.words.find? (·.1.toList == word), matching with
  | some found, _ => return found
  | none, [] => throw ("unrecognized option ".toList ++ shown)
  | none, first :: rest =>
    if rest.all (·.2 == first.2) then return first
    else
      let names := matching.flatMap fun (w, _) => ' ' :: inQuotes ("--" ++ w).toList
      throw ("option ".toList ++ shown ++ " is ambiguous; possibilities:".toList ++ names)

/-- Puts options in front of others. -/
def Given.behind (options : List (Char × Octets)) (g : Given) : Given :=
  { g with options := options ++ g.options }

/-- Reads arguments. -/
def Known.read (k : Known) : List Octets → Except Octets Given
  | [] => return ⟨[], []⟩
  | o :: rest => do
    match o with
    | ['-', '-'] => return ⟨[], rest⟩
    | '-' :: '-' :: text =>
      let word := text.takeWhile (· ≠ '=')
      let value? := if word.length < text.length then some (text.drop (word.length + 1)) else none
      let (name, letter) ← k.letterOf word
      let shown := inQuotes ("--" ++ name).toList
      match (takesValue? k.letters letter).getD false, value?, rest with
      | false, some _, _ => throw ("option ".toList ++ shown ++ " doesn't allow an argument".toList)
      | true, none, value :: rest => return (← k.read rest).behind [(letter, value)]
      | true, none, [] => throw ("option ".toList ++ shown ++ " requires an argument".toList)
      | _, value?, rest => return (← k.read rest).behind [(letter, value?.getD [])]
    | '-' :: c :: cs =>
      let (found, wants) ← lettersIn k (c :: cs)
      match wants, rest with
      | none, rest => return (← k.read rest).behind found
      | some letter, value :: rest => return (← k.read rest).behind (found ++ [(letter, value)])
      | some letter, [] =>
        throw ("option requires an argument -- ".toList ++ inQuotes [letter])
    | o =>
      if !k.anywhere then return ⟨[], o :: rest⟩
      let g ← k.read rest
      return { g with operands := o :: g.operands }

/-- Reads the options of a program and runs it with them, unless they are wrong; a misuse has a
status of its own. -/
def withOptions (program : String) (k : Known) (misuse : Nat) (args : List Octets)
    (run : Given → Act Nat) : Act Nat := do
  match k.read args with
  | .ok given => run given
  | .error message =>
    let _ ← failWithHelp program message
    return misuse

/-! ## 3. Input -/

/-- Why nothing can be read from where a descriptor leads, if nothing can. -/
def unreadableHandle? : Option Handle → Option String
  | none => some "Bad file descriptor"
  | some .directory => some "Is a directory"
  | _ => none

/-- What stands in an operand, or why it cannot be read; a dash stands for the standard input. -/
def contentsOf (operand : Octets) : Act (Except String Octets) := do
  if operand = ['-'] then
    if let some reason := unreadableHandle? (← handle? 0) then return .error reason
    return .ok ((← read? 0 false).getD [])
  let p ← place operand
  match p, p.refusal? with
  | _, some reason => return .error reason
  | .descriptor n, none =>
    if let some reason := unreadableHandle? (← handle? n) then return .error reason
    return .ok ((← read? n false).getD [])
  | p, none => return .ok (← readPlace p)

/-- What stands in the operands one after the other, or in the standard input if there are none,
each behind the name of its operand; and the status.  How a refusal is told is given. -/
def readNamed (program : String) (told : Octets → String → Octets) (failure : Nat)
    (operands : List Octets) : Act (List (Octets × Octets) × Nat) := do
  let operands := if operands.isEmpty then [['-']] else operands
  operands.foldlM (fun (texts, status) operand => do
    match ← contentsOf operand with
    | .ok text => return (texts ++ [(operand, text)], status)
    | .error reason =>
      complainAs program (told operand reason)
      return (texts, failure)) ([], 0)

/-- Prints what becomes of the text in each operand, or of the standard input if there are none.
What becomes of a text is printed before the next operand is read.  How a refusal is told is
given. -/
def overOperands (program : String) (told : Octets → String → Octets) (operands : List Octets)
    (change : Octets → Octets) : Act Nat := do
  let operands := if operands.isEmpty then [['-']] else operands
  operands.foldlM (fun status operand => do
    match ← contentsOf operand with
    | .ok text =>
      let _ ← write 1 (change text)
      return status
    | .error reason =>
      complainAs program (told operand reason)
      return 1) 0

/-! ## 4. Lines -/

/-- Lines, each with its newline. -/
def joinLines (lines : List Octets) : Octets := lines.flatMap (· ++ ['\n'])

/-- The lines of a text, each with its newline, which the last one may lack. -/
def wholeLines (o : Octets) : List Octets := go [] o
where
  go (line : Octets) : Octets → List Octets
    | [] => if line = [] then [] else [line.reverse]
    | c :: rest => if c = '\n' then (c :: line).reverse :: go [] rest else go (c :: line) rest

/-- A text at the right end of so many columns. -/
def rightAligned (width : Nat) (o : Octets) : Octets := List.replicate (width - o.length) ' ' ++ o

end PassContext.Shell.Utility
