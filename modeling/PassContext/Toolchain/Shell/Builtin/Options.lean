/-
# Commands about options

The options of the script itself are set, and the options in arguments are read one by one.
-/
import PassContext.Toolchain.Shell.Builtin.Variables

namespace PassContext.Shell.Builtin

/-! ## 1. Options of the script -/

/-- The options with their names and, if they have one, their letters. -/
def namedOptions : List (Option Char × String) :=
  [(some 'e', "errexit"), (some 'f', "noglob"), (some 'I', "ignoreeof"), (some 'i', "interactive"),
   (some 'm', "monitor"), (some 'n', "noexec"), (some 's', "stdin"), (some 'x', "xtrace"),
   (some 'v', "verbose"), (some 'V', "vi"), (some 'E', "emacs"), (some 'C', "noclobber"),
   (some 'a', "allexport"), (some 'b', "notify"), (some 'u', "nounset"), (some 'p', "privileged"),
   (none, "nolog"), (none, "debug")]

/-- The letters of the options in the order in which a script sees them. -/
def letterOrder : List Char := "pbaCuEVvxsnmiIfe".toList

/-- Sets an option or takes it back. -/
def setOption (on : Bool) (letter : Char) : Act Unit := do
  if !namedOptions.any (·.1 == some letter) then badOption letter
  let letters := (← process).options.filter (· != letter)
  let letters := if on then letter :: letters else letters
  modifyProcess fun p => { p with options := letterOrder.filter letters.contains }

/-- Sets an option by its name or takes it back. -/
def setNamedOption (on : Bool) (name : Octets) : Act Unit := do
  match namedOptions.find? (·.2.toList == name) with
  | some (some letter, _) => setOption on letter
  | some (none, _) => return
  | none => fail ("Illegal option -o ".toList ++ name)

/-- Prints the options, in a table or as the commands that set them. -/
def showOptions (asTable : Bool) : Act Unit := do
  let letters := (← process).options
  let rows := namedOptions.flatMap fun (letter, name) =>
    let on := letter.any letters.contains
    if asTable then
      let blanks := List.replicate (16 - name.length) ' '
      name.toList ++ blanks ++ (if on then "on\n" else "off\n").toList
    else (if on then "set -o " else "set +o ").toList ++ name.toList ++ ['\n']
  let title := if asTable then "Current option settings\n".toList else []
  let _ ← write 1 (title ++ rows)

/-- Sets options by their letters, of which `o` takes a name from the arguments, and gives the
arguments left. -/
def setLetters (on : Bool) : List Char → List Octets → Act (List Octets)
  | [], args => return args
  | 'o' :: letters, name :: args => do
    setNamedOption on name
    setLetters on letters args
  | 'o' :: letters, [] => do
    showOptions on
    setLetters on letters []
  | letter :: letters, args => do
    setOption on letter
    setLetters on letters args

/-- Sets options, at most so often, and gives the letters that are not to be set but told, and the
arguments behind the options, if some follow or two dashes say that none do. -/
def setOptions (told : List Char) :
    Nat → List Octets → Act (List Char × Option (List Octets))
  | 0, _ | _, [] => return ([], none)
  | bound + 1, o :: rest => do
    match o with
    | ['-', '-'] => return ([], some rest)
    | ['-'] =>
      ['x', 'v'].forM (setOption false)
      return ([], if rest.isEmpty then none else some rest)
    | sign :: letters =>
      if sign ≠ '-' ∧ (sign ≠ '+' ∨ letters = []) then return ([], some (o :: rest))
      let left ← setLetters (sign == '-') (letters.filter (!told.contains ·)) rest
      let (found, args) ← setOptions told bound left
      return (letters.filter told.contains ++ found, args)
    | [] => return ([], some ([] :: rest))

/-- Sets options and parameters, or prints the variables that have values. -/
def set (args : List Octets) : Act Nat := do
  if args.isEmpty then return ← showVariables "set".toList [] (·.value.isSome)
  if let (_, some given) ← setOptions [] args.length args then
    modifyProcess fun p => { p with args := given }
  return 0

/-! ## 2. Options in arguments -/

/-- The next option of arguments: its letter, how far the argument has been read, and what is left
of it; nothing behind the last option. -/
def nextOption (args : List Octets) (index offset : Nat) : Option (Char × Octets × Nat) :=
  match (args[index - 2]?.getD []).drop offset with
  | c :: rest => if 0 < offset ∧ 1 < index then some (c, rest, index) else fresh
  | [] => fresh
where
  /-- The first option of the argument with the index. -/
  fresh : Option (Char × Octets × Nat) :=
    match args[index - 1]? with
    | some ('-' :: c :: rest) =>
      if c = '-' ∧ rest = [] then none else some (c, rest, index + 1)
    | _ => none

/-- Reads the next option of arguments into variables. -/
def readOption (args : List Octets) : Act Nat := do
  match args with
  | known :: name :: given =>
    let p ← process
    let given := if given.isEmpty then p.args else given
    let index := (((← value? "OPTIND".toList).bind decimal?).getD 1).toNat
    let offset := match p.optionsRead with
      | some (n, offset) => if n = index then offset else 0
      | none => 0
    let quiet := known.head? = some ':'
    let known := if quiet then known.tail else known
    let finish (status index : Nat) (letter : Char) (offset : Nat) : Act Nat := do
      assign "OPTIND".toList (decimal index)
      assign name [letter]
      modifyProcess fun p => { p with optionsRead := some (index, offset) }
      return status
    let refused (index : Nat) (letter answer : Char) (offset : Nat) (message : Octets) :
        Act Nat := do
      if quiet then
        assign "OPTARG".toList [letter]
        finish 0 index answer offset
      else
        let _ ← write 2 (message ++ ['\n'])
        changeVariable "OPTARG".toList fun _ => none
        finish 0 index '?' offset
    match nextOption given index offset with
    | none =>
      let isEnd := given[index - 1]? = some ['-', '-']
      finish 1 (if isEnd then index + 1 else index) '?' 0
    | some (letter, rest, index) =>
      let offset := if rest.isEmpty then 0 else (given[index - 2]?.getD []).length - rest.length
      if letter = ':' || !known.contains letter then
        refused index letter '?' offset ("Illegal option -".toList ++ [letter])
      else if (known.dropWhile (· ≠ letter))[1]? = some ':' then
        if !rest.isEmpty then
          assign "OPTARG".toList rest
          finish 0 index letter 0
        else match given[index - 1]? with
          | some value =>
            assign "OPTARG".toList value
            finish 0 (index + 1) letter 0
          | none =>
            refused index letter ':' 0 ("No arg for -".toList ++ letter :: " option".toList)
      else
        assign "OPTARG".toList []
        finish 0 index letter offset
  | _ => fail "Usage: getopts optstring var [arg]".toList

end PassContext.Shell.Builtin
