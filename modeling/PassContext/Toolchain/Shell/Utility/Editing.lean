/-
# An editor of lines

A script is a list of commands, each of them a letter behind the addresses of the lines that it is
for.  Commands stand on lines of their own or between semicolons.  An address is the number of a
line, the last line, or an expression; two of them make a range.  Every line goes through all
commands in turn and is printed then.

A script that cannot be read is refused with a message that tells how many characters of it have
been read by then.
-/
import PassContext.Toolchain.Shell.Regex.Reader
import PassContext.Toolchain.Shell.Utility.Options

namespace PassContext.Shell.Editing

/-! ## 1. Commands -/

/-- What says where a command applies. -/
inductive Address
  | line (n : Nat)
  | last
  | holding (f : Finder)

/-- A piece of what is put in place of a match. -/
inductive Piece
  | char (c : Char)
  /-- What a group has matched, or the whole match for zero. -/
  | group (number : Nat)
deriving DecidableEq, Repr

/-- A replacement of matches. -/
structure Substitution where
  finder : Finder
  pieces : List Piece
  /-- The number of the first match that is replaced. -/
  first : Nat
  /-- Whether all matches behind it are replaced. -/
  all : Bool
  prints : Bool

/-- What a command does. -/
inductive Action
  | delete
  | print
  | quit (status : Nat)
  | substitute (s : Substitution)

/-- A command with its addresses. -/
structure Command where
  first : Option Address
  stop : Option Address
  negated : Bool
  action : Action

/-! ## 2. Reading -/

/-- What is left of a script, how much of it has been read, and whether extended expressions are
read. -/
structure Source where
  rest : Octets
  taken : Nat
  extended : Bool

/-- A step of reading a script; it may be refused with a message. -/
abbrev Reading := ExceptT Octets (StateM Source)

/-- Refuses a script. -/
def refuse {α : Type} (message : String) : Reading α := throw message.toList

/-- The next character, if there is one. -/
def next? : Reading (Option Char) := do
  let s ← get
  match s.rest with
  | [] => return none
  | c :: rest =>
    set { s with rest, taken := s.taken + 1 }
    return some c

/-- Puts a character back. -/
def putBack (c : Char) : Reading Unit :=
  modify fun s => { s with rest := c :: s.rest, taken := s.taken - 1 }

/-- Takes the characters off the front that pass a test. -/
def takeChars (test : Char → Bool) : Reading Octets := do
  let s ← get
  let found := s.rest.takeWhile test
  set { s with rest := s.rest.drop found.length, taken := s.taken + found.length }
  return found

/-- The next character that is no blank, if there is one. -/
def nextVisible? : Reading (Option Char) := do
  let _ ← takeChars isBlank
  next?

/-- The number that begins with a digit. -/
def numberFrom (c : Char) : Reading Nat := do
  return valueOf 10 (c :: (← takeChars Char.isDigit))

/-- Reads what may stand behind a command. -/
def finish : Reading Unit := do
  match ← nextVisible? with
  | none | some '\n' | some ';' => return
  | some _ => refuse "extra characters after command"

/-! ## 3. Texts between marks -/

/-- The character that an escape with a letter names, if it names one. -/
def namedChar? (c : Char) : Option Char :=
  match c with
  | 'f' => some '\x0c'
  | 'n' => some '\n'
  | 'r' => some '\r'
  | 't' => some '\t'
  | 'v' => some '\x0b'
  | _ => none

/-- A text in which escapes that name characters are carried out; the other ones stay. -/
def withNames : Octets → Octets
  | '\\' :: c :: rest =>
    match namedChar? c with
    | some named => named :: withNames rest
    | none => '\\' :: c :: withNames rest
  | c :: rest => c :: withNames rest
  | [] => []

/-- The pieces of a replacement. -/
def piecesOf : Octets → List Piece
  | '&' :: rest => .group 0 :: piecesOf rest
  | '\\' :: c :: rest =>
    (if c.isDigit then .group (c.toNat - '0'.toNat) else .char ((namedChar? c).getD c)) ::
      piecesOf rest
  | c :: rest => .char c :: piecesOf rest
  | [] => []

/-- The text up to a mark, which a backslash may quote; at most so many characters are read. -/
def untilMarked (mark : Char) : Nat → Octets → Reading (Option Octets)
  | 0, _ => return none
  | bound + 1, text => do
    match ← next? with
    | none | some '\n' => return none
    | some '\\' =>
      match ← next? with
      | none => return none
      | some c => untilMarked mark bound (if c = mark then c :: text else c :: '\\' :: text)
    | some c => if c = mark then return some text.reverse else untilMarked mark bound (c :: text)

/-- Reads a text up to a mark, or refuses the script. -/
def marked (mark : Char) (message : String) : Reading Octets := do
  match ← untilMarked mark ((← get).rest.length + 1) [] with
  | some text => return text
  | none => refuse message

/-- What looks for an expression. -/
def finderFor (text : Octets) (foldsCase : Bool) : Reading Finder := do
  if text = [] then refuse "no previous regular expression"
  match finderOf ⟨(← get).extended, true, false⟩ foldsCase (withNames text) with
  | .ok f => return f
  | .error message => refuse message

/-! ## 4. Parts of commands -/

/-- Reads the address that begins with a character, if one does. -/
def readAddress (c : Option Char) : Reading (Option Address) := do
  match c with
  | some '$' => return some .last
  | some '/' =>
    return some (.holding (← finderFor (← marked '/' "unterminated address regex") false))
  | some c =>
    if !c.isDigit then
      putBack c
      return none
    let n ← numberFrom c
    if n = 0 then refuse "invalid usage of line address 0"
    return some (.line n)
  | none => return none

/-- The options of a substitution. -/
structure SubstitutionOptions where
  all : Bool
  prints : Bool
  first : Option Nat
  foldsCase : Bool

/-- Reads the options of a substitution, at most so many. -/
def readSubstitutionOptions : Nat → SubstitutionOptions → Reading SubstitutionOptions
  | 0, o => return o
  | bound + 1, o => do
    match ← nextVisible? with
    | none | some '\n' | some ';' => return o
    | some 'i' | some 'I' => readSubstitutionOptions bound { o with foldsCase := true }
    | some 'p' => readSubstitutionOptions bound { o with prints := true }
    | some 'g' => readSubstitutionOptions bound { o with all := true }
    | some c =>
      if !c.isDigit then refuse "unknown option to \x60s'"
      let n ← numberFrom c
      if n = 0 then refuse "number option to \x60s' command may not be zero"
      readSubstitutionOptions bound { o with first := some n }

/-- Reads a substitution. -/
def readSubstitution : Reading Substitution := do
  let message := "unterminated \x60s' command"
  match ← next? with
  | none => refuse message
  | some mark =>
    let text ← marked mark message
    let pieces := piecesOf (← marked mark message)
    let o ← readSubstitutionOptions ((← get).rest.length + 1) ⟨false, false, none, false⟩
    let f ← finderFor text o.foldsCase
    let groups := pieces.filterMap fun p => match p with
      | .group k => some k
      | .char _ => none
    let greatest := groups.foldl max 0
    if f.groups < greatest then
      throw ("invalid reference \\".toList ++ decimal greatest ++ " on \x60s' command's RHS".toList)
    return ⟨f, pieces, o.first.getD 1, o.all, o.prints⟩

/-- Reads the action of a command that has a letter. -/
def readAction (letter : Char) : Reading Action := do
  let plain (a : Action) : Reading Action := do
    finish
    return a
  match letter with
  | 'd' => plain .delete
  | 'p' => plain .print
  | 'q' =>
    let _ ← takeChars isBlank
    plain (.quit (valueOf 10 (← takeChars Char.isDigit)))
  | 's' => return .substitute (← readSubstitution)
  | c => throw ("unknown command: \x60".toList ++ c :: ['\''])

/-- Reads commands, at most so many. -/
def readCommands : Nat → Reading (List Command)
  | 0 => return []
  | bound + 1 => do
    let _ ← takeChars fun c => isSpace c || c = ';'
    if (← get).rest = [] then return []
    let first ← readAddress (← next?)
    let c ← nextVisible?
    let (stop, c) ← if c = some ',' then do
        match ← readAddress (← nextVisible?) with
        | none => refuse "unexpected \x60,'"
        | some a => pure (some a, ← nextVisible?)
      else pure (none, c)
    let (negated, c) ← if c = some '!' then pure (true, ← nextVisible?) else pure (false, c)
    match c with
    | none => refuse "missing command"
    | some letter =>
      let action ← readAction letter
      return ⟨first, stop, negated, action⟩ :: (← readCommands bound)

/-- The commands of a script, or a message about it with how many characters have been read. -/
def commandsOf (extended : Bool) (script : Octets) : Except (Octets × Nat) (List Command) :=
  match (readCommands (script.length + 1)).run ⟨script, 0, extended⟩ with
  | (.ok commands, _) => .ok commands
  | (.error message, s) => .error (message, s.taken)

/-! ## 5. Replacing -/

/-- What is put in place of a match. -/
def replacement (text : Array Char) (start stop : Nat) (groups : Captures) (pieces : List Piece) :
    Octets :=
  pieces.flatMap fun p =>
    match p with
    | .char c => [c]
    | .group 0 => pieceOf text (some (start, stop))
    | .group n => pieceOf text (groups[n]?).join

/-- Replaces matches from a place on, where one that is empty does not begin at the end of the one
before; gives the text, if a match has been replaced.  At most so many matches are looked for. -/
def replaceFrom (s : Substitution) (text : Array Char) :
    Nat → (start count : Nat) → (before : Option Nat) → Option Octets
  | 0, _, _, _ => none
  | bound + 1, start, count, before => do
    let (i, j, groups) ← s.finder.find? text start
    let piece (i j : Nat) : Octets := (text.extract i j).toList
    let rest (i : Nat) : Octets := piece i text.size
    -- Behind an empty match one character is passed over.
    let goOn (count : Nat) : Option Octets :=
      if j < i + 1 then
        if text.size ≤ i then none
        else (replaceFrom s text bound (i + 1) count none).map (piece i (i + 1) ++ ·)
      else replaceFrom s text bound j count (some j)
    if i = j ∧ before = some i then (goOn count).map (piece start i ++ ·)
    else if count + 1 < s.first then (goOn (count + 1)).map (piece start j ++ ·)
    else
      let front := piece start i ++ replacement text i j groups s.pieces
      return front ++ if s.all then (goOn (count + 1)).getD (rest j) else rest j

/-! ## 6. Lines -/

/-- What a script works on. -/
structure Machine where
  /-- The lines to come, each with whether a newline ends it. -/
  input : List (Octets × Bool)
  /-- The number of the line that is being worked on. -/
  number : Nat
  space : Octets
  ended : Bool
  /-- The commands whose ranges have begun and have not ended. -/
  ranges : List Nat
  /-- What has been printed, from its end. -/
  out : List Octets

namespace Machine

/-- Prints the line; what was printed before it without a newline is completed. -/
def printLine (m : Machine) : Machine :=
  let isOpen := m.out.head?.any fun o => o.getLast? ≠ some '\n'
  let text := (if isOpen then ['\n'] else []) ++ m.space ++ (if m.ended then ['\n'] else [])
  { m with out := text :: m.out }

/-- Goes on to the next line, if there is one. -/
def advance? (m : Machine) : Option Machine :=
  match m.input with
  | [] => none
  | (space, ended) :: input => some { m with input, space, ended, number := m.number + 1 }

/-- Whether the line is at an address. -/
def isAt (m : Machine) (a : Address) : Bool :=
  match a with
  | .line n => m.number = n
  | .last => m.input.isEmpty
  | .holding f => (f.find? m.space.toArray 0).isSome

/-- Whether a command with a number applies to the line, and which ranges go on behind it. -/
def applies (m : Machine) (i : Nat) (c : Command) : Bool × List Nat :=
  let others := m.ranges.filter (· ≠ i)
  match c.first, c.stop with
  | none, _ => (true, m.ranges)
  | some a, none => (m.isAt a, m.ranges)
  | some a, some stop =>
    let isOver : Bool := match stop with
      | .line n => n ≤ m.number
      | stop => m.isAt stop
    if m.ranges.contains i then
      let isPast : Bool := match stop with
        | .line n => n < m.number
        | _ => false
      (!isPast || m.isAt a, if isOver then others else m.ranges)
    else if m.isAt a then
      -- An expression ends no range on the line on which the range begins.
      let endsHere : Bool := match stop with
        | .line n => n ≤ m.number
        | .last => m.input.isEmpty
        | .holding _ => false
      (true, if endsHere then others else i :: m.ranges)
    else (false, m.ranges)

/-- Runs commands, each with its number, on the line; a status ends the script. -/
def runCommands (quiet : Bool) : List (Command × Nat) → Machine → Machine × Option Nat
  | [], m => (if quiet then m else m.printLine, none)
  | (c, i) :: rest, m =>
    let (applies, ranges) := m.applies i c
    let m := { m with ranges }
    if applies == c.negated then runCommands quiet rest m
    else match c.action with
      | .delete => (m, none)
      | .print => runCommands quiet rest m.printLine
      | .quit status => (if quiet then m else m.printLine, some status)
      | .substitute s =>
        let text := m.space.toArray
        match replaceFrom s text (2 * text.size + 2) 0 0 none with
        | none => runCommands quiet rest m
        | some space =>
          let m := { m with space }
          runCommands quiet rest (if s.prints then m.printLine else m)

/-- Runs commands on line after line, on at most so many. -/
def runLines (quiet : Bool) (commands : List (Command × Nat)) :
    Nat → Machine → Machine × Option Nat
  | 0, m => (m, none)
  | bound + 1, m =>
    match m.advance? with
    | none => (m, none)
    | some m =>
      match m.runCommands quiet commands with
      | (m, none) => runLines quiet commands bound m
      | result => result

end Machine

end PassContext.Shell.Editing

namespace PassContext.Shell.Utility

/-! ## 7. The program -/

/-- The options of the editor. -/
def sedOptions : Known :=
  ⟨"nrEe:", [("expression", 'e'), ("quiet", 'n'), ("silent", 'n'), ("regexp-extended", 'E')], true⟩

def sed (args : List Octets) : Act Nat := do
  let usage := "Usage: sed [OPTION]... \x7bscript-only-if-no-other-script\x7d [input-file]...\n"
  match sedOptions.read args with
  | .error message =>
    complainAs "sed" message
    let _ ← write 2 usage.toList
    return 1
  | .ok given =>
    let (scripts, operands) : List Octets × List Octets :=
      match given.values 'e', given.operands with
      | [], script :: operands => ([script], operands)
      | scripts, operands => (scripts, operands)
    if scripts.isEmpty then
      let _ ← write 2 usage.toList
      return 1
    match Editing.commandsOf (given.has 'E' || given.has 'r') (['\n'].intercalate scripts) with
    | .error (message, taken) =>
      complainAs "sed" ("-e expression #1, char ".toList ++ decimal taken ++ ": ".toList ++ message)
      return 1
    | .ok commands =>
      let told (operand : Octets) (reason : String) : Octets :=
        if reason = "Is a directory" then
          "couldn't read ".toList ++ operand ++ ": ".toList ++ reason.toList
        else "can't read ".toList ++ operand ++ ": ".toList ++ reason.toList
      let (texts, status) ← readNamed "sed" told 2 operands
      let lines := texts.flatMap fun (_, text) => (wholeLines text).map fun line =>
        if line.getLast? = some '\n' then (line.dropLast, true) else (line, false)
      let (m, quit) := Editing.Machine.runLines (given.has 'n') commands.zipIdx (lines.length + 1)
        ⟨lines, 0, [], true, [], []⟩
      printing (quit.getD status % 256) m.out.reverse.flatten

end PassContext.Shell.Utility
