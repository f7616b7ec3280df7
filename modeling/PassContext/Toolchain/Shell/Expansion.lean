/-
# Expanding words

The parts of a word are expanded to pieces, which are characters with a note on how they came
about: plain ones stand in the script, quoted ones are neither split nor read as a pattern, and
split ones came out of an unquoted expansion.  Pieces become fields where split characters
separate them, and a field becomes the paths that it matches; where no fields are wanted, pieces
become one text or one pattern.
-/
import PassContext.Toolchain.Shell.Arithmetic
import PassContext.Toolchain.Shell.Glob

namespace PassContext.Shell

/-! ## 1. Pieces -/

/-- How a character of an expanded word came about. -/
inductive Mark
  | plain
  | quoted
  | split
deriving DecidableEq, Repr

/-- A piece of an expanded word. -/
inductive Piece
  | char (mark : Mark) (c : Char)
  /-- Quotes with nothing in them, which make a field nevertheless. -/
  | present
  /-- The boundary between two parameters, which are fields of their own; between quotes they are
  fields even if they are empty. -/
  | boundary (quoted : Bool)
deriving DecidableEq, Repr

/-- A character that came out of an expansion. -/
def expandedChar (quoted : Bool) (c : Char) : Piece := .char (if quoted then .quoted else .split) c

/-- The pieces of a text that came out of an expansion. -/
def expanded (quoted : Bool) (o : Octets) : List Piece := o.map (expandedChar quoted)

/-- The text of pieces that are not separated. -/
def joinedText (ps : List Piece) : Octets :=
  ps.flatMap fun
    | .char _ c => [c]
    | .present => []
    | .boundary _ => [' ']

/-- The pattern of pieces that are not separated. -/
def joinedPattern (ps : List Piece) : List PatternChar :=
  ps.flatMap fun
    | .char mark c => [⟨mark = .quoted, c⟩]
    | .present => []
    | .boundary _ => [⟨false, ' '⟩]

/-- The field that is being made, the last character first, if there is one, and whether white
space ended the one before it. -/
structure Splitting where
  field : Option (List PatternChar)
  afterBlank : Bool

/-- The fields of pieces that given characters separate.  White space separates as a whole,
another character alone, with white space around it. -/
def fieldsOf (separators : Octets) (s : Splitting) : List Piece → List (List PatternChar)
  | [] => s.field.toList.map List.reverse
  | .present :: ps => fieldsOf separators ⟨some (s.field.getD []), false⟩ ps
  | .boundary true :: ps =>
    (s.field.getD []).reverse :: fieldsOf separators ⟨some [], false⟩ ps
  | .boundary false :: ps =>
    s.field.toList.map List.reverse ++ fieldsOf separators ⟨none, false⟩ ps
  | .char mark c :: ps =>
    if mark = .split ∧ c ∈ separators then
      match s.field with
      | some field => field.reverse :: fieldsOf separators ⟨none, isBlank c || c == '\n'⟩ ps
      | none =>
        if isBlank c || c == '\n' then fieldsOf separators s ps
        else if s.afterBlank then fieldsOf separators ⟨none, false⟩ ps
        else [] :: fieldsOf separators ⟨none, false⟩ ps
    else
      let c : PatternChar := ⟨mark = .quoted, c⟩
      fieldsOf separators ⟨some (c :: s.field.getD []), false⟩ ps

/-! ## 2. Parameters -/

/-- The values of a parameter: nothing if it is not set, and for all parameters one value each. -/
def paramValues? (name : Octets) : Act (Option (List Octets)) := do
  let p ← process
  match String.ofList name with
  | "@" | "*" => return some p.args
  | "#" => return some [decimal p.args.length]
  | "?" => return some [decimal p.status]
  | "$" => return some [decimal p.number]
  | "!" => return p.lastJob.map fun number => [decimal number]
  | "-" => return some [p.options]
  | "0" => return some [p.name]
  | _ =>
    match natural? 10 name with
    | some (n, _) => return (p.args[n - 1]?).map fun o => [o]
    | none => return (← value? name).map fun o => [o]

/-- The text of the values of a parameter.  Where fields are wanted, all parameters are separated
by a character that no value holds, unless a quoted star joins them; else the first separator
joins them. -/
def valueText (split quoted : Bool) (name : Octets) (values : List Octets) : Act Octets := do
  let between ←
    if split && (!quoted || name = ['@']) then pure [boundaryChar]
    else pure ((← separators).take 1)
  return between.intercalate values

/-- The pieces of the text of a parameter. -/
def textPieces (quoted : Bool) (o : Octets) : List Piece :=
  o.map fun c => if c = boundaryChar then .boundary quoted else expandedChar quoted c

/-- Reads a variable of an arithmetic expression. -/
def lookInteger (name : Octets) : Act Int64 := do
  match ← value? name with
  | none => return 0
  | some o =>
    if o.all isSpace then return 0
    match integer? prefixedNatural? o with
    | some (n, rest) =>
      if rest.all isSpace && minInteger ≤ n && n ≤ maxInteger then return Int64.ofInt n
      badNumber o
    | none => badNumber o

/-- The value of an arithmetic expression. -/
def evaluate (o : Octets) : Act Int64 :=
  (arithOf o).value {
    look := lookInteger
    store := fun name n => assign name (decimal n.toInt)
    stop := fun message =>
      fail ("arithmetic expression: ".toList ++ message.toList ++ ": \"".toList ++ o ++ ['"']) }

/-! ## 3. Words -/

/-- The pieces of a word of a parameter; where the parameter is not quoted, they are split. -/
def splitPieces (quoted : Bool) (ps : List Piece) : List Piece :=
  if quoted then ps
  else ps.map fun
    | .char .plain c => .char .split c
    | p => p

/-- Whether a parameter counts as not set. -/
def isUnset (orEmpty : Bool) : Option (List Octets) → Bool
  | none => true
  | some values => orEmpty && values.all List.isEmpty

/-- Where in plain text a tilde may stand for a directory. -/
structure Tildes where
  atStart : Bool
  behindColons : Bool

/-- The directory of a user, if the user is known. -/
def userDirectory? (name : Octets) : Option String :=
  (users.find? (·.1.toList == name)).map (·.2)
where
  /-- The users that every system has. -/
  users : List (String × String) :=
    [("root", "/root"), ("daemon", "/usr/sbin"), ("bin", "/bin"), ("sys", "/dev"),
     ("sync", "/bin"), ("games", "/usr/games"), ("man", "/var/cache/man"),
     ("lp", "/var/spool/lpd"), ("mail", "/var/mail"), ("news", "/var/spool/news"),
     ("uucp", "/var/spool/uucp"), ("proxy", "/bin"), ("www-data", "/var/www"),
     ("backup", "/var/backups"), ("list", "/var/list"), ("irc", "/run/ircd"),
     ("_apt", "/nonexistent"), ("nobody", "/nonexistent")]

/-- The directory that a tilde stands for with a name behind it, if there is one. -/
def homeOf? (name : Octets) : Act (Option Octets) := do
  if name = [] then return ← value? "HOME".toList
  return (userDirectory? name).map String.toList

/-- The pieces of plain text in which tildes may stand for directories.  The name behind a tilde
ends with a slash or with the word, and where tildes may stand behind colons, with a colon. -/
def tildePieces (tildes : Tildes) (isLast : Bool) : Nat → Octets → Act (List Piece)
  | 0, _ | _, [] => return []
  | bound + 1, c :: o => do
    let behind : Tildes := ⟨tildes.behindColons && c = ':', tildes.behindColons⟩
    let rest (o : Octets) : Act (List Piece) := tildePieces behind isLast bound o
    if c ≠ '~' || !tildes.atStart then return .char .plain c :: (← rest o)
    let name := o.takeWhile fun c => c ≠ '/' && !(tildes.behindColons && c = ':')
    if name.length = o.length && !isLast then return .char .plain c :: (← rest o)
    match ← homeOf? name with
    | none => return .char .plain c :: (← rest o)
    | some directory =>
      return directory.map (.char .quoted) ++ (← rest (o.drop name.length))

mutual

/-- The pieces of a part of a word, from which fields are to be made or not.  Nested scripts are run
by `run`, which gives what they print. -/
def expandPart (run : Statement → Act Octets) (split : Bool) (tildes : Tildes) (isLast : Bool) :
    Part → Act (List Piece)
  | .text true text => return if text = [] then [.present] else text.map (.char .quoted)
  | .text false text => tildePieces tildes isLast (text.length + 1) text
  | .output quoted body => return expanded quoted (← run body)
  | .number quoted expression => do
    let o := joinedText (← expandParts run false ⟨false, false⟩ expression)
    return expanded quoted (decimal (← evaluate o).toInt)
  | .param quoted name form word => do
    let values ← paramValues? name
    let text ← valueText (split && form != .length) quoted name (values.getD [])
    let present : List Piece := if quoted && !(values.getD []).isEmpty then [.present] else []
    let found : Act (List Piece) := do
      if values.isNone && (← hasOption 'u') then
        fail (name ++ ": parameter not set".toList)
      return present ++ textPieces quoted text
    match form with
    | .value => found
    | .length => return expanded quoted (decimal (joinedText (← found)).length)
    | .default orEmpty =>
      if isUnset orEmpty values then
        return splitPieces quoted (← expandParts run split { tildes with atStart := true } word)
      found
    | .alternative orEmpty =>
      if isUnset orEmpty values then return []
      return splitPieces quoted (← expandParts run split { tildes with atStart := true } word)
    | .assign orEmpty =>
      if !isUnset orEmpty values then return ← found
      if !isName name then fail (name ++ ": bad variable name".toList)
      let o := joinedText (← expandParts run false ⟨true, false⟩ word)
      assign name o
      return expanded quoted o
    | .demand orEmpty =>
      if !isUnset orEmpty values then return ← found
      if word.isEmpty then
        let tail := if orEmpty then " or null" else ""
        fail (name ++ ": parameter not set".toList ++ tail.toList)
      fail (name ++ ": ".toList ++ joinedText (← expandParts run false ⟨true, false⟩ word))
    | .trimStart longest => do
      if values.isNone then return ← found
      let pattern := joinedPattern (← expandParts run false ⟨true, false⟩ word)
      return present ++ textPieces quoted (trimStart longest pattern text)
    | .trimEnd longest => do
      if values.isNone then return ← found
      let pattern := joinedPattern (← expandParts run false ⟨true, false⟩ word)
      return present ++ textPieces quoted (trimEnd longest pattern text)
    | .bad => fail "Bad substitution".toList

/-- The pieces of the parts of a word. -/
def expandParts (run : Statement → Act Octets) (split : Bool) (tildes : Tildes) :
    List Part → Act (List Piece)
  | [] => return []
  | part :: parts => do
    let ps ← expandPart run split tildes parts.isEmpty part
    let qs ← expandParts run split { tildes with atStart := false } parts
    return ps ++ qs

end

/-- The fields of a word. -/
def expandFields (run : Statement → Act Octets) (word : List Part) : Act (List Octets) := do
  let pieces ← expandParts run true ⟨true, false⟩ word
  let fields ← (fieldsOf (← separators) ⟨none, false⟩ pieces).mapM pathsOf
  return fields.flatten

/-- The text of a word, where no fields are wanted. -/
def expandText (run : Statement → Act Octets) (tildes : Tildes) (word : List Part) :
    Act Octets := do
  return joinedText (← expandParts run false tildes word)

/-- The pattern of a word. -/
def expandPattern (run : Statement → Act Octets) (word : List Part) : Act (List PatternChar) := do
  return joinedPattern (← expandParts run false ⟨true, false⟩ word)

end PassContext.Shell
