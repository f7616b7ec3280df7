/-
# Commands about variables

Variables are marked, taken away, made local to a function, or read from the standard input.
-/
import PassContext.Toolchain.Shell.Builtin.Arguments

namespace PassContext.Shell.Builtin

/-! ## 1. Marks -/

/-- Prints variables in the order of their names, each behind a verb. -/
def showVariables (name verb : Octets) (shown : Variable → Bool) : Act Nat := do
  let bindings := ((← process).bindings.filter (shown ·.2)).mergeSort fun a b => precedes a.1 b.1
  print name <| bindings.flatMap fun (name, v) =>
    verb ++ name ++ (match v.value with
      | some o => '=' :: requoted o
      | none => []) ++ ['\n']

/-- Marks variables, which may be assigned, too. -/
def markVariables (verb : String) (mark : Variable → Variable) (has : Variable → Bool)
    (args : List Octets) : Act Nat := do
  let (letters, args) ← optionsOf ['p'] args
  if args.isEmpty || !letters.isEmpty then
    return ← showVariables verb.toList (verb.toList ++ [' ']) has
  args.forM fun o => do
    let (name, value) := assigned o
    checkName name
    if let some value := value then assign name value
    let v := (← binding? name).getD ⟨none, false, false⟩
    modifyProcess (·.withVariable name (some (mark v)))
  return 0

def unset (args : List Octets) : Act Nat := do
  let (letters, args) ← optionsOf ['f', 'v'] args
  args.forM fun name => do
    if letters.getLast? = some 'f' then
      modifyProcess fun p => { p with functions := p.functions.filter (·.1 != name) }
    else
      checkName name
      if (← binding? name).isSome then changeVariable name fun _ => none
  return 0

/-- Makes variables local to the current function; they keep their values at first. -/
def makeLocal (args : List Octets) : Act Nat := do
  args.forM fun o => do
    let (name, value) := assigned o
    match (← process).saved with
    | none => fail "not in a function".toList
    | some saved =>
      checkName name
      let before ← binding? name
      modifyProcess fun p => { p with saved := some ((name, before) :: saved) }
      if let some value := value then assign name value
  return 0

/-! ## 2. Reading -/

/-- The line that is read, where a backslash hides the end of a line, with a note on each
character whether a backslash was in front of it; and whether the line has an end.  At most so
many lines are read. -/
def readLine (raw : Bool) : Nat → Act (List (Bool × Char) × Bool)
  | 0 => return ([], false)
  | bound + 1 => do
    let o := ((← read? 0 true).getD []).filter (· ≠ '\x00')
    let ended := o.getLast? = some '\n'
    let (line, hidden) := noted (if ended then o.dropLast else o)
    if hidden && ended then
      let (more, ended) ← readLine raw bound
      return (line ++ more, ended)
    return (line, ended)
where
  /-- A line with its notes, and whether a backslash stands at its end. -/
  noted : Octets → List (Bool × Char) × Bool
    | [] => ([], false)
    | '\\' :: rest =>
      if raw then ((false, '\\') :: (noted rest).1, (noted rest).2)
      else match rest with
        | [] => ([], true)
        | c :: rest => ((true, c) :: (noted rest).1, (noted rest).2)
    | c :: rest => ((false, c) :: (noted rest).1, (noted rest).2)

/-- Divides a line among so many names: one field for each name but the last, which takes the
rest. -/
def divided (separators : Octets) : Nat → List (Bool × Char) → List Octets
  | 0, _ => []
  | count + 1, line =>
    let separates (p : Bool × Char) : Bool := !p.1 && separators.contains p.2
    let blank (p : Bool × Char) : Bool := separates p && isSpace p.2
    let line := line.dropWhile blank
    let field := line.takeWhile fun p => !separates p
    let behind := (line.drop field.length).dropWhile blank
    let behind := match behind with
      | p :: rest => if separates p then rest.dropWhile blank else behind
      | [] => []
    if count = 0 ∧ !behind.isEmpty then
      [((line.reverse.dropWhile blank).reverse).map (·.2)]
    else field.map (·.2) :: divided separators count behind

def readVariables (args : List Octets) : Act Nat := do
  let (raw, names) ← match args with
    | ['-', 'p'] :: _ :: rest => pure (false, rest)
    | args =>
      let (letters, names) ← optionsOf ['r'] args
      pure (!letters.isEmpty, names)
  if names.isEmpty then fail "arg count".toList
  names.forM checkName
  let (line, ended) ← readLine raw maxRepetitions
  let fields := divided (← separators) names.length line
  (names.zip fields).forM fun (name, field) => assign name field
  return statusOf ended

end PassContext.Shell.Builtin
