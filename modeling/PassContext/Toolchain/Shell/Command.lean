/-
# Running simple statements

The fields of a simple statement begin with a command: one that is built in, a function or a
program.  A special built-in command changes the process for good, even by the assignments in front
of it, and ends it when it is misused; for any other command assignments and redirections are put
back when it ends.  A program runs as a process of its own.

What runs statements and scripts is given as a `Runner`, so that the commands here need not know
how statements are run.
-/
import PassContext.Toolchain.Shell.Expansion
import PassContext.Toolchain.Shell.Launch
import PassContext.Toolchain.Shell.Script

namespace PassContext.Shell

/-! ## 1. Nested scripts and redirections -/

/-- What a statement prints, run as a process of its own; without the newlines at the end. -/
def capture (r : Runner) (body : Statement) : Act Octets := do
  let (n, files) := (← get).files.addFile []
  let (h, files) := files.openFile n false
  modify fun s => { s with files }
  let _ ← Builtin.freeRank
  let status ← inSubshell r.script do
    setHandle 1 (some h)
    modifyProcess fun p => { p with tested := false }
    r.statement body
  runWaiting r
  modifyProcess fun p => { p with nestedStatus := status }
  return withoutFinalNewlines ((← contentOf n).filter (· ≠ '\x00'))

/-- Complains that a file cannot be opened. -/
def refuseFile (verb : String) (path : Octets) (reason : String) : Act Bool := do
  complain ("cannot ".toList ++ verb.toList ++ ' ' :: path ++ ": ".toList ++ reason.toList)
  return false

/-- Why nothing can be read at a place, if nothing can. -/
def unreadable? : Place → Option String
  | .absent _ _ | .refused .missing | .refused .notDirectory => some "No such file"
  | .refused t => some t.shown
  | .device .terminal => some "No such device or address"
  | _ => none

/-- Why nothing can be written at a place, if nothing can. -/
def unwritable? : Place → Option String
  | .directory _ | .absent _ true => some "Is a directory"
  | .program _ => some "Text file busy"
  | .refused .missing | .refused .notDirectory => some "Directory nonexistent"
  | .refused t => some t.shown
  | .device .terminal => some "No such device or address"
  | _ => none

/-- Lets a descriptor lead to a file, and tells whether it can. -/
def redirectToFile (descriptor : Nat) (access : Access) (path : Octets) : Act Bool := do
  let p ← place path
  if access = .read then
    if let some reason := unreadable? p then return ← refuseFile "open" path reason
    match p with
    | .file _ n =>
      let (h, files) := (← get).files.openFile n false
      modify fun s => { s with files }
      setHandle descriptor (some h)
    | .device d => setHandle descriptor (some (.device d))
    | .descriptor n => setHandle descriptor (← handle? n)
    | .directory _ => setHandle descriptor (some .directory)
    | _ => setHandle descriptor (some (.device .null))
    return true
  if let some reason := unwritable? p then return ← refuseFile "create" path reason
  if access = .write && (← hasOption 'C') && p matches .file _ _ then
    return ← refuseFile "create" path "File exists"
  match ← openPlace p (access = .write || access = .overwrite) (access = .append) with
  | .ok h =>
    setHandle descriptor (some h)
    return true
  | .error _ => refuseFile "create" path "Directory nonexistent"

/-- Carries a redirection out, and tells whether it could. -/
def redirect (r : Runner) : Redirect → Act Bool
  | .file descriptor access name => do
    redirectToFile descriptor access (← expandText (capture r) ⟨true, false⟩ name)
  | .here descriptor text => do
    match ← attempt (expandText (capture r) ⟨false, false⟩ text) with
    | .error .failure => return false
    | .error stop => throw stop
    | .ok o =>
      let (n, files) := (← get).files.addFile o
      let (h, files) := files.openFile n false
      modify fun s => { s with files }
      setHandle descriptor (some h)
      return true
  | .copy descriptor source => do
    match ← expandText (capture r) ⟨true, false⟩ source with
    | ['-'] =>
      setHandle descriptor none
      return true
    | [c] =>
      if !c.isDigit then fail "Syntax error: Bad fd number".toList
      match ← handle? (valueOf 10 [c]) with
      | some h =>
        setHandle descriptor (some h)
        return true
      | none =>
        complain (c :: ": Bad file descriptor".toList)
        return false
    | _ => fail "Syntax error: Bad fd number".toList

/-- Carries redirections out, up to one that cannot be. -/
def redirectAll (r : Runner) : List Redirect → Act Bool
  | [] => return true
  | redirection :: rest => do
    if ← redirect r redirection then redirectAll r rest else return false

/-- Runs an action with redirections, which are put back afterwards; if one of them cannot be
carried out, another action is run. -/
def redirected (r : Runner) (redirects : List Redirect) (otherwise a : Act Nat) : Act Nat :=
  restoring (fun before after => { after with descriptors := before.descriptors }) do
    if ← redirectAll r redirects then a else otherwise

/-! ## 2. Assignments -/

/-- Assigns for good. -/
def assignAll (r : Runner) (sets : List (Octets × List Part)) : Act (List (Octets × Octets)) :=
  sets.mapM fun (name, word) => do
    let value ← expandText (capture r) ⟨true, true⟩ word
    assign name value
    return (name, value)

/-- Runs an action with assignments, which are put back afterwards.  What a value does to other
variables while it is expanded is kept. -/
def withAssigned (r : Runner) (a : List (Octets × Octets) → Act Nat) :
    List (Octets × Octets) → List (Octets × List Part) → Act Nat
  | values, [] => do
    values.forM fun (name, _) => changeVariable name fun v => some { v with exported := true }
    a values
  | values, (name, word) :: sets => do
    let value ← expandText (capture r) ⟨true, true⟩ word
    restoring (fun before after => after.withVariable name (before.bindings.lookup name)) do
      assign name value
      withAssigned r a (values ++ [(name, value)]) sets

/-- Writes what is about to be run, if the script asks for that. -/
def trace (values : List (Octets × Octets)) (fields : List Octets) : Act Unit := do
  if ← hasOption 'x' then
    let mark := (← value? "PS4".toList).getD []
    let shown := values.map (fun (name, value) => name ++ '=' :: value) ++ fields
    let _ ← write 2 (mark ++ spaced shown ++ ['\n'])

/-! ## 3. Functions -/

/-- Puts the variables back that the current function made its own. -/
def Process.withoutLocals (p : Process) : Process :=
  (p.saved.getD []).foldl (fun p (name, v) => p.withVariable name v) p

/-- How many functions may be around a statement. -/
def maxCalls : Nat := 1000

/-- Runs a function. -/
def callFunction (r : Runner) (body : Statement) (args : List Octets) : Act Nat := do
  if maxCalls ≤ (← process).calls then
    fail ("Maximum function recursion depth (".toList ++ decimal maxCalls ++ ") reached".toList)
  restoring (fun before after =>
    { after.withoutLocals with
      args := before.args, loops := before.loops, calls := before.calls, saved := before.saved }) do
    modifyProcess fun p => { p with args, loops := 0, calls := p.calls + 1, saved := some [] }
    match ← attempt (r.statement body) with
    | .ok status | .error (.return status) => return status
    | .error stop => throw stop

/-! ## 4. Commands -/

/-- What a name stands for as a command. -/
inductive Meaning
  | special (run : List Octets → Act Nat)
  | function (body : Statement)
  | regular (run : List Octets → Act Nat)
  | external

/-- Runs a script in the process itself. -/
def evaluateArgs (r : Runner) (args : List Octets) : Act Nat :=
  if args.isEmpty then return 0 else r.script (spaced args)

/-- The path of a script that is given by its name, in the directories of programs. -/
def scriptPath (name : Octets) : Act Octets := do
  let paths := (← searchPath).map fun directory =>
    if directory = [] then name else directory ++ '/' :: name
  match ← paths.findM? fun path => return (← place path) matches .file _ _ with
  | some path => return path
  | none => fail (name ++ ": not found".toList)

/-- Runs the script in a file in the process itself. -/
def runFile (r : Runner) (args : List Octets) : Act Nat := do
  match args with
  | [] => return 0
  | path :: _ =>
    let run (script : Octets) : Act Nat := do
      match ← attempt (r.script script) with
      | .ok status | .error (.return status) => return status
      | .error stop => throw stop
    let path ← if path.contains '/' then pure path else scriptPath path
    match ← place path with
    | .file _ n => run (← contentOf n)
    | .descriptor n => run ((← read? n false).getD [])
    | .device _ | .directory _ => return 0
    | _ => fail ("cannot open ".toList ++ path ++ ": No such file".toList)

/-- Runs a program in place of the script. -/
def replace (r : Runner) (args : List Octets) : Act Nat := do
  match args with
  | [] => return 0
  | name :: args =>
    match ← find name with
    | .ok (_, program) =>
      modifyProcess fun p => { p with builtin := none }
      let ended ← launchFound r program name args
      modifyProcess fun p => { p with traps := p.traps.filter (·.2 = []) }
      Builtin.meetArrived
      match ended with
      | .exit status => throw (.exit status)
      | .killed s => throw (.killed s)
    | .error why =>
      let _ ← refuseProgram name why
      throw (.exit (if why = .denied then 126 else 127))

/-- Looks programs up, forgets those that have been found, or tells their paths. -/
def lookUp (args : List Octets) : Act Nat := do
  let (letters, args) ← Builtin.optionsOf ['r'] args
  if !letters.isEmpty then
    modifyProcess fun p => { p with found := [] }
    return 0
  if args.isEmpty then
    let found := (← process).found.reverse
    let ranked := found.mergeSort fun a b => Builtin.listRank 31 a.1 ≤ Builtin.listRank 31 b.1
    return ← Builtin.print "hash".toList (ranked.flatMap fun entry => entry.2 ++ ['\n'])
  args.foldlM (fun status name => do
    match ← find name with
    | .ok (path, _) =>
      if !name.contains '/' then remember name path
      return status
    | .error why =>
      let _ ← refuseProgram name why
      return 1) 0

/-- Waits for the background processes, and tells how they ended. -/
def wait (r : Runner) (args : List Octets) : Act Nat := do
  runWaiting r
  Builtin.endings args

/-- What a name stands for, apart from functions. -/
def builtinMeaning (r : Runner) (describe : List Octets → Act Nat)
    (command : List Octets → Act Nat) (name : Octets) : Meaning :=
  match String.ofList name with
  | "." => .special (runFile r)
  | "eval" => .special (evaluateArgs r)
  | "exec" => .special (replace r)
  | "command" => .regular command
  | "type" => .regular describe
  | "hash" => .regular lookUp
  | "wait" => .regular (wait r)
  | _ =>
    match Builtin.special? name, Builtin.regular? name with
    | some run, _ => .special run
    | none, some run => .regular run
    | none, none => .external

/-- What a description says about a name, in a sentence or in short; nothing if the name stands
for nothing. -/
def description? (inFull : Bool) (name : Octets) : Act (Option Octets) := do
  let say (text : String) (short : Octets) : Option Octets :=
    some (if inFull then name ++ " is ".toList ++ text.toList else short)
  if reservedWords.any (·.toList == name) then return say "a shell keyword" name
  if let some text := (← process).aliases.lookup name then
    return some (if inFull then name ++ " is an alias for ".toList ++ text
      else "alias ".toList ++ (Builtin.showAlias (name, text)).dropLast)
  if specialNames.any (·.toList == name) then return say "a special shell builtin" name
  if ((← process).functions.lookup name).isSome then return say "a shell function" name
  if (Builtin.regular? name).isSome || String.ofList name ∈ ["command", "hash", "type", "wait"] then
    return say "a shell builtin" name
  match (← process).found.lookup name, ← find name with
  | some path, _ => return say (String.ofList ("a tracked alias for ".toList ++ path)) path
  | none, .ok (path, _) =>
    if !name.contains '/' then remember name path
    return say (String.ofList path) path
  | none, .error _ => return none

/-- Describes names. -/
def describe (inFull : Bool) (names : List Octets) : Act Nat :=
  names.foldlM (fun status name => do
    match ← description? inFull name with
    | some text =>
      let _ ← write 1 (text ++ ['\n'])
      return status
    | none =>
      if inFull then
        let _ ← write 1 (name ++ ": not found\n".toList)
      return 127) 0

/-- Runs a built-in command under its name; its messages tell the name. -/
def runBuiltin (name : Octets) (run : Act Nat) : Act Nat :=
  restoring (fun before after => { after with builtin := before.builtin }) do
    modifyProcess fun p => { p with builtin := some name }
    run

/-- Gives the status of a misuse where it does not end the process. -/
def forgiving (a : Act Nat) : Act Nat := do
  match ← attempt a with
  | .ok status => return status
  | .error .failure => return 2
  | .error stop => throw stop

/-- Runs a command that is no function, or describes it; a misuse does not end the process. -/
def command (r : Runner) (args : List Octets) : Act Nat := do
  let (letters, args) ← Builtin.optionsOf ['p', 'v', 'V'] args
  if letters.contains 'v' then return ← describe false (args.take 1)
  if letters.contains 'V' then return ← describe true (args.take 1)
  match args with
  | [] => return 0
  | name :: args =>
    let nested (_ : List Octets) : Act Nat := return 0
    match builtinMeaning r (describe true) nested name with
    | .special run | .regular run => forgiving (runBuiltin name (run args))
    | _ =>
      modifyProcess fun p => { p with builtin := none }
      runExternal r name args

/-- What a name stands for as a command. -/
def meaning (r : Runner) (name : Octets) : Act Meaning := do
  match builtinMeaning r (describe true) (command r) name with
  | .special run => return .special run
  | other =>
    match (← process).functions.lookup name with
    | some body => return .function body
    | none => return other

/-! ## 5. Simple statements -/

/-- Whether the words behind a command are assignments, which are not split. -/
def assigns (name : Octets) : Bool :=
  String.ofList name ∈ ["alias", "export", "local", "readonly"]

/-- The fields of words; behind a command that assigns, assignments are not split. -/
def expandWords (r : Runner) : List Octets → List (List Part) → Act (List Octets)
  | before, [] => return before
  | before, word :: words => do
    let fields ← match if before.head?.any assigns then assignment? word else none with
      | some (name, value) => do
        pure [name ++ '=' :: (← expandText (capture r) ⟨true, true⟩ value)]
      | none => expandFields (capture r) word
    expandWords r (before ++ fields) words

/-- Runs a simple statement. -/
def runSimple (r : Runner) (sets : List (Octets × List Part)) (words : List (List Part))
    (redirects : List Redirect) : Act Nat := do
  match ← expandWords r [] words with
  | [] =>
    redirected r redirects (return 2) do
      let values ← assignAll r sets
      trace values []
      return (← process).nestedStatus
  | name :: args =>
    let temporarily (run : Act Nat) : Act Nat :=
      redirected r redirects (return 2) do
        let act (values : List (Octets × Octets)) : Act Nat := do
          trace values (name :: args)
          run
        withAssigned r act [] sets
    match ← meaning r name with
    | .special run =>
      let act : Act Nat := do
        let values ← assignAll r sets
        if name = "exec".toList && !args.isEmpty then
          values.forM fun (name, _) =>
            changeVariable name fun v => some { v with exported := true }
        trace values (name :: args)
        runBuiltin name (run args)
      if name = "exec".toList && args.isEmpty then
        if ← redirectAll r redirects then act else throw .failure
      else redirected r redirects (throw .failure) act
    | .function body => temporarily (callFunction r body args)
    | .regular run => temporarily (forgiving (runBuiltin name (run args)))
    | .external => temporarily (runExternal r name args)

end PassContext.Shell
