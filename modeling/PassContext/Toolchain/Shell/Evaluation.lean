/-
# Running statements

A statement gives a status, and statements one after the other give that of the last one.  Whoever
looks at a status, such as a condition, has it tested; where the script asks to end at failures, a
failure ends it unless it is tested.

How deep statements may nest is bounded, and the bound is not met by any script that ends in good
time.
-/
import PassContext.Toolchain.Shell.Command

namespace PassContext.Shell

/-! ## 1. Scripts -/

/-- Runs the lines of a script, so many at most, and gives the last status.  Each line is read with
the texts for words that the lines before it have made known. -/
def runLines (run : Statement → Act Nat) : Nat → Source → Nat → Act Nat
  | 0, _, status => return status
  | bound + 1, source, status => do
    match nextLine.run { source with aliases := (← process).aliases } with
    | .error fault _ => do
      modifyProcess fun p => { p with line := fault.line }
      fail fault.message.toList
    | .ok none _ => return status
    | .ok (some (.sequence [])) source => runLines run bound source status
    | .ok (some s) source => do
      let status ← run s
      runLines run bound source status

/-- Runs a script line by line. -/
def runScriptWith (run : Statement → Act Nat) (script : Octets) : Act Nat :=
  runLines run (script.length + 1000002) (.ofText script 1 []) 0

/-! ## 2. Conditions and loops -/

/-- Runs a statement whose status is looked at. -/
def tested (r : Runner) (s : Statement) : Act Nat :=
  restoring (fun before after => { after with tested := before.tested }) do
    modifyProcess fun p => { p with tested := true }
    r.statement s

/-- Ends the process at a failure that nobody looks at, where the script asks for that. -/
def checked (a : Act Nat) : Act Nat := do
  let status ← a
  if status ≠ 0 && !(← process).tested && (← hasOption 'e') then throw (.exit status)
  return status

/-- Runs the body of a loop once, and tells whether the loop goes on. -/
def iteration (a : Act Nat) : Act (Bool × Nat) := do
  match ← attempt a with
  | .ok status => return (true, status)
  | .error (.break n) => if n ≤ 1 then return (false, 0) else throw (.break (n - 1))
  | .error (.continue n) => if n ≤ 1 then return (true, 0) else throw (.continue (n - 1))
  | .error stop => throw stop

/-- Runs an action inside of one more loop. -/
def insideLoop {α : Type} (a : Act α) : Act α :=
  restoring (fun before after => { after with loops := before.loops }) do
    modifyProcess fun p => { p with loops := p.loops + 1 }
    a

/-- Runs a body as long as a test tells to, so many times at most. -/
def runLoop (r : Runner) (whileFails : Bool) (test body : Statement) : Nat → Nat → Act Nat
  | 0, _ => throw .exhausted
  | bound + 1, status => do
    let (goesOn, outcome) ← iteration (tested r test)
    if !goesOn then return status
    if (outcome = 0) = whileFails then return status
    let (goesOn, status) ← iteration (r.statement body)
    if goesOn then runLoop r whileFails test body bound status else return status

/-- Runs a body for each of some values. -/
def runEach (r : Runner) (name : Octets) (body : Statement) : Nat → List Octets → Act Nat
  | status, [] => return status
  | _, value :: values => do
    assign name value
    let (goesOn, status) ← iteration (r.statement body)
    if goesOn then runEach r name body status values else return status

/-- Runs the body beside the first pattern that matches a text. -/
def runCases (r : Runner) (o : Octets) : List (List (List Part) × Statement) → Act Nat
  | [] => return 0
  | (patterns, body) :: cases => do
    if ← anyMatches patterns then r.statement body else runCases r o cases
where
  /-- Whether one of some patterns matches; those behind it are not expanded. -/
  anyMatches : List (List Part) → Act Bool
    | [] => return false
    | pattern :: patterns => do
      if patternMatches (← expandPattern (capture r) pattern) o then return true
      anyMatches patterns

/-! ## 3. Processes side by side -/

/-- Runs statements as processes, each of which reads what the one before it prints. -/
def runPipeline (r : Runner) (input : Option Handle) : List Statement → Act Nat
  | [] => return 0
  | [last] => inSubshell r.script do
    if input.isSome then setHandle 0 input
    r.statement last
  | s :: rest => do
    let (n, files) := (← get).files.addFile []
    let (output, files) := files.openFile n false
    let (next, files) := files.openFile n false
    modify fun state => { state with files }
    let _ ← inSubshell r.script do
      if input.isSome then setHandle 0 input
      setHandle 1 (some output)
      r.statement s
    runWaiting r
    runPipeline r (some next) rest

/-- Lets a statement wait in the background, as a process with nothing to read. -/
def runBackground (body : Statement) : Act Nat := do
  let number := (← get).nextNumber
  let _ ← inSubshell (fun _ => return 0) do
    setHandle 0 (some (.device .null))
    modifyProcess fun p => { p with tested := false }
    let w : Waiting := ⟨number, ← process, body⟩
    modify fun s => { s with waiting := s.waiting ++ [w], nextNumber := number + 1 }
    return 0
  let rank ← Builtin.freeRank
  modifyProcess fun p =>
    { p with lastJob := some number, jobs := ⟨rank, number, false⟩ :: p.jobs }
  return 0

/-! ## 4. Statements -/

def setLine (line : Nat) : Act Unit := modifyProcess fun p => { p with line }

/-- Runs a statement by means of a runner for what it encloses. -/
def runStatement (r : Runner) : Statement → Act Nat
  | .simple line sets words redirects => do
    setLine line
    modifyProcess fun p => { p with nestedStatus := 0 }
    checked (runSimple r sets words redirects)
  | .sequence parts => parts.foldlM (fun _ s => r.statement s) 0
  | .negation body => return if (← tested r body) = 0 then 1 else 0
  | .pipeline parts => do
    let _ ← Builtin.freeRank
    checked (runPipeline r none parts)
  | .andThen first second => do
    let status ← tested r first
    if status = 0 then r.statement second else return status
  | .orElse first second => do
    let status ← tested r first
    if status = 0 then return status else r.statement second
  | .background body => runBackground body
  | .subshell line body => do
    setLine line
    let _ ← Builtin.freeRank
    checked (inSubshell r.script (r.statement body))
  | .redirected line body redirects => do
    setLine line
    redirected r redirects (return 2) (r.statement body)
  | .choice test body otherwise => do
    if (← tested r test) = 0 then r.statement body else r.statement otherwise
  | .loop whileFails test body => insideLoop (runLoop r whileFails test body maxRepetitions 0)
  | .each line name words body => do
    setLine line
    let values ← words.mapM (expandFields (capture r))
    insideLoop (runEach r name body 0 values.flatten)
  | .select line word cases => do
    setLine line
    runCases r (← expandText (capture r) ⟨true, false⟩ word) cases
  | .define name body => do
    modifyProcess fun p =>
      { p with functions := (name, body) :: p.functions.filter (·.1 != name) }
    return 0

/-- Runs what is to be run at the signals that have come. -/
def runTraps (run : Octets → Act Nat) : Act Unit := do
  Builtin.meetArrived
  let p ← process
  if !p.pending.isEmpty then
    modifyProcess fun p => { p with pending := [] }
    p.pending.forM fun number => do
      let _ ← run ((p.traps.lookup number).getD [])
    modifyProcess fun q => { q with status := p.status }

/-- Runs a statement; statements may nest so deep. -/
def runNested : Nat → Statement → Act Nat
  | 0, _ => throw .exhausted
  | depth + 1, s => do
    if ← hasOption 'n' then return 0
    let script := runScriptWith (runNested depth)
    let status ← runStatement ⟨runNested depth, script⟩ s
    modifyProcess fun p => { p with status }
    runTraps script
    return status

/-- How deep statements may nest. -/
def maxDepth : Nat := 20000

/-- The runner for whole scripts. -/
def runner : Runner := ⟨runNested maxDepth, runScriptWith (runNested maxDepth)⟩

end PassContext.Shell
