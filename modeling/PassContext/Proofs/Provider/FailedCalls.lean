/-
# What a failed call leaves behind

A call can fail at six stages, and some of them lie inside the computation of a base context, while
its slot is locked.  Whichever stage fails, the call gives its failure, and no later stage was run.
Nothing in the caches is lost, and what is new there was found by stages that succeeded: a version
or an SDK path.  The caches for base contexts are as they were, and no context was made.  So the
same call, made again, runs the stages whose results are not in the caches, and succeeds if they do.

How the stages of a call went is read off the log of the tools.  Main statement: `failsCleanly`.
-/
import PassContext.Proofs.Memo.Filled
import PassContext.Proofs.Provider.CacheInvariant
import PassContext.Proofs.Provider.CallParts

namespace PassContext

open Provider

namespace Session

variable {τ : Type}

/-! ## 1. Calls -/

/-- What a provider is asked for: an operation, or whether it accepts a toolchain. -/
inductive Call
  | of (o : Operation)
  | check (toolchain : Option String)

/-- A toolchain is checked by asking for its version. -/
def Call.operation : Call → Operation
  | .of o => o
  | .check toolchain => .version toolchain

/-- What a call gives, and the session behind it. -/
def call (tools : Tools τ) (s : Session τ) (c : Call) : Except Failure Result × Session τ :=
  let (r, s') := s.apply tools c.operation
  match c with
  | .of _ => (r, s')
  | .check _ => (r.map fun _ => .done, s')

/-- The toolchain that an operation is for. -/
def Operation.toolchain : Operation → Option String
  | .version toolchain | .base toolchain _ => toolchain
  | .init options => options.toolchain
  | _ => none

/-- The mode that an operation needs a base context for; others need none. -/
def Operation.mode : Operation → SyntaxMode
  | .base _ mode => mode
  | .init options => options.mode
  | _ => .astDump

/-- The stages of an operation that are due, from the caches before it and behind it. -/
def Operation.due (p : Provider) (m m' : service.Caches) : Operation → List Stage
  | .version toolchain => missing m (versionKey toolchain)
  | .sdkPath | .arguments => sdkDue p m
  | .base toolchain mode => baseCallDue p m m' toolchain mode
  | .init options => baseCallDue p m m' options.toolchain options.mode
  | .baseCount | .update .. => []

/-- The stages that are due are in the order of all stages. -/
theorem Operation.due_sublist (o : Operation) (p : Provider) (m m' : service.Caches) :
    (o.due p m m').Sublist Stage.all := by
  have hversion : ∀ toolchain, (missing m (versionKey toolchain)).Sublist
      [.start, .status, .text, .allowlist] := fun toolchain => missing_sublist m _
  have hbase : ∀ toolchain mode, (baseCallDue p m m' toolchain mode).Sublist Stage.all :=
    fun toolchain mode => (hversion toolchain).append (baseDue_sublist p m mode _)
  cases o with
  | version toolchain => exact (hversion toolchain).trans (List.sublist_append_left _ _)
  | sdkPath | arguments => exact (sdkDue_sublist p m).trans (by decide)
  | base toolchain mode => exact hbase toolchain mode
  | init options => exact hbase options.toolchain options.mode
  | baseCount | update => exact List.nil_sublist _

variable (tools : Tools τ)

theorem call_snd (s : Session τ) (c : Call) :
    (s.call tools c).2 = (s.apply tools c.operation).2 := by
  cases c <;> rfl

theorem failure?_call (s : Session τ) (c : Call) :
    failure? (s.call tools c).1 = failure? (s.apply tools c.operation).1 := by
  cases c with
  | of o => rfl
  | check toolchain => exact failure?_map ..

/-! ## 2. How a call goes -/

section Went

variable (s : Session (τ × List Answered))

theorem apply_of_run {σ : Type} {tools : Tools σ} {s : Session σ} {o : Operation}
    {program : Program service (Except Failure Result)} {r : Except Failure Result}
    {s' : service.Caches × World σ} (h : o.program? s.provider = some program)
    (hrun : program.run (World.respond tools) (s.caches, s.world) = (r, s')) :
    s.apply tools o = (r, ⟨s.provider, s'.1, s'.2⟩) := by
  rw [apply_of_program? tools h, perform, hrun]

/-- **An operation takes the stages that are due**, and makes no context if it fails. -/
theorem went_apply (o : Operation) :
    ∃ a, Went s.provider o.toolchain o.mode
        (o.due s.provider s.caches (s.apply tools.recorded o).2.caches) a (s.caches, s.world)
        ((s.apply tools.recorded o).2.caches, (s.apply tools.recorded o).2.world)
        (failure? (s.apply tools.recorded o).1) ∧
      ∀ e, (s.apply tools.recorded o).1 = .error e →
        (s.apply tools.recorded o).2.world.contexts = s.world.contexts := by
  cases o with
  | version toolchain =>
    obtain ⟨x, outcome, s', hrun, hwent, hcontexts, -⟩ :=
      went_version tools toolchain .astDump s.caches s.world
    rw [apply_of_run (o := .version toolchain) rfl (hrun _), failure?_map]
    exact ⟨_, hwent, fun _ _ => hcontexts⟩
  | sdkPath =>
    obtain ⟨x, outcome, s', hrun, hwent, hcontexts⟩ :=
      went_sdkPath tools none .astDump s.caches s.world
    rw [apply_of_run (o := .sdkPath) rfl (hrun _), failure?_map]
    exact ⟨_, hwent, fun _ _ => hcontexts⟩
  | arguments =>
    obtain ⟨x, outcome, s', hrun, hwent, hcontexts⟩ :=
      went_sdkPath tools none .astDump s.caches s.world
    rw [apply_of_run (o := .arguments) rfl (hrun _), failure?_map]
    exact ⟨_, hwent, fun _ _ => hcontexts⟩
  | base toolchain mode =>
    obtain ⟨a, outcome, s', hrun, hwent, hcontexts⟩ :=
      went_base tools toolchain mode s.caches s.world
    rw [apply_of_run (o := .base toolchain mode) rfl (hrun _), failure?_map]
    exact ⟨a, hwent, fun e he => hcontexts e (eq_error_of_map he)⟩
  | init options =>
    obtain ⟨a, outcome, s', hrun, hwent, hcontexts⟩ :=
      went_base tools options.toolchain options.mode s.caches s.world
    cases outcome with
    | error e =>
      rw [apply_of_run (o := .init options) rfl (hrun _)]
      exact ⟨a, hwent, fun _ _ => hcontexts e rfl⟩
    | ok base =>
      rcases hstart : World.respond tools.recorded (.startRun base options) s'.2 with ⟨id, w⟩
      have hlog : w.tools.2 = s'.2.tools.2 := by
        have h := World.log_respond tools (.startRun base options) s'.2
        rw [hstart] at h
        exact h
      have hrun' : (s.provider.init options fun r => .result (r.map Result.context)).run
          (World.respond tools.recorded) (s.caches, s.world) = (.ok (.context id), (s'.1, w)) := by
        refine (hrun _).trans ?_
        simp only [Program.run, hstart]
        rfl
      rw [apply_of_run (o := .init options) rfl hrun']
      exact ⟨a, hwent.silent hlog rfl, fun e he => absurd he (by simp)⟩
  | baseCount =>
    exact ⟨_, .refl (s.caches, s.world), fun _ _ => rfl⟩
  | update id u =>
    refine ⟨_, (Went.refl (s.caches, s.world)).silent rfl rfl, fun e he => ?_⟩
    have hok : (s.apply tools.recorded (.update id u)).1 = .ok .done := rfl
    exact absurd (hok.symm.trans he) (by simp)

/-- How a call went: its questions are in the log of the tools, and of its stages those were run
that are due, in their order and up to the first that failed. -/
structure Runs (c : Call) (a : Answers) : Prop where
  log : (s.call tools.recorded c).2.world.tools.2 =
    (a.entries s.provider c.operation.toolchain c.operation.mode).reverse ++ s.world.tools.2
  course : Course (a.verdict? s.provider.settings c.operation.toolchain)
    (c.operation.due s.provider s.caches (s.call tools.recorded c).2.caches)
    (failure? (s.call tools.recorded c).1)

theorem exists_runs (c : Call) : ∃ a, Runs tools s c a := by
  obtain ⟨a, hwent, -⟩ := went_apply tools s c.operation
  refine ⟨a, ?_, ?_⟩
  · rw [call_snd]
    exact hwent.log
  · rw [call_snd, failure?_call]
    exact hwent.course

variable {s}

/-- A call succeeds if all stages that are due do. -/
theorem Runs.exists_ok {c : Call} {a : Answers} (h : Runs tools s c a)
    (hrun : ∀ st ∈ c.operation.due s.provider s.caches (s.call tools.recorded c).2.caches,
      a.verdict? s.provider.settings c.operation.toolchain st = some (.ok ())) :
    ∃ r, (s.call tools.recorded c).1 = .ok r := by
  rw [← failure?_eq_none_iff]
  have hcourse := h.course
  generalize failure? (s.call tools.recorded c).1 = failure at hcourse ⊢
  cases hcourse with
  | passed => rfl
  | failed earlier stage later e hdue _ hfail _ =>
    have hok := hrun stage (by rw [hdue]; simp)
    exact absurd (hfail.symm.trans hok) (by simp)

end Went

/-! ## 3. Slots -/

theorem filled_apply {s : Session τ} (o : Operation) (h : s.caches.Filled) :
    (s.apply tools o).2.caches.Filled := by
  cases hprogram : o.program? s.provider with
  | none =>
    obtain ⟨id, u, rfl⟩ := exists_update_of_program? hprogram
    exact h
  | some program =>
    rw [apply_of_program? tools hprogram]
    exact program.filled_run s.world h

/-- No slot of a provider is empty between operations. -/
theorem filled_after (p : Provider) (tools : Tools τ) (state : τ) (ops : List Operation) :
    (p.after tools state ops).caches.Filled := by
  induction ops using List.reverseRecOn with
  | nil => exact Memo.filled_empty
  | append_singleton ops o ih =>
    rw [after_append]
    exact filled_apply tools.recorded o ih

/-! ## 4. Failed calls -/

section Failed

variable (s : Session (τ × List Answered)) (c : Call)

/-- What a call leaves behind that failed with `e`, where the tools answered `a`. -/
structure Leaves (e : Failure) (a : Answers) : Prop where
  log : (s.call tools.recorded c).2.world.tools.2 =
    (a.entries s.provider c.operation.toolchain c.operation.mode).reverse ++ s.world.tools.2
  /-- The failure is the one of the first stage that failed.  Of all others, only those before it
  were run. -/
  first : ∃ earlier stage later,
    c.operation.due s.provider s.caches (s.call tools.recorded c).2.caches =
      earlier ++ stage :: later ∧
    (earlier ++ stage :: later).Sublist Stage.all ∧
    (∀ st ∈ earlier,
      a.verdict? s.provider.settings c.operation.toolchain st = some (.ok ())) ∧
    a.verdict? s.provider.settings c.operation.toolchain stage = some (.error e) ∧
    ∀ st ∉ earlier ++ [stage], a.verdict? s.provider.settings c.operation.toolchain st = none
  bases : ∀ mode version, (s.call tools.recorded c).2.caches.get? (.base mode version) =
    s.caches.get? (.base mode version)
  /-- No slot for a base context is left behind either. -/
  slots : ∀ p state ops, s = Provider.after p tools state ops → ∀ mode version,
    (s.call tools.recorded c).2.caches.slot? (.base mode version) =
      s.caches.slot? (.base mode version)
  /-- A version or an SDK path is new in the caches only if the call needed it and all stages that
  lead to it succeeded; all that was there is as before. -/
  caches : ∀ key, (s.call tools.recorded c).2.caches.get? key = s.caches.get? key ∨
    s.caches.get? key = none ∧
    s.provider.NeededBy c.operation.toolchain c.operation.mode key ∧
    ∀ st ∈ key.stages,
      a.verdict? s.provider.settings c.operation.toolchain st = some (.ok ())
  contexts : (s.call tools.recorded c).2.world.contexts = s.world.contexts

/-- What the same call does in a session that went on. -/
structure Again (later : Session (τ × List Answered)) : Prop where
  /-- All that the failed call put into the caches is still there. -/
  kept : ∀ key v, (s.call tools.recorded c).2.caches.get? key = some v →
    later.caches.get? key = some v
  /-- The stages whose results are not in the caches are run, and if they succeed, so does the
  call. -/
  runs : ∃ a, Runs tools later c a ∧
    ((∀ st ∈ c.operation.due later.provider later.caches (later.call tools.recorded c).2.caches,
        a.verdict? later.provider.settings c.operation.toolchain st = some (.ok ())) →
      ∃ r, (later.call tools.recorded c).1 = .ok r)

/-- **A failed call commits nothing that it should not.** -/
structure FailsCleanly : Prop where
  /-- The log of the tools plays no part in what happens. -/
  withoutLog : s.withoutLog.call tools c =
    ((s.call tools.recorded c).1, (s.call tools.recorded c).2.withoutLog)
  failed : ∀ e, (s.call tools.recorded c).1 = .error e → ∃ a, Leaves tools s c e a
  again : ∀ ops, Again tools s c ((s.call tools.recorded c).2.applyAll tools.recorded ops)

variable {s c}

/-- No stage comes behind the library. -/
theorem library_not_mem {earlier later : List Stage} {stage : Stage}
    (h : (earlier ++ stage :: later).Sublist Stage.all) : .library ∉ earlier := by
  intro hmem
  have hpair : [Stage.library, stage].Sublist Stage.all :=
    ((List.singleton_sublist.mpr hmem).append
      ((List.nil_sublist later).cons_cons stage)).trans h
  revert hpair
  cases stage <;> decide

/-- So the library was not loaded if a stage failed. -/
theorem library_ne_ok_of_failed {v : Stage → Option (Except Failure Unit)} {due : List Stage}
    {e : Failure} (h : Course v due (some e)) (horder : due.Sublist Stage.all) :
    v .library ≠ some (.ok ()) := by
  intro hloaded
  obtain ⟨earlier, stage, later, hdue, -, hfail, hrest⟩ := h.exists_failed
  have hearlier : .library ∉ earlier := library_not_mem (hdue ▸ horder)
  by_cases hstage : Stage.library = stage
  · exact absurd (hloaded.symm.trans (hstage ▸ hfail)) (by simp)
  · have hnone := hrest .library (by simp [hearlier, hstage])
    exact absurd (hloaded.symm.trans hnone) (by simp)

theorem exists_leaves {e : Failure} (h : (s.call tools.recorded c).1 = .error e) :
    ∃ a, Leaves tools s c e a := by
  obtain ⟨a, hwent, hcontexts⟩ := went_apply tools s c.operation
  have hfailed : failure? (s.apply tools.recorded c.operation).1 = some e := by
    rw [← failure?_call, failure?_eq_some_iff]
    exact h
  rw [← call_snd] at hwent hcontexts
  rw [hfailed] at hwent
  have horder := c.operation.due_sublist s.provider s.caches (s.call tools.recorded c).2.caches
  obtain ⟨earlier, stage, later, hdue, hrun, hfail, hrest⟩ := hwent.course.exists_failed
  have hbases : ∀ mode version, (s.call tools.recorded c).2.caches.get? (.base mode version) =
      s.caches.get? (.base mode version) := by
    intro mode version
    rcases hwent.caches (.base mode version) with hsame | ⟨-, -, hstages⟩
    · exact hsame
    · have hloaded := hstages .library List.mem_cons_self
      exact absurd hloaded (library_ne_ok_of_failed hwent.course horder)
  refine ⟨a, hwent.log, ⟨earlier, stage, later, hdue, hdue ▸ horder, hrun, hfail, hrest⟩, hbases,
    ?_, hwent.caches, hcontexts e (failure?_eq_some_iff.mp hfailed)⟩
  -- Without empty slots, equal values mean equal slots; both sessions have none.
  rintro p state ops rfl mode version
  have hfilled := filled_after p tools state ops
  have hfilled' : ((p.after tools state ops).call tools.recorded c).2.caches.Filled := by
    rw [call_snd]
    exact filled_apply tools.recorded c.operation hfilled
  have hslot := hfilled.slot?_eq (.base mode version)
  have hslot' := hfilled'.slot?_eq (.base mode version)
  rw [hslot', hslot, hbases]

theorem call_withoutLog (tools : Tools τ) (s : Session (τ × List Answered)) (c : Call) :
    s.withoutLog.call tools c =
      ((s.call tools.recorded c).1, (s.call tools.recorded c).2.withoutLog) := by
  have happly := apply_withoutLog tools s c.operation
  cases c with
  | of o => exact happly
  | check toolchain =>
    simp only [call, happly]

end Failed

/-- **A failed call commits nothing that it should not**, in every session, whatever the tools
answer. -/
theorem failsCleanly (tools : Tools τ) (s : Session (τ × List Answered)) (c : Call) :
    FailsCleanly tools s c where
  withoutLog := call_withoutLog tools s c
  failed _ h := exists_leaves tools h
  again ops := by
    obtain ⟨a, hruns⟩ :=
      exists_runs tools ((s.call tools.recorded c).2.applyAll tools.recorded ops) c
    exact ⟨fun key v hv => kept_applyAll tools _ ops hv, a, hruns, hruns.exists_ok tools⟩

/-! Without an SDK path there is no base context, but the version stays. -/

example :
    let tools : Tools Unit := ⟨fun c n =>
      if c.args.head? = some "--show-sdk-path" then (.error (.queryNotStarted c.text "gone"), n)
      else (.ok (.succeeded "Swift version 5.1.2"), n), fun _ _ _ n => (.ok [], n)⟩
    let p : Provider := ⟨{ Settings.default with platform := .macOS }, ⟨"library.json"⟩⟩
    let s := ((start p ()).call tools (.of (.base none .rich))).2
    s.caches.get? (.version "") = some "5.1" ∧ s.caches.slot? (.base .rich "5.1") = none ∧
      s.world.contexts = [] :=
  ⟨rfl, rfl, rfl⟩

end Session

end PassContext
