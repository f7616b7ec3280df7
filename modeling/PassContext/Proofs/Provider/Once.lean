/-
# Every job outside is done successfully at most once

Many threads use one provider, and each of its operations may run queries of the toolchain and
load the template library.  An attempt that fails is made again by the next request; one that
succeeds is the last one for its key.  This is so although the caches depend on each other: base
contexts of both modes are built with the SDK path, which is fetched while their slots are locked,
and toolchains that report the same version share a base context.

The jobs of a provider keep to a discipline in which only the tools do work outside, and a success
of a query or a load settles the key that it is for.  What threads that keep to a discipline can
do was said for all services; here it is said for the log of the tools.
-/
import PassContext.Proofs.Provider.Log
import PassContext.Proofs.Threads.Outside
import PassContext.Proofs.Threads.SingleFlight

namespace PassContext.Provider

open Machine

variable {ρ τ : Type}

/-! ## 1. What threads do with a provider -/

/-- Operations of a provider, one after the other, each chosen by the outcomes of those before. -/
inductive Calls (p : Provider) : Program service ρ → Prop
  | done (r : ρ) : Calls p (.result r)
  | version (toolchain : Option String) {next : Except Failure String → Program service ρ}
      (hnext : ∀ outcome, Calls p (next outcome)) : Calls p (p.version toolchain next)
  | sdkPath {next : Except Failure (Option String) → Program service ρ}
      (hnext : ∀ outcome, Calls p (next outcome)) : Calls p (p.sdkPath next)
  | base (toolchain : Option String) (mode : SyntaxMode)
      {next : Except Failure ContextId → Program service ρ}
      (hnext : ∀ outcome, Calls p (next outcome)) : Calls p (p.base toolchain mode next)
  | init (options : Options) {next : Except Failure ContextId → Program service ρ}
      (hnext : ∀ outcome, Calls p (next outcome)) : Calls p (p.init options next)
  | baseCount {next : Nat → Program service ρ} (hnext : ∀ n, Calls p (next n)) :
      Calls p (baseCount next)

/-- What is said of the log of the tools, and of the events of the threads. -/
structure EachJobOnce (p : Provider) (log : List Answered) (events : List (Event service)) :
    Prop where
  /-- Behind a successful attempt at a key there is no other attempt at it. -/
  once : log.Pairwise fun later earlier => ∀ key, earlier.Succeeds p key → ¬ later.Attempts p key
  /-- On a platform without an SDK path, it is never asked for. -/
  sdk : p.settings.platform ≠ .macOS → ∀ x ∈ log, ¬ x.Attempts p p.sdkKey
  /-- Whoever gets a base context for a version and a mode gets the same one. -/
  base : ∀ t t' mode version id id', .fetched t (.base mode version) (.ok id) ∈ events →
    .fetched t' (.base mode version) (.ok id') ∈ events → id = id'

/-! ## 2. The discipline of a provider -/

variable (p : Provider)

/-- The questions that the computation for a key may ask. -/
def Permits : Key → Query → Prop
  | .version name, .run c =>
    ∃ toolchain, .version name = versionKey toolchain ∧ c = p.settings.versionQuery toolchain
  | .sdkPath kind, .run c =>
    .sdkPath kind = p.sdkKey ∧ c = p.settings.sdkQuery ∧ p.settings.platform = .macOS
  | .base mode version, .load _ mode' version' => mode' = mode ∧ version' = version
  | .base .., .keep _ => True
  | _, _ => False

/-- Work outside is what the log keeps, and it settles a key when it succeeds. -/
def discipline : Discipline service where
  Tries q := ∃ answer, (Answered.of? q answer).isSome
  Permits := p.Permits
  Settles key q answer := ∃ x, Answered.of? q answer = some x ∧ x.Succeeds p key

variable {p}

/-- A computation attempts to get the value of no other key. -/
theorem Permits.eq_of_attempts {key key' : Key} {q : Query} (h : p.Permits key q)
    {answer : service.Answer q} {x : Answered} (hx : Answered.of? q answer = some x)
    (ha : x.Attempts p key') : key' = key := by
  cases key with
  | version name =>
    cases q with
    | run c =>
      obtain ⟨toolchain, hkey, rfl⟩ := h
      obtain rfl := Option.some.inj hx
      rw [Answered.attempts_versionQuery.mp ha, hkey]
    | load | keep | startRun => exact h.elim
  | sdkPath kind =>
    cases q with
    | run c =>
      obtain ⟨hkey, rfl, -⟩ := h
      obtain rfl := Option.some.inj hx
      rw [Answered.attempts_sdkQuery.mp ha, hkey]
    | load | keep | startRun => exact h.elim
  | base mode version =>
    cases q with
    | load library mode' version' =>
      obtain ⟨rfl, rfl⟩ := h
      obtain rfl := Option.some.inj hx
      exact ha
    | keep c => exact absurd hx (by simp [Answered.of?])
    | run | startRun => exact h.elim

/-- The SDK path is asked for on its platform only. -/
theorem Permits.platform {q : Query} (h : p.Permits p.sdkKey q) :
    p.settings.platform = .macOS := by
  cases q with
  | run c => exact h.2.2
  | load | keep | startRun => exact h.elim

/-! ## 3. The jobs and programs of a provider keep to it -/

theorem versionJob_keeps (toolchain : Option String) :
    Job.Keeps p.discipline (p.versionJob toolchain) := by
  refine .ask ⟨toolchain, rfl, rfl⟩ (fun answer hsettles => ?_) fun answer => .finish _
  obtain ⟨x, hx, hsucceeds⟩ := hsettles
  obtain rfl := Option.some.inj hx
  obtain ⟨-, version, hversion⟩ := Answered.succeeds_versionQuery.mp hsucceeds
  rw [hversion]
  exact .finish (S := service) (versionKey toolchain) version

theorem sdkJob_keeps (h : p.settings.platform = .macOS) :
    Job.Keeps p.discipline p.sdkJob := by
  refine .ask ⟨rfl, rfl, h⟩ (fun answer hsettles => ?_) fun answer => .finish _
  obtain ⟨x, hx, hsucceeds⟩ := hsettles
  obtain rfl := Option.some.inj hx
  obtain ⟨-, path, hpath⟩ := Answered.succeeds_sdkQuery.mp hsucceeds
  rw [hpath]
  exact .finish (S := service) p.sdkKey path

/-- Once the library is loaded, the context is kept and handed out. -/
theorem seedJob_keeps (toolchain : Option String) (mode : SyntaxMode) (version : String)
    (sdkPath : Except Failure (Option String)) :
    Job.Keeps p.discipline (p.seedJob toolchain mode version sdkPath) := by
  cases sdkPath with
  | error e => exact .finish _
  | ok path =>
    have hkeep : ∀ c, ¬ p.discipline.Tries (.keep c) := by
      rintro c ⟨answer, hsome⟩
      exact absurd hsome (by simp [Answered.of?])
    refine .ask ⟨rfl, rfl⟩ (fun answer hsettles => ?_) fun answer => ?_
    · obtain ⟨x, hx, hsucceeds⟩ := hsettles
      obtain rfl := Option.some.inj hx
      obtain ⟨-, templates, rfl⟩ := hsucceeds
      exact .ask (hkeep _) fun id => .finish (S := service) (.base mode version) id
    · cases answer with
      | error e => exact .finish _
      | ok templates =>
        refine .ask trivial (fun id hsettles => ?_) fun id => .finish _
        obtain ⟨x, hx, -⟩ := hsettles
        exact absurd hx (by simp [Answered.of?])

theorem baseJob_keeps (toolchain : Option String) (mode : SyntaxMode) (version : String) :
    Job.Keeps p.discipline (p.baseJob toolchain mode version) := by
  unfold baseJob
  split
  · rename_i hplatform
    exact .fetch (sdkJob_keeps hplatform) fun outcome => seedJob_keeps ..
  · exact seedJob_keeps ..

section Programs

variable {next : Except Failure ContextId → Program service ρ}

theorem version_keeps (toolchain : Option String)
    {next : Except Failure String → Program service ρ}
    (hnext : ∀ outcome, Program.Keeps p.discipline (next outcome)) :
    Program.Keeps p.discipline (p.version toolchain next) := by
  refine .get fun found => ?_
  cases found with
  | some version => exact hnext _
  | none => exact .fetch (versionJob_keeps toolchain) hnext

theorem sdkPath_keeps {next : Except Failure (Option String) → Program service ρ}
    (hnext : ∀ outcome, Program.Keeps p.discipline (next outcome)) :
    Program.Keeps p.discipline (p.sdkPath next) := by
  unfold sdkPath
  split
  · rename_i hplatform
    exact .fetch (sdkJob_keeps hplatform) fun outcome => hnext _
  · exact hnext _

theorem base_keeps (toolchain : Option String) (mode : SyntaxMode)
    (hnext : ∀ outcome, Program.Keeps p.discipline (next outcome)) :
    Program.Keeps p.discipline (p.base toolchain mode next) := by
  refine version_keeps toolchain fun outcome => ?_
  cases outcome with
  | error e => exact hnext _
  | ok version => exact .fetch (baseJob_keeps ..) hnext

theorem init_keeps (options : Options)
    (hnext : ∀ outcome, Program.Keeps p.discipline (next outcome)) :
    Program.Keeps p.discipline (p.init options next) := by
  refine base_keeps _ _ fun outcome => ?_
  cases outcome with
  | error e => exact hnext _
  | ok id =>
    refine .ask ?_ fun id => hnext _
    rintro ⟨answer, hsome⟩
    exact absurd hsome (by simp [Answered.of?])

end Programs

/-- **What threads do with a provider keeps to its discipline.** -/
theorem Calls.keeps {program : Program service ρ} (h : p.Calls program) :
    Program.Keeps p.discipline program := by
  induction h with
  | done r => exact .result r
  | version toolchain _ ih => exact version_keeps toolchain ih
  | sdkPath _ ih => exact sdkPath_keeps ih
  | base toolchain mode _ ih => exact base_keeps toolchain mode ih
  | init options _ ih => exact init_keeps options ih
  | baseCount _ ih => exact .count fun n => .count fun n' => ih _

/-! ## 4. Every run -/

section Run

variable {tools : Tools τ} {caches : service.Caches} {programs : List (Program service ρ)}
variable {contexts : List Context} {state : τ}
variable {s : State service ρ (World (τ × List Answered))}

/-- **The log of the tools is in the events.** -/
theorem log_eq_filterMap (hp : ∀ program ∈ programs, p.Calls program)
    (h : State.Reaches (World.respond tools.recorded)
      (.start caches programs ⟨contexts, state, []⟩) s) :
    s.world.tools.2 = s.events.filterMap (Event.shown? Answered.of?) := by
  have hview := Reaches.view (d := p.discipline) (fun w => w.tools.2) Answered.of?
    (fun q w => World.log_respond tools q w) (fun q answer hq => ?_)
    (fun program hmem => (hp program hmem).keeps) h
  · rw [hview, List.append_nil]
  · cases hx : Answered.of? q answer with
    | none => rfl
    | some x => exact absurd ⟨answer, by rw [hx]; rfl⟩ hq

/-- What an entry of the log that attempts a key comes from. -/
theorem exists_of_shown? {e : Event service} {x : Answered} {key : Key}
    (hx : e.shown? Answered.of? = some x) (hpermit : e.Permitted p.discipline)
    (ha : x.Attempts p key) :
    ∃ t q answer, e = .asked t key q answer ∧ Answered.of? q answer = some x ∧
      p.Permits key q := by
  cases e with
  | asked t k q answer =>
    obtain rfl := Permits.eq_of_attempts hpermit hx ha
    exact ⟨t, q, answer, rfl, hx, hpermit⟩
  | _ => exact absurd hx (by simp [Event.shown?])

/-- **Each job outside is done successfully at most once**, whatever the tools answer, for any
number of threads that use a provider, in any interleaving of their steps. -/
theorem eachJobOnce (hp : ∀ program ∈ programs, p.Calls program)
    (h : State.Reaches (World.respond tools.recorded)
      (.start caches programs ⟨contexts, state, []⟩) s) :
    EachJobOnce p s.world.tools.2 s.events := by
  have horderly := Reaches.orderly (fun program hmem => (hp program hmem).keeps) h
  obtain ⟨hsound, hrecorded⟩ := Reaches.recorded h
  refine ⟨?_, fun hplatform x hx ha => ?_, ?_⟩
  · rw [log_eq_filterMap hp h, List.pairwise_filterMap]
    refine horderly.once.imp_of_mem fun {later earlier} hl he honce => ?_
    intro x' hx' x hx key hsucceeds hattempts
    obtain ⟨t, q, answer, rfl, hof, -⟩ :=
      exists_of_shown? hx (horderly.permitted _ he) hsucceeds.attempts
    obtain ⟨t', q', answer', rfl, hof', -⟩ :=
      exists_of_shown? hx' (horderly.permitted _ hl) hattempts
    exact honce key ⟨rfl, x, hof, hsucceeds⟩ ⟨rfl, answer', by rw [hof']; rfl⟩
  · rw [log_eq_filterMap hp h, List.mem_filterMap] at hx
    obtain ⟨e, he, hx⟩ := hx
    obtain ⟨-, q, -, -, -, hpermits⟩ := exists_of_shown? hx (horderly.permitted e he) ha
    exact hplatform hpermits.platform
  · intro t t' mode version id id' hid hid'
    have hvalue := hrecorded.hasValue_of_fetched hid
    have hvalue' := hrecorded.hasValue_of_fetched hid'
    obtain ⟨slot, hslot⟩ := (hrecorded.values _ id).mp hvalue
    obtain ⟨slot', hslot'⟩ := (hrecorded.values _ id').mp hvalue'
    exact hsound.value_unique hslot hslot'

end Run

/-- Tools whose first answer is a failure.  Later on, all toolchains report the same version. -/
def flakyTools : Tools Nat where
  run c n :=
    (if n = 0 then .error (.queryNotStarted c.text "busy") else .ok (.succeeded "5.1"), n + 1)
  load _ _ _ n := (.ok [], n + 1)

/-- A provider on the platform that has an SDK path. -/
def sdkProvider : Provider := ⟨{ Settings.default with platform := .macOS }, ⟨"library.json"⟩⟩

/-- Requests for a base context, by the default toolchain and by another one. -/
def requests : List (Program service (Except Failure ContextId)) :=
  [none, some "next", none].map fun toolchain => sdkProvider.base toolchain .rich .result

/-- The requests, made at once. -/
def sharedRun : State service (Except Failure ContextId) (World (Nat × List Answered)) :=
  (State.start .empty requests ⟨[], 0, []⟩).rounds (World.respond flakyTools.recorded) 40

/-- One request gets the failure of its own version query.  The others share a base context: the
tools are asked for two versions, for one of them again, for the SDK path and for the library. -/
theorem eachJobOnce_sharedRun :
    (∀ program ∈ requests, sdkProvider.Calls program) ∧
      State.Reaches (World.respond flakyTools.recorded) (.start .empty requests ⟨[], 0, []⟩)
        sharedRun ∧
      sharedRun.results.map Except.toOption = [none, some 0, some 0] ∧
      sharedRun.world.tools.2.length = 5 ∧
      EachJobOnce sdkProvider sharedRun.world.tools.2 sharedRun.events := by
  have hcalls : ∀ program ∈ requests, sdkProvider.Calls program := by
    intro program hmem
    obtain ⟨toolchain, -, rfl⟩ := List.mem_map.mp hmem
    exact .base toolchain .rich fun outcome => .done outcome
  have hreach : State.Reaches (World.respond flakyTools.recorded)
      (.start .empty requests ⟨[], 0, []⟩) sharedRun := reaches_rounds 40 (.refl _)
  exact ⟨hcalls, hreach, by decide +kernel, by decide +kernel, eachJobOnce hcalls hreach⟩

end PassContext.Provider
