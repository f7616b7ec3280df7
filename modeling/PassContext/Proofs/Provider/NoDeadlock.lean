/-
# A provider cannot deadlock

The four caches of a provider have locks that are held for a moment, and their slots have locks that
are held while a tool is run.  One of these is held while others are taken: a base context is
built with the SDK path, so the slot of the base context stays locked while that path is looked
for, waited for or fetched, and while its slot is given up after a failure.

It never goes the other way.  With base contexts above everything else, the computations of a
provider fetch downwards, and what was said of threads that lock in order holds for any number of
threads that use a provider (`noDeadlock`).
-/
import PassContext.Proofs.Provider.Once
import PassContext.Proofs.Threads.LockOrder

namespace PassContext.Provider

open Machine

variable {ρ σ : Type} {p : Provider}

/-! ## 1. The order of the keys -/

/-- Base contexts stand above versions and SDK paths. -/
def Key.rank : Key → Nat
  | .version _ | .sdkPath _ => 0
  | .base .. => 1

theorem versionJob_descends (toolchain : Option String) :
    Job.Descends (S := service) Key.rank (p.versionJob toolchain) :=
  .ask fun _ => .finish _

theorem sdkJob_descends : Job.Descends (S := service) Key.rank p.sdkJob :=
  .ask fun _ => .finish _

theorem seedJob_descends (toolchain : Option String) (mode : SyntaxMode) (version : String)
    (sdkPath : Except Failure (Option String)) :
    Job.Descends (S := service) Key.rank (p.seedJob toolchain mode version sdkPath) := by
  cases sdkPath with
  | error e => exact .finish _
  | ok path =>
    refine .ask fun answer => ?_
    cases answer with
    | error e => exact .finish _
    | ok templates => exact .ask fun id => .finish _

/-- The only fetch within a computation goes down, from a base context to the SDK path. -/
theorem baseJob_descends (toolchain : Option String) (mode : SyntaxMode) (version : String) :
    Job.Descends (S := service) Key.rank (p.baseJob toolchain mode version) := by
  unfold baseJob
  split
  · exact .fetch Nat.one_pos sdkJob_descends fun outcome => seedJob_descends ..
  · exact seedJob_descends ..

section Programs

theorem version_descends (toolchain : Option String)
    {next : Except Failure String → Program service ρ}
    (hnext : ∀ outcome, Program.Descends Key.rank (next outcome)) :
    Program.Descends Key.rank (p.version toolchain next) := by
  refine .get fun found => ?_
  cases found with
  | some version => exact hnext _
  | none => exact .fetch (versionJob_descends toolchain) hnext

theorem sdkPath_descends {next : Except Failure (Option String) → Program service ρ}
    (hnext : ∀ outcome, Program.Descends Key.rank (next outcome)) :
    Program.Descends Key.rank (p.sdkPath next) := by
  unfold sdkPath
  split
  · exact .fetch sdkJob_descends fun outcome => hnext _
  · exact hnext _

variable {next : Except Failure ContextId → Program service ρ}

theorem base_descends (toolchain : Option String) (mode : SyntaxMode)
    (hnext : ∀ outcome, Program.Descends Key.rank (next outcome)) :
    Program.Descends Key.rank (p.base toolchain mode next) := by
  refine version_descends toolchain fun outcome => ?_
  cases outcome with
  | error e => exact hnext _
  | ok version => exact .fetch (baseJob_descends ..) hnext

theorem init_descends (options : Options)
    (hnext : ∀ outcome, Program.Descends Key.rank (next outcome)) :
    Program.Descends Key.rank (p.init options next) := by
  refine base_descends _ _ fun outcome => ?_
  cases outcome with
  | error e => exact hnext _
  | ok id => exact .ask fun id => hnext _

end Programs

/-- **All operations of a provider lock in order.** -/
theorem Calls.descends {program : Program service ρ} (h : p.Calls program) :
    Program.Descends Key.rank program := by
  induction h with
  | done r => exact .result r
  | version toolchain _ ih => exact version_descends toolchain ih
  | sdkPath _ ih => exact sdkPath_descends ih
  | base toolchain mode _ ih => exact base_descends toolchain mode ih
  | init options _ ih => exact init_descends options ih
  | baseCount _ ih => exact .count fun n => .count fun n' => ih _

/-! ## 2. Every run -/

/-- **In every state that threads reach while they use a provider, one that is not finished can
take a step, and none wait for each other in a circle**, whatever is in the caches at first and
whatever the tools answer. -/
theorem noDeadlock {respond : service.Respond σ} {caches : service.Caches}
    {programs : List (Program service ρ)} {world : σ} {s : State service ρ σ}
    (hp : ∀ program ∈ programs, p.Calls program)
    (h : State.Reaches respond (.start caches programs world) s) : Live respond s :=
  Reaches.live (fun program hmem => (hp program hmem).descends) h

/-- Tools for which every toolchain has the same version. -/
def uniformTools : Tools Unit where
  run _ state := (.ok (.succeeded "5.1"), state)
  load _ _ _ state := (.ok [], state)

/-- One caller wants the SDK path, and two others need a base context. -/
def callers : List (Program service Bool) :=
  [sdkProvider.sdkPath fun path => .result path.toBool,
    sdkProvider.base none .rich fun id => .result id.toBool,
    sdkProvider.init { Options.default with mode := .rich } fun id => .result id.toBool]

/-- The callers in the middle of their work.  A thread that waits misses its turns. -/
def heldUp : State service Bool (World Unit) :=
  (State.start .empty callers ⟨[], ()⟩).take (World.respond uniformTools)
    (.replicate 12 1 ++ .replicate 7 2 ++ .replicate 4 0 ++ .replicate 3 1)

/-- The last caller waits for the second one, who is building the base context and waits for the
first one, who is asking for the SDK path. -/
theorem noDeadlock_heldUp :
    (∀ program ∈ callers, sdkProvider.Calls program) ∧
      State.Reaches (World.respond uniformTools) (.start .empty callers ⟨[], ()⟩) heldUp ∧
      heldUp.WaitsFor 2 1 ∧ heldUp.WaitsFor 1 0 ∧ heldUp.Unfinished 0 ∧
      Live (World.respond uniformTools) heldUp := by
  have hcalls : ∀ program ∈ callers, sdkProvider.Calls program := by
    intro program hmem
    simp only [callers, List.mem_cons, List.not_mem_nil, or_false] at hmem
    rcases hmem with rfl | rfl | rfl
    · exact .sdkPath fun path => .done path.toBool
    · exact .base none .rich fun id => .done id.toBool
    · exact .init _ fun id => .done id.toBool
  have hreach : State.Reaches (World.respond uniformTools) (.start .empty callers ⟨[], ()⟩)
      heldUp := Reaches.take _ (.refl _)
  exact ⟨hcalls, hreach, ⟨.slot (.base .rich "5.1") 0, rfl, rfl⟩,
    ⟨.slot (.sdkPath "macosx") 0, rfl, rfl⟩, ⟨_, rfl, rfl⟩, noDeadlock hcalls hreach⟩

end PassContext.Provider
