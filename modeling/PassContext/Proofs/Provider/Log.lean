/-
# What a provider asked its tools

Nothing is known of the tools behind a provider: they answer as they like, and differently each
time.  To speak about what was asked of them, their state is put together with a log of the
questions and answers, the latest first; the answers stay the same.

Each entry of the log is an attempt to get the value of one key: a version, the SDK path or a base
context.  Which key that is can be read off the command, because the queries that a provider runs
differ from each other.
-/
import Mathlib.Tactic.Common
import PassContext.Proofs.Memo.Erasure
import PassContext.Provider.Session

namespace PassContext

/-! ## 1. The log -/

/-- A question that tools were asked, and their answer. -/
inductive Answered
  | ran (c : Command) (answer : Except Failure Output)
  | loaded (library : Path) (mode : SyntaxMode) (version : String)
      (answer : Except Failure (List Template))

/-- The same tools with a log. -/
def Tools.recorded {τ : Type} (tools : Tools τ) : Tools (τ × List Answered) where
  run c s :=
    let (answer, state) := tools.run c s.1
    (answer, state, .ran c answer :: s.2)
  load library mode version s :=
    let (answer, state) := tools.load library mode version s.1
    (answer, state, .loaded library mode version answer :: s.2)

/-- What the log keeps of a question to the outside world. -/
def Answered.of? : (q : Provider.service.Query) → Provider.service.Answer q → Option Answered
  | .run c, answer => some (.ran c answer)
  | .load library mode version, answer => some (.loaded library mode version answer)
  | .keep _, _ => none
  | .startRun .., _ => none

/-- **The log grows by the questions to the tools and their answers.** -/
theorem World.log_respond {τ : Type} (tools : Tools τ) (q : Provider.service.Query)
    (w : World (τ × List Answered)) :
    (World.respond tools.recorded q w).2.tools.2 =
      (Answered.of? q (World.respond tools.recorded q w).1).toList ++ w.tools.2 := by
  cases q with
  | run c => rfl
  | load library mode version => rfl
  | keep c => rfl
  | startRun base options =>
    simp only [World.respond]
    split <;> rfl

/-! ## 2. Without the log -/

section WithoutLog

variable {τ : Type}

/-- A world whose tools keep no log. -/
def World.withoutLog (w : World (τ × List Answered)) : World τ := ⟨w.contexts, w.tools.1⟩

theorem World.respond_withoutLog (tools : Tools τ) :
    AnswersAlike World.withoutLog (World.respond tools.recorded) (World.respond tools) := by
  intro q w
  cases q with
  | run c => rfl
  | load library mode version => rfl
  | keep c => rfl
  | startRun base options =>
    simp only [World.respond, withoutLog]
    split <;> rfl

namespace Session

/-- A session whose tools keep no log. -/
def withoutLog (s : Session (τ × List Answered)) : Session τ :=
  ⟨s.provider, s.caches, s.world.withoutLog⟩

/-- **The log changes nothing**: an operation gives the same without it. -/
theorem apply_withoutLog (tools : Tools τ) (s : Session (τ × List Answered)) (o : Operation) :
    s.withoutLog.apply tools o =
      ((s.apply tools.recorded o).1, (s.apply tools.recorded o).2.withoutLog) := by
  have hprovider : s.withoutLog.provider = s.provider := rfl
  unfold apply
  rw [hprovider]
  cases hprogram : o.program? s.provider with
  | none => cases o <;> rfl
  | some program =>
    have hrun : program.run (World.respond tools) (s.withoutLog.caches, s.withoutLog.world) = _ :=
      Program.run_inPart (World.respond_withoutLog tools) program s.caches s.world
    simp only [perform, hrun]
    rfl

end Session

end WithoutLog

/-! ## 3. Attempts -/

namespace Answered

open Provider

/-- The question was an attempt to get the value of a key. -/
def Attempts (p : Provider) (key : Key) : Answered → Prop
  | .ran c _ =>
    (∃ toolchain, key = versionKey toolchain ∧ c = p.settings.versionQuery toolchain) ∨
      key = p.sdkKey ∧ c = p.settings.sdkQuery
  | .loaded _ mode version _ => key = .base mode version

/-- The question was an attempt to get the value of a key, and the answer gave it. -/
def Succeeds (p : Provider) (key : Key) : Answered → Prop
  | .ran c answer =>
    (∃ toolchain version, key = versionKey toolchain ∧ c = p.settings.versionQuery toolchain ∧
      p.settings.versionOfAnswer toolchain answer = .ok version) ∨
      key = p.sdkKey ∧ c = p.settings.sdkQuery ∧
        ∃ path, p.settings.sdkPathOfAnswer answer = .ok path
  | .loaded _ mode version answer => key = .base mode version ∧ ∃ templates, answer = .ok templates

theorem Succeeds.attempts {p : Provider} {key : Key} {x : Answered} (h : x.Succeeds p key) :
    x.Attempts p key := by
  cases x with
  | ran c answer =>
    rcases h with ⟨toolchain, -, hkey, hc, -⟩ | ⟨hkey, hc, -⟩
    · exact Or.inl ⟨toolchain, hkey, hc⟩
    · exact Or.inr ⟨hkey, hc⟩
  | loaded library mode version answer => exact h.1

end Answered

/-! ## 4. The queries of a provider differ -/

namespace Settings

variable (s : Settings)

/-- A version query tells which toolchain it is for. -/
theorem versionQuery_injective : Function.Injective s.versionQuery := by
  intro toolchain toolchain' h
  cases toolchain with
  | none =>
    cases toolchain' with
    | none => rfl
    | some name' => cases hp : s.platform <;> simp [versionQuery, hp] at h
  | some name =>
    cases toolchain' with
    | none => cases hp : s.platform <;> simp [versionQuery, hp] at h
    | some name' =>
      simp only [versionQuery, Command.mk.injEq, List.cons.injEq] at h
      rw [h.2.2.1]

/-- A version query is not the SDK query: they have different numbers of arguments. -/
theorem versionQuery_ne_sdkQuery (toolchain : Option String) :
    s.versionQuery toolchain ≠ s.sdkQuery := by
  intro h
  have hlength : (s.versionQuery toolchain).args.length = 3 := by rw [h]; rfl
  cases toolchain with
  | none => cases hp : s.platform <;> simp [versionQuery, hp] at hlength
  | some name => simp [versionQuery] at hlength

end Settings

namespace Answered

open Provider

variable {p : Provider} {key : Key} {toolchain : Option String} {answer : Except Failure Output}

/-- A version query is for the key of its toolchain only. -/
theorem attempts_versionQuery :
    (ran (p.settings.versionQuery toolchain) answer).Attempts p key ↔
      key = versionKey toolchain := by
  constructor
  · rintro (⟨toolchain', rfl, hc⟩ | ⟨-, hc⟩)
    · rw [p.settings.versionQuery_injective hc]
    · exact absurd hc (p.settings.versionQuery_ne_sdkQuery toolchain)
  · rintro rfl
    exact Or.inl ⟨toolchain, rfl, rfl⟩

/-- The SDK query is for the SDK path only. -/
theorem attempts_sdkQuery : (ran p.settings.sdkQuery answer).Attempts p key ↔ key = p.sdkKey := by
  constructor
  · rintro (⟨toolchain, -, hc⟩ | ⟨rfl, -⟩)
    · exact absurd hc.symm (p.settings.versionQuery_ne_sdkQuery toolchain)
    · rfl
  · rintro rfl
    exact Or.inr ⟨rfl, rfl⟩

/-- A version query succeeds if its answer reports a supported version. -/
theorem succeeds_versionQuery :
    (ran (p.settings.versionQuery toolchain) answer).Succeeds p key ↔
      key = versionKey toolchain ∧
        ∃ version, p.settings.versionOfAnswer toolchain answer = .ok version := by
  constructor
  · rintro (⟨toolchain', version, rfl, hc, hv⟩ | ⟨-, hc, -⟩)
    · obtain rfl := p.settings.versionQuery_injective hc
      exact ⟨rfl, version, hv⟩
    · exact absurd hc (p.settings.versionQuery_ne_sdkQuery toolchain)
  · rintro ⟨rfl, version, hv⟩
    exact Or.inl ⟨toolchain, version, rfl, rfl, hv⟩

theorem succeeds_sdkQuery :
    (ran p.settings.sdkQuery answer).Succeeds p key ↔
      key = p.sdkKey ∧ ∃ path, p.settings.sdkPathOfAnswer answer = .ok path := by
  constructor
  · rintro (⟨toolchain, -, -, hc, -⟩ | ⟨rfl, -, hpath⟩)
    · exact absurd hc.symm (p.settings.versionQuery_ne_sdkQuery toolchain)
    · exact ⟨rfl, hpath⟩
  · rintro ⟨rfl, hpath⟩
    exact Or.inr ⟨rfl, rfl, hpath⟩

end Answered

end PassContext
