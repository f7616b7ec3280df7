/-
# The stages of a call

What a provider is asked for takes up to six stages.  The version query has to start, to end with
success, to print a version, and one that is supported; then the SDK path is asked for, and the
template library is loaded.  A stage is due if its result is not in the caches.

Each stage has a verdict of its own on what the tools answered (`verdict?`), and none if it was not
run.  Stages take their course if they succeed one after the other, up to the first that fails
(`Course`).  A provider does not know of stages: one function makes a version of the answer to a
version query, and another one a path of the answer to an SDK query.  They take these answers
through the four stages of the one (`course_version`) and the stage of the other (`course_sdk`).
-/
import Mathlib.Tactic.Common
import PassContext.Proofs.Provider.Log

namespace PassContext

/-- The failure of a computation, if it failed. -/
def failure? {α : Type} : Except Failure α → Option Failure
  | .ok _ => none
  | .error e => some e

@[simp] theorem failure?_map {α β : Type} (f : α → β) (r : Except Failure α) :
    failure? (r.map f) = failure? r := by
  cases r <;> rfl

theorem eq_error_of_map {α β : Type} {f : α → β} {r : Except Failure α} {e : Failure}
    (h : r.map f = .error e) : r = .error e := by
  cases r with
  | ok v => exact absurd h (by simp [Except.map])
  | error e' => rw [Except.error.inj h]

theorem failure?_eq_some_iff {α : Type} {r : Except Failure α} {e : Failure} :
    failure? r = some e ↔ r = .error e := by
  cases r <;> simp [failure?]

theorem failure?_eq_none_iff {α : Type} {r : Except Failure α} :
    failure? r = none ↔ ∃ v, r = .ok v := by
  cases r <;> simp [failure?]

namespace Provider

/-! ## 1. Stages -/

/-- The stages of a call, in their order. -/
inductive Stage
  /-- The version query is started. -/
  | start
  /-- It ends with success. -/
  | status
  /-- A version is read from what it printed. -/
  | text
  /-- The version is on the list of supported ones. -/
  | allowlist
  /-- The SDK path is asked for: the query is started and ends with success. -/
  | sdk
  /-- The template library is loaded. -/
  | library
deriving DecidableEq

/-- All stages, in their order. -/
def Stage.all : List Stage := [.start, .status, .text, .allowlist, .sdk, .library]

/-- The stages that lead to the value of a key. -/
def Key.stages : Key → List Stage
  | .version _ => [.start, .status, .text, .allowlist]
  | .sdkPath _ => [.sdk]
  | .base .. => [.library]

/-- What the tools answered in a call: to the version query, to the SDK query and to the request
for the library, which is made for a version. -/
structure Answers where
  version? : Option (Except Failure Output)
  sdk? : Option (Except Failure Output)
  library? : Option (String × Except Failure (List Template))

namespace Answers

variable (a b : Answers)

/-- What the version query printed and how it ended, if it was started. -/
def output? : Option Output := a.version?.bind Except.toOption

/-- The standard output of the version query, if it ended with success. -/
def stdout? : Option String := (a.output?.filter Output.success).map Output.stdout

/-- How a stage went, if it was run. -/
def verdict? (s : Settings) (toolchain : Option String) : Stage → Option (Except Failure Unit)
  | .start => a.version?.map fun answer => answer.map fun _ => ()
  | .status => a.output?.map fun output =>
      if output.success then .ok ()
      else .error (.queryFailed (s.versionQuery toolchain).text output.exitCode output.printed)
  | .text => a.stdout?.map fun stdout =>
      if (versionIn? stdout).isSome then .ok () else .error (.unreadableVersion toolchain stdout)
  | .allowlist => (a.stdout?.bind versionIn?).map fun version =>
      if s.supports version then .ok ()
      else .error (.unsupportedVersion toolchain version s.supportedVersions)
  | .sdk => a.sdk?.map fun answer => answer.bind fun output =>
      if output.success then .ok ()
      else .error (.queryFailed s.sdkQuery.text output.exitCode output.printed)
  | .library => a.library?.map fun answer => answer.2.map fun _ => ()

/-- The questions and answers, in their order. -/
def entries (p : Provider) (toolchain : Option String) (mode : SyntaxMode) : List Answered :=
  (a.version?.map (.ran (p.settings.versionQuery toolchain))).toList ++
    (a.sdk?.map (.ran p.settings.sdkQuery)).toList ++
    (a.library?.map fun answer => .loaded p.library mode answer.1 answer.2).toList

/-- The answers in one part of a call and in the next. -/
def and : Answers := ⟨a.version?.or b.version?, a.sdk?.or b.sdk?, a.library?.or b.library?⟩

/-- The questions of one part of a call come before those of the next. -/
structure Before : Prop where
  version : b.version? = none
  sdk : a.sdk? = none ∨ b.sdk? = none
  library : a.library? = none

variable {a b}

theorem verdict?_and (h : a.Before b) (s : Settings) (toolchain : Option String) (st : Stage) :
    (a.and b).verdict? s toolchain st =
      (a.verdict? s toolchain st).or (b.verdict? s toolchain st) := by
  obtain ⟨hversion, -, hlibrary⟩ := h
  cases st with
  | start | status | text | allowlist =>
    simp [verdict?, stdout?, output?, Answers.and, hversion]
  | sdk => simp only [verdict?, Answers.and, Option.map_or]
  | library => simp only [verdict?, Answers.and, Option.map_or]

theorem entries_and (h : a.Before b) (p : Provider) (toolchain : Option String)
    (mode : SyntaxMode) :
    (a.and b).entries p toolchain mode =
      a.entries p toolchain mode ++ b.entries p toolchain mode := by
  obtain ⟨hversion, hsdk | hsdk, hlibrary⟩ := h
  · simp [entries, Answers.and, hversion, hsdk, hlibrary]
  · simp [entries, Answers.and, hversion, hsdk, hlibrary]

end Answers

/-! ## 2. How stages go -/

/-- How the stages of a call go: all that are due succeed, or the first ones do and the next one
fails.  No other stage is run. -/
inductive Course (verdict? : Stage → Option (Except Failure Unit)) (due : List Stage) :
    Option Failure → Prop
  | passed (hrun : ∀ st ∈ due, verdict? st = some (.ok ()))
      (hrest : ∀ st ∉ due, verdict? st = none) : Course verdict? due none
  | failed (earlier : List Stage) (stage : Stage) (later : List Stage) (e : Failure)
      (hdue : due = earlier ++ stage :: later)
      (hrun : ∀ st ∈ earlier, verdict? st = some (.ok ()))
      (hfail : verdict? stage = some (.error e))
      (hrest : ∀ st ∉ earlier ++ [stage], verdict? st = none) : Course verdict? due (some e)

namespace Course

variable {v v' w : Stage → Option (Except Failure Unit)} {due due' : List Stage}
variable {r : Option Failure} {e : Failure}

/-- The stages before the first one that fails, that one, and those behind it. -/
theorem exists_failed (h : Course v due (some e)) : ∃ earlier stage later,
    due = earlier ++ stage :: later ∧ (∀ st ∈ earlier, v st = some (.ok ())) ∧
    v stage = some (.error e) ∧ ∀ st ∉ earlier ++ [stage], v st = none := by
  cases h with
  | failed earlier stage later _ hdue hrun hfail hrest =>
    exact ⟨earlier, stage, later, hdue, hrun, hfail, hrest⟩

/-- A failure comes before all stages behind. -/
theorem append_of_failed (h : Course v due (some e)) (due' : List Stage) :
    Course v (due ++ due') (some e) := by
  cases h with
  | failed earlier stage later _ hdue hrun hfail hrest =>
    refine .failed earlier stage (later ++ due') e ?_ hrun hfail hrest
    rw [hdue, List.append_assoc, List.cons_append]

/-- Stages that go well are followed by other ones. -/
theorem append (h : Course v due none) (h' : Course v' due' r)
    (hw : ∀ st, w st = (v st).or (v' st)) (hdisjoint : ∀ st ∈ due', st ∉ due) :
    Course w (due ++ due') r := by
  cases h with
  | passed hrun hrest =>
    have hw_due : ∀ st ∈ due, w st = some (.ok ()) := fun st hst => by
      rw [hw, hrun st hst, Option.some_or]
    have hw_of_not_mem : ∀ st ∉ due, w st = v' st := fun st hst => by
      rw [hw, hrest st hst, Option.none_or]
    cases h' with
    | passed hrun' hrest' =>
      refine .passed (fun st hst => ?_) fun st hst => ?_
      · rcases List.mem_append.mp hst with hst | hst
        · exact hw_due st hst
        · rw [hw_of_not_mem st (hdisjoint st hst), hrun' st hst]
      · rw [List.mem_append, not_or] at hst
        rw [hw_of_not_mem st hst.1, hrest' st hst.2]
    | failed earlier stage later e hdue hrun' hfail hrest' =>
      have hmem : ∀ st ∈ earlier ++ [stage], st ∈ due' := fun st hst => by
        rw [hdue, List.append_cons]
        exact List.mem_append_left _ hst
      refine .failed (due ++ earlier) stage later e ?_ (fun st hst => ?_) ?_ fun st hst => ?_
      · rw [hdue, List.append_assoc]
      · rcases List.mem_append.mp hst with hst | hst
        · exact hw_due st hst
        · rw [hw_of_not_mem st (hdisjoint st (hmem st (List.mem_append_left _ hst))), hrun' st hst]
      · rw [hw_of_not_mem stage (hdisjoint stage (hmem stage (by simp))), hfail]
      · rw [List.append_assoc, List.mem_append, not_or] at hst
        rw [hw_of_not_mem st hst.1, hrest' st hst.2]

/-- In stages that go well, a stage succeeds if it is run. -/
theorem eq_none_or_ok (h : Course v due none) (st : Stage) :
    v st = none ∨ v st = some (.ok ()) := by
  cases h with
  | passed hrun hrest =>
    by_cases hst : st ∈ due
    · exact .inr (hrun st hst)
    · exact .inl (hrest st hst)

end Course

section Version

variable {s : Settings} {toolchain : Option String} {output : Output}

theorem versionOfAnswer_of_success (h : output.success = true) :
    s.versionOfAnswer toolchain (.ok output) =
      match versionIn? output.stdout with
      | none => .error (.unreadableVersion toolchain output.stdout)
      | some version =>
        if s.supports version then .ok version
        else .error (.unsupportedVersion toolchain version s.supportedVersions) := by
  simp only [Settings.versionOfAnswer, bind, Except.bind, Output.stdoutOf, h, if_true]
  cases versionIn? output.stdout with
  | none => rfl
  | some version =>
    by_cases hsupports : s.supports version = true
    · simp [Settings.requireSupported, hsupports, pure, Except.pure]
    · simp [Settings.requireSupported, hsupports]

theorem versionOfAnswer_of_not_success (h : ¬ output.success = true) :
    s.versionOfAnswer toolchain (.ok output) =
      .error (.queryFailed (s.versionQuery toolchain).text output.exitCode output.printed) := by
  simp [Settings.versionOfAnswer, bind, Except.bind, Output.stdoutOf, h]

/-- **The answer to a version query** goes through its four stages. -/
theorem course_version (s : Settings) (toolchain : Option String)
    (answer : Except Failure Output) :
    Course ((Answers.mk (some answer) none none).verdict? s toolchain)
      [.start, .status, .text, .allowlist] (failure? (s.versionOfAnswer toolchain answer)) := by
  cases answer with
  | error e =>
    refine .failed [] .start _ e rfl (by simp) rfl fun st hst => ?_
    cases st <;> simp_all [Answers.verdict?, Answers.stdout?, Answers.output?, Except.toOption]
  | ok output =>
    have houtput : (Answers.mk (some (.ok output)) none none).output? = some output := rfl
    by_cases hsuccess : output.success = true
    · have hstdout : (Answers.mk (some (.ok output)) none none).stdout? = some output.stdout := by
        simp [Answers.stdout?, houtput, Option.filter, hsuccess]
      rw [versionOfAnswer_of_success hsuccess]
      cases hversion : versionIn? output.stdout with
      | none =>
        refine .failed [.start, .status] .text _ _ rfl ?_ ?_ fun st hst => ?_
        · simp [Answers.verdict?, houtput, hsuccess, Except.map]
        · simp [Answers.verdict?, hstdout, hversion]
        · cases st <;> simp_all [Answers.verdict?]
      | some version =>
        dsimp only
        split
        · rename_i hsupports
          refine .passed ?_ fun st hst => ?_
          · simp [Answers.verdict?, houtput, hstdout, hsuccess, hversion, hsupports, Except.map]
          · cases st <;> simp_all [Answers.verdict?]
        · rename_i hsupports
          refine .failed [.start, .status, .text] .allowlist _ _ rfl ?_ ?_ fun st hst => ?_
          · simp [Answers.verdict?, houtput, hstdout, hsuccess, hversion, Except.map]
          · simp [Answers.verdict?, hstdout, hversion, hsupports]
          · cases st <;> simp_all [Answers.verdict?]
    · have hstdout : (Answers.mk (some (.ok output)) none none).stdout? = none := by
        simp [Answers.stdout?, houtput, Option.filter, hsuccess]
      rw [versionOfAnswer_of_not_success hsuccess]
      refine .failed [.start] .status _ _ rfl ?_ ?_ fun st hst => ?_
      · simp [Answers.verdict?, Except.map]
      · simp [Answers.verdict?, houtput, hsuccess]
      · cases st <;> simp_all [Answers.verdict?]

end Version

/-- A stage that is run alone. -/
theorem course_single {α : Type} {v : Stage → Option (Except Failure Unit)} {st : Stage}
    {outcome : Except Failure α} (hst : v st = some (outcome.map fun _ => ()))
    (hother : ∀ st' ≠ st, v st' = none) : Course v [st] (failure? outcome) := by
  cases outcome with
  | ok value =>
    refine .passed (fun st' hst' => ?_) fun st' hst' => hother st' (by simpa using hst')
    rw [List.mem_singleton.mp hst', hst]
    rfl
  | error e =>
    exact .failed [] st [] e rfl (by simp) hst fun st' hst' => hother st' (by simpa using hst')

/-- Whatever an SDK query prints is a path, if it ends with success. -/
theorem sdkPathOfAnswer_map (s : Settings) (answer : Except Failure Output) :
    ((s.sdkPathOfAnswer answer).map fun _ => ()) = answer.bind fun output =>
      if output.success then .ok ()
      else .error (.queryFailed s.sdkQuery.text output.exitCode output.printed) := by
  cases answer with
  | error e => rfl
  | ok output =>
    simp only [Settings.sdkPathOfAnswer, bind, Except.bind, Output.stdoutOf]
    by_cases hsuccess : output.success = true
    · simp only [if_pos hsuccess]
      rfl
    · simp only [if_neg hsuccess]
      rfl

/-- **The answer to an SDK query** goes through its stage. -/
theorem course_sdk (s : Settings) (toolchain : Option String) (answer : Except Failure Output) :
    Course ((Answers.mk none (some answer) none).verdict? s toolchain) [.sdk]
      (failure? (s.sdkPathOfAnswer answer)) :=
  course_single (congrArg some (sdkPathOfAnswer_map s answer).symm) fun st hst => by
    cases st <;> simp_all [Answers.verdict?, Answers.stdout?, Answers.output?]

theorem course_library (s : Settings) (toolchain : Option String) (version : String)
    (answer : Except Failure (List Template)) :
    Course ((Answers.mk none none (some (version, answer))).verdict? s toolchain) [.library]
      (failure? answer) :=
  course_single rfl fun st hst => by
    cases st <;> simp_all [Answers.verdict?, Answers.stdout?, Answers.output?]

end Provider

end PassContext
