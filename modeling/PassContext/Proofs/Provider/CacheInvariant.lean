/-
# What a provider keeps

A provider is used for a long time, by operations in any order, and with tools that may say
something else each time.  All that it keeps stays, and each value is what the tools once said: a
version is supported and was read from the output of its own query, and a base context holds the
templates of one answer of the loader behind those that were put into it since.

Base contexts are kept by the version, but asked for by the toolchain; and a run takes its version
from the base context, not from the cache for versions.  That the two agree comes from the keys:
the base context that is found under a version is one for that version.
-/
import Mathlib.Data.List.Induction
import PassContext.Proofs.Provider.Backing
import PassContext.Proofs.Run.Registrations

namespace PassContext

namespace Session

variable {τ : Type}

/-! ## 1. Registrations -/

/-- The template that an operation puts into a context. -/
def Operation.template? (id : ContextId) : Operation → Option Template
  | .update id' u => if id' = id then u.template? else none
  | _ => none

/-- The templates that operations put into a context, the newest first. -/
def added (id : ContextId) (ops : List Operation) : List Template :=
  (ops.filterMap (·.template? id)).reverse

variable (tools : Tools τ) {s : Session (τ × List Answered)} {o : Operation}

/-- **An operation lets the caches and the world of a provider grow**, unless it registers
something. -/
theorem grows_of_program? {program : Program Provider.service (Except Failure Result)}
    (h : o.program? s.provider = some program) :
    Grows (s.provider.backing τ) (s.caches, s.world)
      (program.run (World.respond tools.recorded) (s.caches, s.world)).2 := by
  cases o with
  | version toolchain =>
    obtain rfl := Option.some.inj h
    exact (Provider.goesOn_version tools _ toolchain).grows
  | sdkPath =>
    obtain rfl := Option.some.inj h
    exact (Provider.goesOn_sdkPath tools _).grows
  | arguments =>
    obtain rfl := Option.some.inj h
    exact (Provider.goesOn_sdkPath tools _).grows
  | base toolchain mode =>
    obtain rfl := Option.some.inj h
    exact (Provider.goesOn_base tools _ toolchain mode).grows
  | init options =>
    obtain rfl := Option.some.inj h
    exact (Provider.goesOn_init tools _ options).grows
  | baseCount =>
    obtain rfl := Option.some.inj h
    exact (Provider.goesOn_baseCount tools _).grows
  | update id u => exact absurd h (by simp [Operation.program?])

theorem apply_of_program? (tools : Tools τ) {s : Session τ}
    {program : Program Provider.service (Except Failure Result)}
    (h : o.program? s.provider = some program) : s.apply tools o = s.perform tools program := by
  unfold apply
  rw [h]

/-- Only a registration is no program of a provider. -/
theorem exists_update_of_program? {p : Provider} (h : o.program? p = none) :
    ∃ id u, o = .update id u := by
  cases o with
  | update id u => exact ⟨id, u, rfl⟩
  | version | sdkPath | arguments | base | init | baseCount =>
    exact absurd h (by simp [Operation.program?])

theorem template?_of_program? {program : Program Provider.service (Except Failure Result)}
    {p : Provider} (h : o.program? p = some program) (id : ContextId) : o.template? id = none := by
  cases o with
  | update => exact absurd h (by simp [Operation.program?])
  | version | sdkPath | arguments | base | init | baseCount => rfl

variable (s)

/-- What an operation does to all that is kept already, and what it adds. -/
structure Advances (s s' : Session (τ × List Answered)) (o : Operation) : Prop where
  provider : s'.provider = s.provider
  kept : ∀ key v, s.caches.get? key = some v → s'.caches.get? key = some v
  log : s.world.tools.2 <:+ s'.world.tools.2
  /-- A context stays as it is, but for the templates that are put in front. -/
  context : ∀ id c, s.context? id = some c → ∃ c', s'.context? id = some c' ∧
    c'.version = c.version ∧ c'.options = c.options ∧
    c'.templates.toList = (o.template? id).toList ++ c.templates.toList
  fresh : ∀ key v, s.caches.get? key = none → s'.caches.get? key = some v →
    s.provider.Backs s'.caches s'.world key v

theorem advances_apply (o : Operation) : Advances s (s.apply tools.recorded o).2 o := by
  cases hprogram : o.program? s.provider with
  | none =>
    obtain ⟨id, u, rfl⟩ := exists_update_of_program? hprogram
    refine ⟨rfl, fun _ _ hv => hv, List.suffix_rfl, fun id' c hc => ?_, fun key v hnone hsome => ?_⟩
    · by_cases hid : id = id'
      · subst hid
        refine ⟨c.apply u, ?_, c.version_apply u, c.options_apply u, ?_⟩
        · exact (List.getElem?_modify_eq _ id s.world.contexts).trans (congrArg (Option.map _) hc)
        · rw [Operation.template?, if_pos rfl, Context.templates_apply]
      · refine ⟨c, ?_, rfl, rfl, ?_⟩
        · exact (List.getElem?_modify_ne _ s.world.contexts hid).trans hc
        · rw [Operation.template?, if_neg hid]
          rfl
    · exact absurd (hnone.symm.trans hsome) (by simp)
  | some program =>
    have hgrows := grows_of_program? tools hprogram
    rw [apply_of_program? tools.recorded hprogram]
    refine ⟨rfl, hgrows.kept, hgrows.later.log, fun id c hc => ⟨c, ?_, rfl, rfl, ?_⟩,
      hgrows.fresh⟩
    · exact Provider.getElem?_of_prefix hgrows.later.contexts hc
    · rw [template?_of_program? hprogram]
      rfl

/-- A value was kept already, or it is new and the tools back it. -/
theorem Advances.kept_or_backs {s s' : Session (τ × List Answered)} (h : Advances s s' o)
    {key : Provider.Key} {v : key.Value} (hv : s'.caches.get? key = some v) :
    s.caches.get? key = some v ∨
      s.caches.get? key = none ∧ s.provider.Backs s'.caches s'.world key v := by
  cases hkept : s.caches.get? key with
  | some u => exact .inl ((h.kept key u hkept).symm.trans hv)
  | none => exact .inr ⟨rfl, h.fresh key v hkept hv⟩

/-- The session after operations in the given order. -/
def applyAll (tools : Tools τ) (s : Session τ) (ops : List Operation) : Session τ :=
  ops.foldl (fun s o => (s.apply tools o).2) s

theorem applyAll_append (tools : Tools τ) (s : Session τ) (ops ops' : List Operation) :
    s.applyAll tools (ops ++ ops') = (s.applyAll tools ops).applyAll tools ops' :=
  List.foldl_append ..

/-- Values that are kept stay whatever is done. -/
theorem kept_applyAll (ops : List Operation) {key : Provider.Key} {v : key.Value}
    (h : s.caches.get? key = some v) :
    (s.applyAll tools.recorded ops).caches.get? key = some v := by
  induction ops generalizing s with
  | nil => exact h
  | cons o ops ih => exact ih _ ((s.advances_apply tools o).kept key v h)

/-- A version that is in its cache is given without a question. -/
theorem apply_version (tools : Tools τ) (s : Session τ) {toolchain : Option String}
    {version : String} (h : s.caches.get? (Provider.versionKey toolchain) = some version) :
    s.apply tools (.version toolchain) = (.ok (.text version), s) := by
  simp only [apply, Operation.program?, perform, Provider.version, Program.run, h]
  rfl

end Session

namespace Provider

open Session

variable {τ : Type}

/-- A provider after operations, with tools that keep a log. -/
def after (p : Provider) (tools : Tools τ) (state : τ) (ops : List Operation) :
    Session (τ × List Answered) :=
  (Session.start p (state, [])).applyAll tools.recorded ops

section Kept

variable (p : Provider) (tools : Tools τ) (state : τ) (ops : List Operation)

/-- What is known of a version in the cache for a name. -/
structure KeptVersion (name version : String) : Prop where
  /-- It has three characters, and begins with a digit. -/
  chars : ∃ d e f, version.toList = [d, e, f] ∧ isAsciiDigit d = true
  supported : p.settings.supports version = true
  read : p.ReadVersion (p.after tools state ops).world.tools.2 name version

end Kept

/-! ## 4. What is kept -/

variable {p : Provider} {tools : Tools τ} {state : τ} {ops : List Operation}

theorem after_append (ops' : List Operation) :
    p.after tools state (ops ++ ops') = (p.after tools state ops).applyAll tools.recorded ops' :=
  applyAll_append ..

theorem provider_after : (p.after tools state ops).provider = p := by
  induction ops using List.reverseRecOn with
  | nil => rfl
  | append_singleton ops o ih =>
    rw [after_append]
    exact (advances_apply tools (s := p.after tools state ops) o).provider.trans ih

/-- One operation more. -/
theorem advances_after (p : Provider) (tools : Tools τ) (state : τ) (ops : List Operation)
    (o : Operation) :
    Advances (p.after tools state ops) (p.after tools state (ops ++ [o])) o := by
  rw [after_append]
  exact advances_apply tools (p.after tools state ops) o

theorem keptVersion {name version : String}
    (h : (p.after tools state ops).caches.get? (.version name) = some version) :
    p.KeptVersion tools state ops name version := by
  induction ops using List.reverseRecOn with
  | nil => exact absurd ((Memo.get?_empty _).symm.trans h) (by simp)
  | append_singleton ops o ih =>
    have hadvances := advances_after p tools state ops o
    rcases hadvances.kept_or_backs h with hkept | ⟨-, hread, hsupported⟩
    · have hold := ih hkept
      exact ⟨hold.chars, hold.supported, hold.read.mono hadvances.log⟩
    · rw [provider_after] at hread hsupported
      obtain ⟨-, output, -, -, -, hversion⟩ := id hread
      exact ⟨chars_of_versionIn? hversion, hsupported, hread⟩

/-- The version and the base context of a first request are kept. -/
example :
    let tools : Tools Unit := ⟨fun _ n => (.ok (.succeeded "Swift version 5.1.2"), n),
      fun _ _ _ n => (.ok [], n)⟩
    let s := (Provider.mk .default ⟨"library.json"⟩).after tools () [.base none .rich]
    s.caches.get? (.version "") = some "5.1" ∧ s.caches.get? (.base .rich "5.1") = some (0 : Nat) :=
  ⟨rfl, rfl⟩

end Provider

end PassContext
