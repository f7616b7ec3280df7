/-
# The parts of a call

A provider takes a call apart by itself: it looks for a version, fetches it if there is none, and
fetches a base context, inside whose computation it fetches the SDK path.  For each of these parts
it is said which of the stages it takes, what it asks, and what is new in the caches behind it
(`Went`).  A part that goes well is followed by another one, and the two together go like one part
(`Went.append`); behind a failure nothing follows.
-/
import PassContext.Proofs.Provider.Backing
import PassContext.Proofs.Provider.Stages

namespace PassContext

namespace Provider

/-! ## 1. Parts -/

section Went

variable {τ : Type} (p : Provider) (toolchain : Option String) (mode : SyntaxMode)

/-- The keys that a call may need the values of. -/
def NeededBy : Key → Prop
  | .version name => name = toolchain.getD ""
  | .sdkPath kind => kind = p.settings.sdk
  | .base mode' _ => mode' = mode

/-- How a part of a call went: its questions are in the log, its stages took their course, and a
value is new in the caches only if the call needs it and all stages that lead to it succeeded. -/
structure Went (due : List Stage) (a : Answers)
    (s s' : service.Caches × World (τ × List Answered)) (r : Option Failure) : Prop where
  log : s'.2.tools.2 = (a.entries p toolchain mode).reverse ++ s.2.tools.2
  course : Course (a.verdict? p.settings toolchain) due r
  caches : ∀ key, s'.1.get? key = s.1.get? key ∨ s.1.get? key = none ∧
    p.NeededBy toolchain mode key ∧
    ∀ st ∈ key.stages, a.verdict? p.settings toolchain st = some (.ok ())

/-- The stages that lead to the value of a key, if it is not in the caches. -/
def missing (m : service.Caches) (key : Key) : List Stage :=
  if (m.get? key).isSome then [] else key.stages

theorem missing_sublist (m : service.Caches) (key : Key) : (missing m key).Sublist key.stages := by
  unfold missing
  split
  · exact List.nil_sublist _
  · exact List.Sublist.refl _

end Went

variable {τ ρ : Type} {p : Provider} {toolchain : Option String} {mode : SyntaxMode}
variable {due due' : List Stage} {a b : Answers} {r : Option Failure}
variable {s s₁ s₂ : service.Caches × World (τ × List Answered)}

/-- Nothing more is asked, and nothing more changes in the caches. -/
theorem Went.silent (h : Went p toolchain mode due a s s₁ r) (hlog : s₂.2.tools.2 = s₁.2.tools.2)
    (hcaches : s₂.1 = s₁.1) : Went p toolchain mode due a s s₂ r where
  log := hlog.trans h.log
  course := h.course
  caches key := by
    rw [hcaches]
    exact h.caches key

theorem Went.refl (s : service.Caches × World (τ × List Answered)) :
    Went p toolchain mode [] ⟨none, none, none⟩ s s none where
  log := rfl
  course := .passed (by simp) fun st _ => by cases st <;> rfl
  caches _ := .inl rfl

/-- A part that goes well is followed by another one. -/
theorem Went.append (h : Went p toolchain mode due a s s₁ none)
    (h' : Went p toolchain mode due' b s₁ s₂ r) (hbefore : a.Before b)
    (hdisjoint : ∀ st ∈ due', st ∉ due) :
    Went p toolchain mode (due ++ due') (a.and b) s s₂ r where
  log := by rw [h'.log, h.log, Answers.entries_and hbefore, List.reverse_append, List.append_assoc]
  course := h.course.append h'.course (Answers.verdict?_and hbefore _ _) hdisjoint
  caches key := by
    have hfirst : ∀ st, a.verdict? p.settings toolchain st = some (.ok ()) →
        (a.and b).verdict? p.settings toolchain st = some (.ok ()) := fun st hst => by
      rw [Answers.verdict?_and hbefore, hst, Option.some_or]
    have hsecond : ∀ st, b.verdict? p.settings toolchain st = some (.ok ()) →
        (a.and b).verdict? p.settings toolchain st = some (.ok ()) := fun st hst => by
      rw [Answers.verdict?_and hbefore]
      rcases h.course.eq_none_or_ok st with hnone | hok
      · rw [hnone, Option.none_or, hst]
      · rw [hok, Option.some_or]
    rcases h.caches key with hkey | ⟨hnone, hneeded, hstages⟩
    · rw [← hkey]
      rcases h'.caches key with hkey' | ⟨hnone, hneeded, hstages⟩
      · exact .inl hkey'
      · exact .inr ⟨hnone, hneeded, fun st hst => hsecond st (hstages st hst)⟩
    · exact .inr ⟨hnone, hneeded, fun st hst => hfirst st (hstages st hst)⟩

/-- Behind a failure no other stage is run. -/
theorem Went.append_of_failed {e : Failure} (h : Went p toolchain mode due a s s₁ (some e))
    (due' : List Stage) : Went p toolchain mode (due ++ due') a s s₁ (some e) :=
  ⟨h.log, h.course.append_of_failed due', h.caches⟩

/-- A fetch goes as its computation does, and what that gives is the value of the key. -/
theorem Went.fetched {key : Key} {outcome : Except Failure key.Value} {m m' m'' : service.Caches}
    {w w' : World (τ × List Answered)}
    (h : Went p toolchain mode due a (m.reserve key, w) (m', w') (failure? outcome))
    (hnone : m.get? key = none) (hneeded : p.NeededBy toolchain mode key)
    (hstages : ∀ st ∈ key.stages, st ∈ due) (hvalue : m''.get? key = outcome.toOption)
    (hother : ∀ key' ≠ key, m''.get? key' = m'.get? key') :
    Went p toolchain mode due a (m, w) (m'', w') (failure? outcome) where
  log := h.log
  course := h.course
  caches key' := by
    by_cases hne : key' = key
    · subst hne
      have hcourse := h.course
      cases outcome with
      | ok v =>
        cases hcourse with
        | passed hrun => exact .inr ⟨hnone, hneeded, fun st hst => hrun st (hstages st hst)⟩
      | error e => exact .inl (hvalue.trans hnone.symm)
    · have hkept := h.caches key'
      have hreserve : (m.reserve key).get? key' = m.get? key' := Memo.get?_reserve m key key'
      rw [← hother key' hne, hreserve] at hkept
      exact hkept

/-! ## 2. Fetching -/

variable (tools : Tools τ)

variable (p toolchain mode) in
/-- Fetching a value that is read off the answer to one query. -/
theorem went_query (key : Key) (c : Command)
    (f : Except Failure Output → Except Failure key.Value)
    (answered : Option (Except Failure Output) → Answers)
    (hentries : ∀ x, (answered x).entries p toolchain mode = (x.map (.ran c)).toList)
    (hcourse : ∀ answer, Course ((answered (some answer)).verdict? p.settings toolchain) key.stages
      (failure? (f answer)))
    (hnone : ∀ st, (answered none).verdict? p.settings toolchain st = none)
    (hneeded : p.NeededBy toolchain mode key) (m : service.Caches)
    (w : World (τ × List Answered)) :
    ∃ x outcome s', Memo.fetch (V := service.Value) key
        (Job.run (World.respond tools.recorded) (.ask (.run c) fun answer => .finish (f answer)))
        (m, w) = (outcome, s') ∧
      Went p toolchain mode (missing m key) (answered x) (m, w) s' (failure? outcome) ∧
      s'.2.contexts = w.contexts ∧ s'.1.get? key = outcome.toOption ∧
      ∀ key' ≠ key, s'.1.get? key' = m.get? key' := by
  cases hkey : m.get? key with
  | some v =>
    refine ⟨none, .ok v, (m, w), Memo.fetch_of_some hkey, ⟨?_, ?_, fun _ => .inl rfl⟩, rfl, hkey,
      fun _ _ => rfl⟩
    · rw [hentries]
      rfl
    · rw [missing, hkey]
      exact .passed (by simp) fun st _ => hnone st
  | none =>
    have hreserve := Memo.get?_reserve m key
    rcases htools : tools.run c w.tools.1 with ⟨answer, state⟩
    have hrun : Job.run (World.respond tools.recorded)
        (.ask (.run c) fun answer => .finish (f answer) : Job service key) (m.reserve key, w) =
        (f answer, (m.reserve key, { w with tools := (state, .ran c answer :: w.tools.2) })) := by
      simp only [Job.run, World.respond, Tools.recorded, htools]
      rfl
    obtain ⟨m', hfetch, hvalue, hother⟩ :=
      Memo.exists_fetch_eq hkey hrun ((hreserve key).trans hkey)
    have hwent : Went p toolchain mode key.stages (answered (some answer)) (m.reserve key, w)
        (m.reserve key, { w with tools := (state, .ran c answer :: w.tools.2) })
        (failure? (f answer)) := by
      refine ⟨?_, hcourse answer, fun _ => .inl rfl⟩
      rw [hentries]
      rfl
    refine ⟨some answer, _, _, hfetch, ?_, rfl, hvalue, fun key' hne =>
      (hother key' hne).trans (hreserve key')⟩
    rw [missing, hkey]
    exact hwent.fetched hkey hneeded (fun _ hst => hst) hvalue hother

/-- The version of a toolchain. -/
theorem went_version (toolchain : Option String) (mode : SyntaxMode) (m : service.Caches)
    (w : World (τ × List Answered)) :
    ∃ x outcome s', (∀ next : Except Failure String → Program service ρ,
        (p.version toolchain next).run (World.respond tools.recorded) (m, w) =
          (next outcome).run (World.respond tools.recorded) s') ∧
      Went p toolchain mode (missing m (versionKey toolchain)) ⟨x, none, none⟩ (m, w) s'
        (failure? outcome) ∧
      s'.2.contexts = w.contexts ∧ s'.1.get? (versionKey toolchain) = outcome.toOption ∧
      ∀ key' ≠ versionKey toolchain, s'.1.get? key' = m.get? key' := by
  obtain ⟨x, outcome, s', hfetch, hwent⟩ := went_query p toolchain mode tools
    (versionKey toolchain) (p.settings.versionQuery toolchain)
    (p.settings.versionOfAnswer toolchain) (fun x => ⟨x, none, none⟩)
    (fun x => by simp [Answers.entries]) (course_version p.settings toolchain)
    (fun st => by cases st <;> rfl) rfl m w
  refine ⟨x, outcome, s', fun next => ?_, hwent⟩
  cases hfound : m.get? (versionKey toolchain) with
  | none =>
    simp only [version, Program.run, hfound, versionJob]
    rw [hfetch]
  | some v =>
    rw [Memo.fetch_of_some hfound] at hfetch
    obtain ⟨rfl, rfl⟩ := Prod.mk.inj hfetch
    simp only [version, Program.run, hfound]
    rfl

/-- The stage for the SDK path, on the platform that has one. -/
def sdkDue (p : Provider) (m : service.Caches) : List Stage :=
  if p.settings.platform = .macOS then missing m p.sdkKey else []

/-- The stages for the base context of a version that was found. -/
def baseDue (p : Provider) (m : service.Caches) (mode : SyntaxMode) : Option String → List Stage
  | none => []
  | some version =>
    if (m.get? (.base mode version)).isSome then [] else sdkDue p m ++ [.library]

/-- The stages for the base context for a toolchain, whose version is in the caches behind the call
if it was found. -/
def baseCallDue (p : Provider) (m m' : service.Caches) (toolchain : Option String)
    (mode : SyntaxMode) : List Stage :=
  missing m (versionKey toolchain) ++ baseDue p m mode (m'.get? (versionKey toolchain))

theorem sdkDue_congr {m m' : service.Caches} (h : m'.get? p.sdkKey = m.get? p.sdkKey) :
    sdkDue p m' = sdkDue p m := by
  unfold sdkDue missing
  rw [h]

theorem sdkDue_sublist (p : Provider) (m : service.Caches) : (sdkDue p m).Sublist [.sdk] := by
  unfold sdkDue
  split
  · exact missing_sublist m p.sdkKey
  · exact List.nil_sublist _

theorem baseDue_sublist (p : Provider) (m : service.Caches) (mode : SyntaxMode)
    (found : Option String) : (baseDue p m mode found).Sublist [.sdk, .library] := by
  cases found with
  | none => exact List.nil_sublist _
  | some version =>
    by_cases hheld : (m.get? (.base mode version)).isSome
    · rw [baseDue, if_pos hheld]
      exact List.nil_sublist _
    · rw [baseDue, if_neg hheld]
      exact (sdkDue_sublist p m).append_right [.library]

theorem went_sdk (toolchain : Option String) (mode : SyntaxMode) (m : service.Caches)
    (w : World (τ × List Answered)) :
    ∃ x outcome s', Memo.fetch (V := service.Value) p.sdkKey
        (p.sdkJob.run (World.respond tools.recorded)) (m, w) = (outcome, s') ∧
      Went p toolchain mode (missing m p.sdkKey) ⟨none, x, none⟩ (m, w) s' (failure? outcome) ∧
      s'.2.contexts = w.contexts ∧ s'.1.get? p.sdkKey = outcome.toOption ∧
      ∀ key' ≠ p.sdkKey, s'.1.get? key' = m.get? key' :=
  went_query p toolchain mode tools p.sdkKey p.settings.sdkQuery p.settings.sdkPathOfAnswer
    (fun x => ⟨none, x, none⟩) (fun x => by simp [Answers.entries])
    (course_sdk p.settings toolchain) (fun st => by cases st <;> rfl) rfl m w

/-- The library is loaded, and a base context is kept if it is there. -/
theorem went_seed (toolchain : Option String) (mode : SyntaxMode) (version : String)
    (sdkPath : Option String) (m : service.Caches) (w : World (τ × List Answered)) :
    ∃ answer outcome w', (p.seedJob toolchain mode version (.ok sdkPath)).run
        (World.respond tools.recorded) (m, w) = (outcome, (m, w')) ∧
      Went p toolchain mode [.library] ⟨none, none, some (version, answer)⟩ (m, w) (m, w')
        (failure? outcome) ∧
      ∀ e, outcome = .error e → w'.contexts = w.contexts := by
  have hcourse := course_library p.settings toolchain version
  rcases hload : tools.load p.library mode version w.tools.1 with ⟨answer, state⟩
  cases answer with
  | error e =>
    refine ⟨.error e, .error e, { w with tools := (state, _) }, ?_,
      ⟨rfl, hcourse (.error e), fun _ => .inl rfl⟩, fun _ _ => rfl⟩
    simp only [seedJob, Job.run, World.respond, Tools.recorded, hload]
    rfl
  | ok templates =>
    refine ⟨.ok templates, .ok w.contexts.length,
      ⟨w.contexts ++ [p.baseContext toolchain mode version sdkPath templates], (state, _)⟩, ?_,
      ⟨rfl, hcourse (.ok templates), fun _ => .inl rfl⟩, fun e he => absurd he (by simp)⟩
    simp only [seedJob, Job.run, World.respond, Tools.recorded, hload, World.keep]
    rfl

/-- The SDK path, then the library. -/
theorem went_baseJob (toolchain : Option String) (mode : SyntaxMode) (version : String)
    (m : service.Caches) (w : World (τ × List Answered)) :
    ∃ x y outcome s', (p.baseJob toolchain mode version).run (World.respond tools.recorded) (m, w) =
        (outcome, s') ∧
      Went p toolchain mode (sdkDue p m ++ [.library]) ⟨none, x, y⟩ (m, w) s' (failure? outcome) ∧
      (∀ e, outcome = .error e → s'.2.contexts = w.contexts) ∧
      ∀ key ≠ p.sdkKey, s'.1.get? key = m.get? key := by
  unfold baseJob sdkDue
  split
  · obtain ⟨x, outcome, ⟨m', w'⟩, hfetch, hwent, hcontexts, -, hother⟩ :=
      went_sdk (p := p) tools toolchain mode m w
    simp only [Job.run, hfetch]
    cases outcome with
    | error e =>
      exact ⟨x, none, .error e, (m', w'), rfl, hwent.append_of_failed _, fun _ _ => hcontexts,
        hother⟩
    | ok path =>
      obtain ⟨answer, outcome, w'', hrun, hseed, hcontexts'⟩ :=
        went_seed (p := p) tools toolchain mode version (some path) m' w'
      refine ⟨x, some (version, answer), outcome, (m', w''), hrun, ?_, fun e he =>
        (hcontexts' e he).trans hcontexts, hother⟩
      have hdisjoint : ∀ st ∈ [Stage.library], st ∉ missing m p.sdkKey := by
        intro st hst hmissing
        have hsdk := (missing_sublist m p.sdkKey).mem hmissing
        rw [List.mem_singleton.mp hst] at hsdk
        exact absurd hsdk (by simp [sdkKey, Key.stages])
      have hand : Answers.and ⟨none, x, none⟩ ⟨none, none, some (version, answer)⟩ =
          ⟨none, x, some (version, answer)⟩ := by simp [Answers.and]
      rw [← hand]
      exact hwent.append hseed ⟨rfl, .inr rfl, rfl⟩ hdisjoint
  · obtain ⟨answer, outcome, w', hrun, hseed, hcontexts⟩ :=
      went_seed (p := p) tools toolchain mode version none m w
    exact ⟨none, some (version, answer), outcome, (m, w'), hrun, hseed, hcontexts, fun _ _ => rfl⟩

/-- The base context for a version. -/
theorem went_baseFetch (toolchain : Option String) (mode : SyntaxMode) (version : String)
    (m : service.Caches) (w : World (τ × List Answered)) :
    ∃ x y outcome s', Memo.fetch (V := service.Value) (.base mode version)
        ((p.baseJob toolchain mode version).run (World.respond tools.recorded)) (m, w) =
        (outcome, s') ∧
      Went p toolchain mode (baseDue p m mode (some version)) ⟨none, x, y⟩ (m, w) s'
        (failure? outcome) ∧
      (∀ e, outcome = .error e → s'.2.contexts = w.contexts) ∧
      ∀ name, s'.1.get? (.version name) = m.get? (.version name) := by
  cases hkey : m.get? (.base mode version) with
  | some id =>
    refine ⟨none, none, .ok id, (m, w), Memo.fetch_of_some hkey, ?_, fun _ _ => rfl, fun _ => rfl⟩
    have hdue : baseDue p m mode (some version) = [] := by simp [baseDue, hkey]
    rw [hdue]
    exact .refl _
  | none =>
    have hreserve := Memo.get?_reserve m (.base mode version)
    obtain ⟨x, y, outcome, ⟨m', w'⟩, hrun, hwent, hcontexts, hother⟩ :=
      went_baseJob (p := p) tools toolchain mode version (m.reserve (.base mode version)) w
    -- The computation fetches the SDK path only, so its own key still has no value when it ends.
    obtain ⟨m'', hfetch, hvalue, hother'⟩ := Memo.exists_fetch_eq hkey hrun
      ((hother _ (by simp [sdkKey])).trans ((hreserve _).trans hkey))
    have hdue : baseDue p m mode (some version) =
        sdkDue p (m.reserve (.base mode version)) ++ [.library] := by
      rw [sdkDue_congr (hreserve p.sdkKey)]
      simp [baseDue, hkey]
    refine ⟨x, y, outcome, (m'', w'), hfetch, ?_, hcontexts, fun name => ?_⟩
    · rw [hdue]
      exact hwent.fetched hkey rfl (by simp [Key.stages]) hvalue hother'
    · have hbase : Key.version name ≠ .base mode version := Key.noConfusion
      have hsdk : Key.version name ≠ p.sdkKey := Key.noConfusion
      exact (hother' _ hbase).trans ((hother _ hsdk).trans (hreserve _))

/-! ## 3. The parts of calls -/

/-- The SDK path, on the platform that has one. -/
theorem went_sdkPath (toolchain : Option String) (mode : SyntaxMode) (m : service.Caches)
    (w : World (τ × List Answered)) :
    ∃ x outcome s', (∀ next : Except Failure (Option String) → Program service ρ,
        (p.sdkPath next).run (World.respond tools.recorded) (m, w) =
          (next outcome).run (World.respond tools.recorded) s') ∧
      Went p toolchain mode (sdkDue p m) ⟨none, x, none⟩ (m, w) s' (failure? outcome) ∧
      s'.2.contexts = w.contexts := by
  unfold sdkPath sdkDue
  split
  · obtain ⟨x, outcome, s', hfetch, hwent, hcontexts, -⟩ :=
      went_sdk (p := p) tools toolchain mode m w
    refine ⟨x, outcome.map some, s', fun next => ?_, ?_, hcontexts⟩
    · simp only [Program.run, hfetch]
    · cases outcome <;> exact hwent
  · exact ⟨none, .ok none, (m, w), fun _ => rfl, .refl _, rfl⟩

/-- The base context for the version of a toolchain. -/
theorem went_base (toolchain : Option String) (mode : SyntaxMode) (m : service.Caches)
    (w : World (τ × List Answered)) :
    ∃ a outcome s', (∀ next : Except Failure ContextId → Program service ρ,
        (p.base toolchain mode next).run (World.respond tools.recorded) (m, w) =
          (next outcome).run (World.respond tools.recorded) s') ∧
      Went p toolchain mode (baseCallDue p m s'.1 toolchain mode) a (m, w) s'
        (failure? outcome) ∧
      ∀ e, outcome = .error e → s'.2.contexts = w.contexts := by
  obtain ⟨x, outcome, ⟨m', w'⟩, hrun, hwent, hcontexts, hvalue, hother⟩ :=
    went_version (p := p) (ρ := ρ) tools toolchain mode m w
  cases outcome with
  | error e =>
    exact ⟨⟨x, none, none⟩, .error e, (m', w'), fun _ => hrun _, hwent.append_of_failed _,
      fun _ _ => hcontexts⟩
  | ok version =>
    obtain ⟨y, z, outcome, ⟨m'', w''⟩, hfetch, hbase, hcontexts', hversions⟩ :=
      went_baseFetch (p := p) tools toolchain mode version m' w'
    have hfound : m''.get? (versionKey toolchain) = some version :=
      (hversions _).trans hvalue
    -- The stages are told from the caches before the call; looking for a version changes none
    -- of what they depend on.
    have hdue : baseDue p m' mode (some version) = baseDue p m mode (some version) := by
      have hsdk := sdkDue_congr (p := p) (hother p.sdkKey (by simp [sdkKey, versionKey]))
      have hkey : m'.get? (.base mode version) = m.get? (.base mode version) :=
        hother _ (by simp [versionKey])
      simp only [baseDue, hkey, hsdk]
    refine ⟨.and ⟨x, none, none⟩ ⟨none, y, z⟩, outcome, (m'', w''), fun next => ?_, ?_,
      fun e he => (hcontexts' e he).trans hcontexts⟩
    · refine (hrun _).trans ?_
      simp only [Program.run, hfetch]
    · rw [baseCallDue, hfound, ← hdue]
      refine hwent.append hbase ⟨rfl, .inl rfl, rfl⟩ fun st hst hmissing => ?_
      have hlate := (baseDue_sublist p m' mode (some version)).mem hst
      have hearly := (missing_sublist m (versionKey toolchain)).mem hmissing
      cases st <;> simp_all [versionKey, Key.stages]

end Provider

end PassContext
