/-
# What backs the values of a provider

What a provider keeps is backed by what the tools said: a version by the output that it was read
from, the SDK path by the output that it is, and a base context by the SDK path in its cache and
by the answer of the loader that it was seeded with.

There is one lemma for each operation.  It goes on as its continuation does with the outcome, in
caches and a world that have grown, and a value that it hands on is in the caches.
-/
import PassContext.Proofs.Memo.Growth
import PassContext.Proofs.Provider.Log

namespace PassContext

/-! ## 1. Answers that give a value -/

/-- A version has three characters, and begins with a digit. -/
theorem chars_of_versionIn? {output version : String} (h : versionIn? output = some version) :
    ∃ d e f, version.toList = [d, e, f] ∧ isAsciiDigit d = true := by
  obtain ⟨chars, hchars, rfl⟩ := Option.map_eq_some_iff.mp h
  rw [String.toList_ofList]
  unfold versionChars? at hchars
  cases hdrop : output.toList.dropWhile (fun c => !isAsciiDigit c) with
  | nil => simp [hdrop] at hchars
  | cons d rest =>
    have hdigit : isAsciiDigit d = true := by
      have hhead := List.head?_dropWhile_not (fun c => !isAsciiDigit c) output.toList
      rw [hdrop] at hhead
      simpa using hhead
    match rest with
    | [] => simp [hdrop] at hchars
    | [_] => simp [hdrop] at hchars
    | e :: f :: rest =>
      simp [hdrop] at hchars
      exact ⟨d, e, f, hchars.symm, hdigit⟩

namespace Settings

variable {s : Settings} {answer : Except Failure Output}

/-- A version comes from the output of a successful run. -/
theorem versionOfAnswer_eq_ok {toolchain : Option String} {version : String}
    (h : s.versionOfAnswer toolchain answer = .ok version) :
    ∃ output, answer = .ok output ∧ output.success = true ∧
      versionIn? output.stdout = some version ∧ s.supports version = true := by
  cases answer with
  | error e => exact absurd h (by simp [versionOfAnswer, bind, Except.bind])
  | ok output =>
    refine ⟨output, rfl, ?_⟩
    by_cases hsuccess : output.success = true
    · cases hversion : versionIn? output.stdout with
      | none =>
        simp [versionOfAnswer, bind, Except.bind, Output.stdoutOf, hsuccess, hversion] at h
      | some v =>
        by_cases hsupports : s.supports v = true
        · simp [versionOfAnswer, bind, Except.bind, Output.stdoutOf, hsuccess, hversion,
            requireSupported, hsupports, pure, Except.pure] at h
          subst h
          exact ⟨hsuccess, rfl, hsupports⟩
        · simp [versionOfAnswer, bind, Except.bind, Output.stdoutOf, hsuccess, hversion,
            requireSupported, hsupports] at h
    · simp [versionOfAnswer, bind, Except.bind, Output.stdoutOf, hsuccess] at h

/-- The SDK path is the output of a successful run, without its line end. -/
theorem sdkPathOfAnswer_eq_ok {path : String} (h : s.sdkPathOfAnswer answer = .ok path) :
    ∃ output, answer = .ok output ∧ output.success = true ∧
      path = stripLineEnd output.stdout := by
  cases answer with
  | error e => exact absurd h (by simp [sdkPathOfAnswer, bind, Except.bind])
  | ok output =>
    refine ⟨output, rfl, ?_⟩
    by_cases hsuccess : output.success = true
    · simp [sdkPathOfAnswer, bind, Except.bind, Output.stdoutOf, hsuccess, pure, Except.pure] at h
      exact ⟨hsuccess, h.symm⟩
    · simp [sdkPathOfAnswer, bind, Except.bind, Output.stdoutOf, hsuccess] at h

end Settings

namespace Provider

variable {τ ρ : Type}

/-! ## 2. What backs a value -/

section Backing

variable (p : Provider)

/-- The SDK path that the cache for it holds. -/
def sdkPath? (m : service.Caches) : Option String := m.get? p.sdkKey

/-- The SDK path that base contexts are built with: the one in the cache, on the platform that has
one. -/
def cachedSdk (m : service.Caches) : Option String :=
  if p.settings.platform = .macOS then p.sdkPath? m else none

/-- A version was read from the output of a successful query for a toolchain of that name. -/
def ReadVersion (log : List Answered) (name version : String) : Prop :=
  ∃ toolchain output, toolchain.getD "" = name ∧
    .ran (p.settings.versionQuery toolchain) (.ok output) ∈ log ∧ output.success = true ∧
    versionIn? output.stdout = some version

/-- A context is one for a mode and a version, with the library and the SDK path as arguments. -/
structure IsBase (m : service.Caches) (mode : SyntaxMode) (version : String) (c : Context) :
    Prop where
  version : c.version = version
  mode : c.options.mode = mode
  arguments : c.options.arguments = ⟨[p.library], [], p.cachedSdk m⟩
  /-- On the platform that has one, there is an SDK path in the cache. -/
  sdk : p.settings.platform = .macOS → ∃ path, p.sdkPath? m = some path

/-- A base context holds the templates of one answer of the loader. -/
def Seeded (m : service.Caches) (w : World (τ × List Answered)) (mode : SyntaxMode)
    (version : String) (id : ContextId) : Prop :=
  ∃ c templates, w.contexts[id]? = some c ∧ p.IsBase m mode version c ∧
    .loaded p.library mode version (.ok templates) ∈ w.tools.2 ∧
    c.templates.toList = templates.reverse

/-- What the tools said backs a value that is new in a cache. -/
def Backs (m : service.Caches) (w : World (τ × List Answered)) : (key : Key) → key.Value → Prop
  | .version name, version =>
    p.ReadVersion w.tools.2 name version ∧ p.settings.supports version = true
  | .sdkPath _, path => ∃ output, .ran p.settings.sdkQuery (.ok output) ∈ w.tools.2 ∧
      output.success = true ∧ path = stripLineEnd output.stdout
  | .base mode version, id => p.Seeded m w mode version id

end Backing

variable {p : Provider} {m m' : service.Caches} {w w' : World (τ × List Answered)}

theorem getElem?_of_prefix {cs cs' : List Context} (h : cs <+: cs') {id : ContextId} {c : Context}
    (hc : cs[id]? = some c) : cs'[id]? = some c := by
  obtain ⟨new, rfl⟩ := h
  obtain ⟨hlt, -⟩ := List.getElem?_eq_some_iff.mp hc
  rw [List.getElem?_append_left hlt, hc]

/-- The SDK path in its cache stays the one that base contexts are built with. -/
theorem IsBase.mono {mode : SyntaxMode} {version : String} {c : Context}
    (h : p.IsBase m mode version c)
    (hkept : ∀ key v, m.get? key = some v → m'.get? key = some v) :
    p.IsBase m' mode version c := by
  have hsdk : ∀ path, p.sdkPath? m = some path → p.sdkPath? m' = some path :=
    fun path hpath => hkept p.sdkKey path hpath
  refine ⟨h.version, h.mode, ?_, fun hplatform => ?_⟩
  · have hcached : p.cachedSdk m' = p.cachedSdk m := by
      unfold cachedSdk
      split
      · rename_i hplatform
        obtain ⟨path, hpath⟩ := h.sdk hplatform
        rw [hpath, hsdk path hpath]
      · rfl
    rw [h.arguments, hcached]
  · obtain ⟨path, hpath⟩ := h.sdk hplatform
    exact ⟨path, hsdk path hpath⟩

theorem ReadVersion.mono {log log' : List Answered} {name version : String}
    (h : p.ReadVersion log name version) (hlog : log <:+ log') :
    p.ReadVersion log' name version := by
  obtain ⟨toolchain, output, hname, hran, hsuccess, hversion⟩ := h
  exact ⟨toolchain, output, hname, hlog.mem hran, hsuccess, hversion⟩

/-- The contexts and the log of the tools go on. -/
structure Later (w w' : World (τ × List Answered)) : Prop where
  contexts : w.contexts <+: w'.contexts
  log : w.tools.2 <:+ w'.tools.2

/-- What backs a value goes on to back it. -/
theorem Backs.mono {key : Key} {v : key.Value} (h : p.Backs m w key v)
    (hkept : ∀ key v, m.get? key = some v → m'.get? key = some v) (hlater : Later w w') :
    p.Backs m' w' key v := by
  cases key with
  | version name => exact ⟨h.1.mono hlater.log, h.2⟩
  | sdkPath kind =>
    obtain ⟨output, hran, hrest⟩ := h
    exact ⟨output, hlater.log.mem hran, hrest⟩
  | base mode version =>
    obtain ⟨c, templates, hc, hbase, hloaded, htemplates⟩ := h
    exact ⟨c, templates, getElem?_of_prefix hlater.contexts hc, hbase.mono hkept,
      hlater.log.mem hloaded, htemplates⟩

/-- The backing of a provider. -/
def backing (p : Provider) (τ : Type) : Backing service (World (τ × List Answered)) where
  Later := Later
  refl _ := ⟨List.prefix_rfl, List.suffix_rfl⟩
  trans h h' := ⟨h.contexts.trans h'.contexts, h.log.trans h'.log⟩
  Backs m w key v := p.Backs m w key v
  mono h hkept hlater := Backs.mono h hkept hlater

/-! ## 3. Computations -/

variable (tools : Tools τ)

/-- A question to the tools is put into the log. -/
theorem later_of_log {x : Answered} (hcontexts : w'.contexts = w.contexts)
    (hlog : w'.tools.2 = x :: w.tools.2) : Later w w' := by
  refine ⟨⟨[], by rw [hcontexts, List.append_nil]⟩, ?_⟩
  rw [hlog]
  exact List.suffix_cons ..

theorem later_of_startRun {base id : ContextId} {options : Options}
    (h : World.respond tools.recorded (.startRun base options) w = (id, w')) : Later w w' := by
  simp only [World.respond] at h
  split at h
  · obtain rfl := (Prod.mk.inj h).2
    exact ⟨List.prefix_append .., List.suffix_rfl⟩
  · obtain rfl := (Prod.mk.inj h).2
    exact ⟨List.prefix_rfl, List.suffix_rfl⟩

theorem yields_versionJob (toolchain : Option String)
    (hnone : m.get? (versionKey toolchain) = none) :
    Yields (p.backing τ) (versionKey toolchain) (m, w)
      ((p.versionJob toolchain).run (World.respond tools.recorded) (m, w)) := by
  refine ⟨.of_later (later_of_log rfl rfl), hnone, fun v hv => ?_⟩
  obtain ⟨output, hanswer, hsuccess, hversion, hsupports⟩ := Settings.versionOfAnswer_eq_ok hv
  refine ⟨⟨toolchain, output, rfl, ?_, hsuccess, hversion⟩, hsupports⟩
  rw [← hanswer]
  exact List.mem_cons_self

theorem yields_sdkJob (hnone : m.get? p.sdkKey = none) :
    Yields (p.backing τ) p.sdkKey (m, w) (p.sdkJob.run (World.respond tools.recorded) (m, w)) := by
  refine ⟨.of_later (later_of_log rfl rfl), hnone, fun v hv => ?_⟩
  obtain ⟨output, hanswer, hsuccess, hpath⟩ := Settings.sdkPathOfAnswer_eq_ok hv
  refine ⟨output, ?_, hsuccess, hpath⟩
  rw [← hanswer]
  exact List.mem_cons_self

/-- A base context is seeded with one answer of the loader, and built with the SDK path in its
cache. -/
theorem yields_seedJob (toolchain : Option String) {mode : SyntaxMode} {version : String}
    (outcome : Except Failure (Option String)) (hnone : m.get? (.base mode version) = none)
    (hcached : ∀ path, outcome = .ok path → p.cachedSdk m = path)
    (hsdk : ∀ path, outcome = .ok path → p.settings.platform = .macOS →
      ∃ path', p.sdkPath? m = some path') :
    Yields (p.backing τ) (.base mode version) (m, w)
      ((p.seedJob toolchain mode version outcome).run (World.respond tools.recorded) (m, w)) := by
  cases outcome with
  | error e => exact ⟨.refl _ _, hnone, fun v hv => absurd hv (by simp [seedJob, Job.run])⟩
  | ok path =>
    rcases hload : tools.load p.library mode version w.tools.1 with ⟨answer, state⟩
    cases answer with
    | error e =>
      simp only [seedJob, Job.run, World.respond, Tools.recorded, hload]
      exact ⟨.of_later (later_of_log rfl rfl), hnone, fun v hv => absurd hv (by simp)⟩
    | ok templates =>
      simp only [seedJob, Job.run, World.respond, Tools.recorded, hload, World.keep]
      refine ⟨.of_later ⟨List.prefix_append .., List.suffix_cons ..⟩, hnone, fun id hid => ?_⟩
      obtain rfl : w.contexts.length = id := Except.ok.inj hid
      refine ⟨p.baseContext toolchain mode version path templates, templates, ?_, ⟨rfl, rfl, ?_,
        hsdk path rfl⟩, List.mem_cons_self, ?_⟩
      · simp
      · rw [hcached path rfl]
        rfl
      · simp [baseContext, Context.start]

/-- While the SDK path is fetched, the slots of other keys stay as they are. -/
theorem fetches_sdkKey (m : service.Caches) (w : World (τ × List Answered)) (key : Key)
    (h : key ≠ p.sdkKey) : ∃ outcome m' w',
      Memo.fetch (V := service.Value) p.sdkKey (p.sdkJob.run (World.respond tools.recorded))
        (m, w) = (outcome, (m', w')) ∧
      Fetches (p.backing τ) p.sdkKey (m, w) (outcome, (m', w')) ∧
      m'.get? key = m.get? key :=
  ⟨_, _, _, rfl, fetches_of_yields m fun _ hnone => yields_sdkJob tools hnone,
    Memo.get?_fetch_of_ne h rfl⟩

theorem yields_baseJob (toolchain : Option String) {mode : SyntaxMode} {version : String}
    (hnone : m.get? (.base mode version) = none) :
    Yields (p.backing τ) (.base mode version) (m, w)
      ((p.baseJob toolchain mode version).run (World.respond tools.recorded) (m, w)) := by
  unfold baseJob
  split
  · rename_i hplatform
    obtain ⟨outcome, m', w', hrun, hfetches, hvacant⟩ :=
      fetches_sdkKey (p := p) tools m w (.base mode version) (by simp [sdkKey])
    rw [hnone] at hvacant
    have hheld : ∀ path, outcome.map some = .ok path →
        ∃ path', p.sdkPath? m' = some path' ∧ path = some path' := by
      intro path hpath
      cases outcome with
      | error e => exact absurd hpath (by simp [Except.map])
      | ok path' => exact ⟨path', hfetches.held path' rfl, (Except.ok.inj hpath).symm⟩
    have hseed := yields_seedJob (w := w') tools toolchain (outcome.map some) hvacant
      (fun path hpath => by
        obtain ⟨path', hpath', rfl⟩ := hheld path hpath
        rw [cachedSdk, if_pos hplatform, hpath'])
      fun path hpath _ => by
        obtain ⟨path', hpath', -⟩ := hheld path hpath
        exact ⟨path', hpath'⟩
    simp only [Job.run, hrun]
    exact hseed.of_grows hfetches.grows
  · rename_i hplatform
    refine yields_seedJob tools toolchain (.ok none) hnone (fun path hpath => ?_) fun _ _ h => ?_
    · rw [cachedSdk, if_neg hplatform]
      exact Except.ok.inj hpath
    · exact absurd h hplatform

/-! ## 4. Operations -/

variable {next : Except Failure ContextId → Program service ρ}
variable (s : service.Caches × World (τ × List Answered))

/-- The version that is handed on is the one in the cache for the name of the toolchain. -/
theorem goesOn_version (toolchain : Option String)
    {next : Except Failure String → Program service ρ} :
    GoesOn (p.backing τ) (World.respond tools.recorded) (p.version toolchain next) next
      (fun outcome s' => ∀ v, outcome = .ok v → s'.1.get? (versionKey toolchain) = some v) s := by
  obtain ⟨m, w⟩ := s
  cases hfound : m.get? (versionKey toolchain) with
  | none =>
    refine .of_run_eq ?_ (goesOn_fetch m fun m h => yields_versionJob tools toolchain h)
    simp only [version, Program.run, hfound]
  | some version =>
    refine .of_run_eq ?_ (.here (.ok version) fun v hv => ?_)
    · simp only [Provider.version, Program.run, hfound]
    · rw [← Except.ok.inj hv]
      exact hfound

theorem goesOn_sdkPath {next : Except Failure (Option String) → Program service ρ} :
    GoesOn (p.backing τ) (World.respond tools.recorded) (p.sdkPath next) next
      (fun _ _ => True) s := by
  obtain ⟨m, w⟩ := s
  unfold sdkPath
  split
  · refine (goesOn_fetch m fun m h => yields_sdkJob tools h).bind fun outcome s' _ _ => ?_
    exact .here _ trivial
  · exact .here _ trivial

/-- The base context that is handed on is the one in the cache for the version of the
toolchain. -/
theorem goesOn_base (toolchain : Option String) (mode : SyntaxMode) :
    GoesOn (p.backing τ) (World.respond tools.recorded) (p.base toolchain mode next) next
      (fun outcome s' => ∀ id, outcome = .ok id → ∃ version,
        s'.1.get? (versionKey toolchain) = some version ∧
        s'.1.get? (.base mode version) = some id) s := by
  refine (goesOn_version tools s toolchain).bind fun outcome s' _ hversion => ?_
  cases outcome with
  | error e => exact .here _ fun id hid => absurd hid (by simp)
  | ok version =>
    obtain ⟨m, w⟩ := s'
    refine (goesOn_fetch m fun m h => yields_baseJob tools toolchain h).imp
      fun outcome s'' hgrows hheld id hid => ?_
    exact ⟨version, hgrows.kept (versionKey toolchain) version (hversion version rfl), hheld id hid⟩

/-- A run is started from the base context in the cache, and nothing else happens then. -/
theorem goesOn_init (options : Options) :
    GoesOn (p.backing τ) (World.respond tools.recorded) (p.init options next) next
      (fun outcome s' => ∀ id, outcome = .ok id → ∃ version base w,
        s'.1.get? (versionKey options.toolchain) = some version ∧
        s'.1.get? (.base options.mode version) = some base ∧ Grows (p.backing τ) s (s'.1, w) ∧
        World.respond tools.recorded (.startRun base options) w = (id, s'.2)) s := by
  refine (goesOn_base tools s options.toolchain options.mode).bind fun outcome s' hgrows hbase => ?_
  cases outcome with
  | error e => exact .here _ fun id hid => absurd hid (by simp)
  | ok base =>
    obtain ⟨m, w⟩ := s'
    obtain ⟨version, hversion, hheld⟩ := hbase base rfl
    rcases hstart : World.respond tools.recorded (.startRun base options) w with ⟨id, w'⟩
    refine ⟨.ok id, (m, w'), ?_, .of_later (later_of_startRun tools hstart), fun id' hid' => ?_⟩
    · simp only [Program.run, hstart]
    · obtain rfl : id = id' := Except.ok.inj hid'
      exact ⟨version, base, w, hversion, hheld, hgrows, hstart⟩

/-- How many base contexts there are is only read off. -/
theorem goesOn_baseCount {next : Nat → Program service ρ} :
    GoesOn (p.backing τ) (World.respond tools.recorded) (baseCount next) next
      (fun _ _ => True) s :=
  .of_run_eq rfl (.here _ trivial)

end Provider

end PassContext
