/-
# Sessions with a provider

A session is a provider with what its caches hold, the contexts that were handed out, and the
state of the tools behind it.  The tools run the queries of the toolchain and load libraries; they
may answer differently each time.

A base context is one object that all its holders share: what one of them registers in it, the
others see, and runs that start later start with its templates.
-/
import PassContext.Provider.Programs

namespace PassContext

/-- What runs queries and loads libraries, with a state of its own. -/
structure Tools (τ : Type) where
  run : Command → τ → Except Failure Output × τ
  load : Path → SyntaxMode → String → τ → Except Failure (List Template) × τ

/-- The contexts that were handed out, by their numbers, and the state of the tools. -/
structure World (τ : Type) where
  contexts : List Context
  tools : τ

namespace World

variable {τ : Type}

/-- Keeps a context under the next number. -/
def keep (w : World τ) (c : Context) : ContextId × World τ :=
  (w.contexts.length, { w with contexts := w.contexts ++ [c] })

/-- The answers to the questions of a provider. -/
def respond (tools : Tools τ) : Provider.service.Respond (World τ) := fun q w =>
  match q with
  | .run c =>
    let (answer, state) := tools.run c w.tools
    (answer, { w with tools := state })
  | .load library mode version =>
    let (answer, state) := tools.load library mode version w.tools
    (answer, { w with tools := state })
  | .keep c => w.keep c
  | .startRun base options =>
    match w.contexts[base]? with
    | some b => w.keep (.start options b.version b.templates)
    | none => (base, w)

end World

/-- A provider in use. -/
structure Session (τ : Type) where
  provider : Provider
  caches : Provider.service.Caches
  world : World τ

namespace Session

variable {τ ρ : Type}

/-- A provider that has not been used. -/
def start (provider : Provider) (tools : τ) : Session τ := ⟨provider, .empty, [], tools⟩

/-- Runs a program of the provider. -/
def perform (tools : Tools τ) (s : Session τ) (program : Program Provider.service ρ) :
    ρ × Session τ :=
  let (r, (caches, world)) := program.run (World.respond tools) (s.caches, s.world)
  (r, { s with caches := caches, world := world })

/-- The context with a number. -/
def context? (s : Session τ) (id : ContextId) : Option Context := s.world.contexts[id]?

/-- Registers something in a context. -/
def update (s : Session τ) (id : ContextId) (u : Update) : Session τ :=
  { s with world := { s.world with contexts := s.world.contexts.modify id (·.apply u) } }

/-! ## 1. Operations -/

/-- What can be done with a provider and with the contexts that it handed out. -/
inductive Operation
  | version (toolchain : Option String)
  | sdkPath
  | arguments
  | base (toolchain : Option String) (mode : SyntaxMode)
  | init (options : Options)
  | baseCount
  | update (id : ContextId) (u : Update)

/-- What an operation gives when it succeeds. -/
inductive Result
  | text (s : String)
  | optionalText (s : Option String)
  | arguments (a : Arguments)
  | context (id : ContextId)
  | number (n : Nat)
  | done

/-- The program of an operation, if it is one of the provider. -/
def Operation.program? (p : Provider) :
    Operation → Option (Program Provider.service (Except Failure Result))
  | .version toolchain => some (p.version toolchain fun r => .result (r.map .text))
  | .sdkPath => some (p.sdkPath fun r => .result (r.map .optionalText))
  | .arguments =>
    some (p.sdkPath fun r => .result (r.map fun path => .arguments (p.baseArguments path)))
  | .base toolchain mode => some (p.base toolchain mode fun r => .result (r.map .context))
  | .init options => some (p.init options fun r => .result (r.map .context))
  | .baseCount => some (Provider.baseCount fun n => .result (.ok (.number n)))
  | .update .. => none

/-- What an operation gives, and the session behind it. -/
def apply (tools : Tools τ) (s : Session τ) (o : Operation) : Except Failure Result × Session τ :=
  match o.program? s.provider, o with
  | some program, _ => s.perform tools program
  | none, .update id u => (.ok .done, s.update id u)
  | none, _ => (.ok .done, s)

/-! ## 2. Requests at the same time -/

/-- What became of requests for a base context that were made at the same time. -/
structure BaseRace where
  succeeded : List ContextId
  failed : Nat

/-- The most steps that a request for a base context takes. -/
def stepsPerRequest : Nat := 40

/-- Lets so many threads ask for a base context at the same time. -/
def raceForBase (tools : Tools τ) (s : Session τ) (threads : Nat) (toolchain : Option String)
    (mode : SyntaxMode) : BaseRace × Session τ :=
  let program := s.provider.base toolchain mode Program.result
  let started := Machine.State.start s.caches (List.replicate threads program) s.world
  let ended := started.rounds (World.respond tools) (stepsPerRequest * (threads + 1))
  let results := ended.results
  (⟨results.filterMap Except.toOption, (results.filter fun r => !r.toBool).length⟩,
    { s with caches := ended.caches, world := ended.world })

/-! ## 3. Sessions as they are shown -/

variable (s : Session τ)

/-- How many slots a cache has. -/
def slotCount (cache : Provider.Cache) : Nat := s.caches.slotCount (·.cache == cache)

def shownVersions : String :=
  "VersionResolver \x7b settings: " ++ s.provider.settings.shown ++ ", versions: " ++
    Memo.shown (s.slotCount .versions) ++ ", .. \x7d"

def shownSdkPaths : String :=
  "SdkResolver \x7b settings: " ++ s.provider.settings.shown ++ ", paths: " ++
    Memo.shown (s.slotCount .sdkPaths) ++ ", .. \x7d"

def shown (bases : Nat) : String :=
  "ContextProvider \x7b settings: " ++ s.provider.settings.shown ++ ", standard_library: " ++
    s.provider.library.shown ++ ", base_contexts: " ++ toString bases ++ ", .. \x7d"

end Session

end PassContext
