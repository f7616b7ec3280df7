/-
# What a provider does

A provider owns four caches: the versions of toolchains, the SDK path, and one base context for
each version in each of the two syntax modes.  Its operations are programs over these caches;
versions are kept by the name of the toolchain, with the empty name for the default one, and base
contexts by the version.

A base context is seeded once with the template library.  While one is being built, its slot stays
locked, and the SDK path is fetched inside.
-/
import PassContext.Memo.Machine
import PassContext.Run.Context
import PassContext.Toolchain.Sdk
import PassContext.Toolchain.Version

namespace PassContext

/-- A context by the number under which it is kept. -/
abbrev ContextId : Type := Nat

namespace Provider

/-! ## 1. The service -/

/-- The caches of a provider. -/
inductive Cache
  | versions
  | sdkPaths
  | bases (mode : SyntaxMode)
deriving DecidableEq, Repr

/-- The keys of the caches. -/
inductive Key
  /-- The version of a toolchain. -/
  | version (toolchain : String)
  /-- The path of an SDK of a kind. -/
  | sdkPath (kind : String)
  /-- The base context for a version. -/
  | base (mode : SyntaxMode) (version : String)
deriving DecidableEq, Repr

def Key.cache : Key → Cache
  | .version _ => .versions
  | .sdkPath _ => .sdkPaths
  | .base mode _ => .bases mode

/-- What is kept under a key. -/
def Key.Value : Key → Type
  | .version _ => String
  | .sdkPath _ => String
  | .base _ _ => ContextId

/-- What a provider asks the outside world for. -/
inductive Query
  /-- To run a query of the toolchain. -/
  | run (c : Command)
  /-- To load the templates of a library, in the order of the file. -/
  | load (library : Path) (mode : SyntaxMode) (version : String)
  /-- To keep a new context. -/
  | keep (c : Context)
  /-- To start a run from what a base context holds at the moment. -/
  | startRun (base : ContextId) (options : Options)

/-- A query that could not be run and a library that could not be loaded are answered with the
failure. -/
def Query.Answer : Query → Type
  | .run _ => Except Failure Output
  | .load .. => Except Failure (List Template)
  | .keep _ => ContextId
  | .startRun .. => ContextId

/-- The caches, keys and questions of a provider. -/
def service : Service where
  Cache := Cache
  Key := Key
  cacheOf := Key.cache
  Value := Key.Value
  Error := Failure
  Query := Query
  Answer := Query.Answer

end Provider

/-- A provider: its settings and where the template library is. -/
structure Provider where
  settings : Settings
  library : Path

namespace Provider

/-- A provider with the settings of an environment, which gives the bytes of a variable. -/
def ofEnvironment (bytes? : String → Option (List UInt8)) (library : Path) : Provider :=
  ⟨.ofEnvironment bytes?, library⟩

variable (p : Provider) {ρ : Type}

/-- The name under which the version of a toolchain is kept. -/
def versionKey (toolchain : Option String) : Key := .version (toolchain.getD "")

/-- The key of the SDK path. -/
def sdkKey : Key := .sdkPath p.settings.sdk

/-! ## 2. Computations -/

/-- Asks a toolchain for its version. -/
def versionJob (toolchain : Option String) : Job service (versionKey toolchain) :=
  .ask (.run (p.settings.versionQuery toolchain)) fun answer =>
    .finish (p.settings.versionOfAnswer toolchain answer)

/-- Asks for the SDK path. -/
def sdkJob : Job service p.sdkKey :=
  .ask (.run p.settings.sdkQuery) fun answer => .finish (p.settings.sdkPathOfAnswer answer)

/-- The arguments that base contexts are built with. -/
def baseArguments (sdkPath : Option String) : Arguments := ⟨[p.library], [], sdkPath⟩

/-- A base context with the templates of the library. -/
def baseContext (toolchain : Option String) (mode : SyntaxMode) (version : String)
    (sdkPath : Option String) (templates : List Template) : Context :=
  .start
    { Options.default with
      toolchain := toolchain, mode := mode, arguments := p.baseArguments sdkPath }
    version (TemplateList.empty.addAll templates)

/-- Loads the library and keeps a base context with its templates. -/
def seedJob (toolchain : Option String) (mode : SyntaxMode) (version : String) :
    Except Failure (Option String) → Job service (.base mode version)
  | .error e => .finish (.error e)
  | .ok sdkPath =>
    .ask (.load p.library mode version) fun answer =>
      match answer with
      | .error e => .finish (.error e)
      | .ok templates =>
        .ask (.keep (p.baseContext toolchain mode version sdkPath templates)) fun id =>
          .finish (.ok id)

/-- Builds a base context: the SDK path on the platform that has one, then the library. -/
def baseJob (toolchain : Option String) (mode : SyntaxMode) (version : String) :
    Job service (.base mode version) :=
  if p.settings.platform = .macOS then
    .fetch p.sdkKey p.sdkJob fun outcome => p.seedJob toolchain mode version (outcome.map some)
  else p.seedJob toolchain mode version (.ok none)

/-! ## 3. Operations -/

/-- The version of a toolchain. -/
def version (toolchain : Option String) (next : Except Failure String → Program service ρ) :
    Program service ρ :=
  .get (versionKey toolchain) fun found =>
    match found with
    | some version => next (.ok version)
    | none => .fetch (versionKey toolchain) (p.versionJob toolchain) next

/-- The SDK path, on the platform that has one. -/
def sdkPath (next : Except Failure (Option String) → Program service ρ) : Program service ρ :=
  if p.settings.platform = .macOS then
    .fetch p.sdkKey p.sdkJob fun outcome => next (outcome.map some)
  else next (.ok none)

/-- The base context for the version of a toolchain. -/
def base (toolchain : Option String) (mode : SyntaxMode)
    (next : Except Failure ContextId → Program service ρ) : Program service ρ :=
  p.version toolchain fun outcome =>
    match outcome with
    | .error e => next (.error e)
    | .ok version => .fetch (.base mode version) (p.baseJob toolchain mode version) next

/-- A new context for a run. -/
def init (options : Options) (next : Except Failure ContextId → Program service ρ) :
    Program service ρ :=
  p.base options.toolchain options.mode fun outcome =>
    match outcome with
    | .error e => next (.error e)
    | .ok base => .ask (.startRun base options) fun id => next (.ok id)

/-- How many base contexts there are. -/
def baseCount (next : Nat → Program service ρ) : Program service ρ :=
  .count (.bases .astDump) fun n => .count (.bases .rich) fun m => next (n + m)

end Provider

end PassContext
