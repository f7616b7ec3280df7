/-
# Options of a run

What a run is configured with: the toolchain, the input files and flags for the front end, and
how code is written.
-/
import PassContext.Path

namespace PassContext

/-- The front end that makes the syntax trees of a run. -/
inductive SyntaxMode
  /-- Trees rebuilt from the textual dump of a compiler. -/
  | astDump
  /-- Trees made by the richer front end. -/
  | rich
deriving DecidableEq, Repr

/-- The name of a mode as it is shown. -/
def SyntaxMode.shown : SyntaxMode → String
  | .astDump => "AstDump"
  | .rich => "Rich"

/-- Input files and flags for the front end, and the SDK path if it is known. -/
structure Arguments where
  files : List Path
  flags : List String
  sdkPath : Option String

namespace Arguments

def empty : Arguments := ⟨[], [], none⟩

/-- The arguments as a command line: files, flags, and the SDK path behind `-sdk`. -/
def commandLine (a : Arguments) : List String :=
  a.files.map Path.text ++ a.flags ++
    match a.sdkPath with
    | none => []
    | some path => ["-sdk", path]

/-- Arguments are compared part by part, and files by their components. -/
instance : BEq Arguments :=
  ⟨fun a b => a.files == b.files && a.flags == b.flags && a.sdkPath == b.sdkPath⟩

def shown (a : Arguments) : String :=
  "CompilationArguments \x7b absolute_file_paths: " ++ Text.bracketed (a.files.map Path.shown) ++
    ", flags: " ++ Text.bracketed (a.flags.map Text.quoted) ++
    ", sdk_path: " ++ Text.shownOption (a.sdkPath.map Text.quoted) ++ " \x7d"

end Arguments

/-- What a run is configured with. -/
structure Options where
  /-- The toolchain, or the default one. -/
  toolchain : Option String
  /-- One level of indentation. -/
  indentation : String
  /-- Whether declarations are final unless they say otherwise. -/
  defaultsToFinal : Bool
  mode : SyntaxMode
  arguments : Arguments
  projectPath : Option Path
  /-- The build target in the project. -/
  target : Option String

namespace Options

def default : Options where
  toolchain := none
  indentation := "\t"
  defaultsToFinal := false
  mode := .astDump
  arguments := .empty
  projectPath := none
  target := none

/-- Options are compared part by part, and paths by their components. -/
instance : BEq Options :=
  ⟨fun a b =>
    a.toolchain == b.toolchain && a.indentation == b.indentation &&
      a.defaultsToFinal == b.defaultsToFinal && a.mode == b.mode &&
      a.arguments == b.arguments && a.projectPath == b.projectPath && a.target == b.target⟩

/-- Sets the project, and with it the target. -/
def withProject (o : Options) (path : Path) (target : Option String) : Options :=
  { o with projectPath := some path, target := target }

/-- The indentation of code at a depth; levels without a width add up to nothing, however many
there are. -/
def indent (o : Options) (level : Nat) : String :=
  if o.indentation = "" then ""
  else .ofList (List.replicate level o.indentation.toList).flatten

def shown (o : Options) : String :=
  "ContextOptions \x7b toolchain: " ++ Text.shownOption (o.toolchain.map Text.quoted) ++
    ", indentation: " ++ Text.quoted o.indentation ++
    ", defaults_to_final: " ++ (if o.defaultsToFinal then "true" else "false") ++
    ", syntax_mode: " ++ o.mode.shown ++
    ", compilation_arguments: " ++ o.arguments.shown ++
    ", project_path: " ++ Text.shownOption (o.projectPath.map Path.shown) ++
    ", target: " ++ Text.shownOption (o.target.map Text.quoted) ++ " \x7d"

end Options

end PassContext
