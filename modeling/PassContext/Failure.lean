/-
# Why a context could not be had

A context needs a toolchain of a supported version and a template library.  Each failure says
which query went wrong and what was seen; its wording is in one place.
-/
import PassContext.Path

namespace PassContext

/-- Why a version, an SDK path or a context could not be had. -/
inductive Failure
  /-- The toolchain reports a version that is not on the list. -/
  | unsupportedVersion (toolchain : Option String) (version : String) (supported : List String)
  /-- The version query printed no version. -/
  | unreadableVersion (toolchain : Option String) (output : String)
  /-- A query ran without success; `output` is all that it printed. -/
  | queryFailed (command : String) (exitCode : Option Int) (output : String)
  /-- A query could not be started. -/
  | queryNotStarted (command message : String)
  /-- The template library could not be read. -/
  | unreadableLibrary (path : Path) (message : String)

namespace Failure

def toolchainSuffix : Option String → String
  | none => ""
  | some name => " (toolchain: " ++ name ++ ")"

def exitSuffix : Option Int → String
  | none => ""
  | some code => " with exit code " ++ toString code

/-- The wording of a failure. -/
def message : Failure → String
  | .unsupportedVersion toolchain version supported =>
    "unsupported Swift version " ++ version ++ toolchainSuffix toolchain ++
      "; supported versions are " ++ ", ".intercalate supported ++
      ". Select a toolchain that provides a supported version with the `toolchain` option"
  | .unreadableVersion toolchain output =>
    "could not read a Swift version" ++ toolchainSuffix toolchain ++ " from:\n" ++ output
  | .queryFailed command exitCode output =>
    "`" ++ command ++ "` failed" ++ exitSuffix exitCode ++ ":\n" ++ output
  | .queryNotStarted command message => "failed to run `" ++ command ++ "`: " ++ message
  | .unreadableLibrary path message =>
    "failed to load template library '" ++ path.text ++ "': " ++ message

/-- Failures are compared part by part, and paths by their components. -/
def beq : Failure → Failure → Bool
  | .unsupportedVersion t v s, .unsupportedVersion t' v' s' => t == t' && v == v' && s == s'
  | .unreadableVersion t o, .unreadableVersion t' o' => t == t' && o == o'
  | .queryFailed c e o, .queryFailed c' e' o' => c == c' && e == e' && o == o'
  | .queryNotStarted c m, .queryNotStarted c' m' => c == c' && m == m'
  | .unreadableLibrary p m, .unreadableLibrary p' m' => p == p' && m == m'
  | _, _ => false

instance : BEq Failure := ⟨beq⟩

end Failure

end PassContext
