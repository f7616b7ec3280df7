/-
# Versions of a toolchain

A toolchain prints its version somewhere in a line of free text.  The version is taken to begin
at the first digit and to be three characters long, and it has to be on the list of supported
versions.
-/
import PassContext.Toolchain.Command
import PassContext.Toolchain.Settings

namespace PassContext

/-- An ASCII digit. -/
def isAsciiDigit (c : Char) : Bool := '0' ≤ c && c ≤ '9'

/-- The version in the output of a query, given by its characters. -/
def versionChars? (output : List Char) : Option (List Char) :=
  let token := (output.dropWhile fun c => !isAsciiDigit c).take 3
  if token.length = 3 then some token else none

/-- The version in the output of a query: three characters from the first digit on. -/
def versionIn? (output : String) : Option String :=
  (versionChars? output.toList).map .ofList

namespace Settings

/-- The query for the version of a toolchain, or of the default one. -/
def versionQuery (s : Settings) (toolchain : Option String) : Command :=
  match toolchain, s.platform with
  | some name, _ => ⟨s.runner, ["-toolchain", name, s.compiler, "--version"]⟩
  | none, .macOS => ⟨s.runner, [s.compiler, "--version"]⟩
  | none, .other => ⟨s.compiler, ["--version"]⟩

/-- Refuses a version that is not supported. -/
def requireSupported (s : Settings) (toolchain : Option String) (version : String) :
    Except Failure Unit :=
  if s.supports version then .ok ()
  else .error (.unsupportedVersion toolchain version s.supportedVersions)

/-- The version that the answer to a version query reports, if it is supported.  An answer is
what the query printed, or why it could not be run. -/
def versionOfAnswer (s : Settings) (toolchain : Option String) (answer : Except Failure Output) :
    Except Failure String := do
  let output ← answer
  let stdout ← output.stdoutOf (s.versionQuery toolchain)
  match versionIn? stdout with
  | none => .error (.unreadableVersion toolchain stdout)
  | some version => do
    s.requireSupported toolchain version
    return version

end Settings

end PassContext
