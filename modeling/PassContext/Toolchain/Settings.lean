/-
# Toolchain settings

Which programs are asked for versions and SDK paths, and which versions are accepted.  Three
variables of the environment override the programs and the kind of SDK; a value that is no UTF-8
is ignored.
-/
import PassContext.Text.Quoted
import PassContext.Text.Utf8

namespace PassContext

/-- The platform that the toolchain runs on. -/
inductive Platform
  /-- Toolchains are chosen by a runner, and there is an SDK path. -/
  | macOS
  /-- The compiler is run directly. -/
  | other
deriving DecidableEq, Repr

/-- Programs and policies of toolchain queries. -/
structure Settings where
  /-- The compiler, asked for its version. -/
  compiler : String
  /-- The runner that chooses a toolchain. -/
  runner : String
  /-- The kind of SDK whose path is asked for. -/
  sdk : String
  /-- The versions that are accepted, and every version that begins with one of them. -/
  supportedVersions : List String
  platform : Platform
deriving DecidableEq, Repr

namespace Settings

/-- The settings of a stock installation. -/
def default : Settings where
  compiler := "swift"
  runner := "xcrun"
  sdk := "macosx"
  supportedVersions := ["5.1", "5.2", "5.3"]
  platform := .other

/-- The variables that override settings. -/
def compilerVariable : String := "FERRY_SWIFT"
def runnerVariable : String := "FERRY_XCRUN"
def sdkVariable : String := "FERRY_SDK"

/-- The default settings with the overrides of an environment, which gives the bytes of a
variable. -/
def ofEnvironment (bytes? : String → Option (List UInt8)) : Settings :=
  let value? (name : String) : Option String := (bytes? name).bind Text.utf8?
  { default with
    compiler := (value? compilerVariable).getD default.compiler
    runner := (value? runnerVariable).getD default.runner
    sdk := (value? sdkVariable).getD default.sdk }

/-- Whether a version begins with one of the supported ones. -/
def supports (s : Settings) (version : String) : Bool :=
  s.supportedVersions.any fun supported => supported.toList.isPrefixOf version.toList

/-- The settings as they are shown for inspection. -/
def shown (s : Settings) : String :=
  "ToolchainSettings \x7b swift_program: " ++ Text.quoted s.compiler ++
    ", xcrun_program: " ++ Text.quoted s.runner ++
    ", sdk_kind: " ++ Text.quoted s.sdk ++
    ", supported_versions: " ++ Text.bracketed (s.supportedVersions.map Text.quoted) ++
    ", platform: " ++ (match s.platform with | .macOS => "MacOs" | .other => "Other") ++ " \x7d"

end Settings

end PassContext
