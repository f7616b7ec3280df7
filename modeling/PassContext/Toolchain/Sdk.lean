/-
# The SDK path

Only one platform has an SDK path.  The runner prints it on a line of its own, whose end is not
part of the path.
-/
import PassContext.Toolchain.Command
import PassContext.Toolchain.Settings

namespace PassContext

/-- A text, given by its characters from the last to the first, without one line end. -/
def dropLineEnd : List Char → List Char
  | '\n' :: '\r' :: rest => rest
  | '\n' :: rest => rest
  | cs => cs

/-- A text without the line end behind it. -/
def stripLineEnd (s : String) : String := .ofList (dropLineEnd s.toList.reverse).reverse

namespace Settings

/-- The query for the SDK path. -/
def sdkQuery (s : Settings) : Command :=
  ⟨s.runner, ["--show-sdk-path", "--sdk", s.sdk]⟩

/-- The path that the answer to an SDK query reports. -/
def sdkPathOfAnswer (s : Settings) (answer : Except Failure Output) : Except Failure String := do
  let output ← answer
  let stdout ← output.stdoutOf s.sdkQuery
  return stripLineEnd stdout

end Settings

end PassContext
