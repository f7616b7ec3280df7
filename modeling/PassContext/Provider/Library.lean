/-
# The template library

The library is a file with a JSON array of templates.
-/
import PassContext.Syntax.Codec
import PassContext.Text.Utf8

namespace PassContext

/-- What is found where the library should be. -/
inductive LibraryFile
  | content (bytes : List UInt8)
  | missing
  | directory

namespace LibraryFile

/-- The templates of a library, in the order of the file, or why there are none. -/
def load : LibraryFile → Except String (List Template)
  | .missing => .error "No such file or directory (os error 2)"
  | .directory => .error "Is a directory (os error 21)"
  | .content bytes =>
    match Text.utf8? bytes with
    | none => .error "stream did not contain valid UTF-8"
    | some text => (decode (List Template) text).mapError Fault.message

end LibraryFile

end PassContext
