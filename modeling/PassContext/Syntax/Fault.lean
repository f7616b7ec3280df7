/-
# Why a text is not the JSON of a node

The causes are values; their wording is in one place.  Every break of the JSON grammar is the same
cause, because reading stops there and nothing more is known.
-/
import PassContext.Json.Tree
import PassContext.Json.Value
import PassContext.Text.Quoted

namespace PassContext

/-- What was found where something else was expected. -/
inductive Found
  | null
  | bool (b : Bool)
  | integer (n : Int)
  | float (x : Decimal.Float64)
  | string (s : String)
  | sequence
  | map
  /-- The name of a variant that carries nothing. -/
  | unitVariant
deriving DecidableEq, Repr

/-- What was found, in words. -/
def Found.text : Found → String
  | .null => "null"
  | .bool b => "boolean `" ++ (if b then "true" else "false") ++ "`"
  | .integer n => "integer `" ++ String.ofList (Json.intChars n) ++ "`"
  | .float x => "floating point `" ++ x.text ++ "`"
  | .string s => "string " ++ Text.quoted s
  | .sequence => "sequence"
  | .map => "map"
  | .unitVariant => "unit variant"

/-- Why a text is not the JSON of a node. -/
inductive Fault
  /-- The text breaks the grammar. -/
  | malformed
  /-- Too many arrays and objects are open at once. -/
  | tooDeep
  | missingField (name : String)
  | duplicateField (name : String)
  | unknownVariant (name : String) (expected : List String)
  | invalidType (found : Found) (expected : String)
  | invalidValue (found : Found) (expected : String)
  | invalidLength (length : Nat) (expected : String)
deriving DecidableEq, Repr

/-- A name in backquotes. -/
def backquoted (s : String) : String := "`" ++ s ++ "`"

/-- The wording of a fault. -/
def Fault.message : Fault → String
  | .malformed => "malformed JSON"
  | .tooDeep => "recursion limit exceeded"
  | .missingField name => "missing field " ++ backquoted name
  | .duplicateField name => "duplicate field " ++ backquoted name
  | .unknownVariant name expected =>
    "unknown variant " ++ backquoted name ++ ", expected one of " ++
      ", ".intercalate (expected.map backquoted)
  | .invalidType found expected => "invalid type: " ++ found.text ++ ", expected " ++ expected
  | .invalidValue found expected => "invalid value: " ++ found.text ++ ", expected " ++ expected
  | .invalidLength n expected =>
    "invalid length " ++ String.ofList (Json.digits n) ++ ", expected " ++ expected

namespace Json

/-- The fault of a tree that is not what was expected. -/
def Tree.mismatch (expected : String) : Tree → Fault
  | .broken | .string none | .number none => .malformed
  | .null => .invalidType .null expected
  | .bool b => .invalidType (.bool b) expected
  | .number (some (.integer n)) => .invalidType (.integer n) expected
  | .number (some (.float x)) => .invalidType (.float x) expected
  | .string (some s) => .invalidType (.string s) expected
  | .array _ => .invalidType .sequence expected
  | .object _ => .invalidType .map expected

end Json

end PassContext
