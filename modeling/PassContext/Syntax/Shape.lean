/-
# The JSON shapes of nodes

Each syntax type has one shape: which kind of JSON value stands for it, and for an object, which
members it has and what stands for one that is left out.  The tables of this module are the whole
format; reading and writing follow them.
-/
import PassContext.Json.Value

namespace PassContext

/-- The objects of the format. -/
inductive Record
  | declReference
  | memberAccess
  | call
  | closure
  | placeholder
  | labeledExpr
  | enumDecl
  | enumElement
  | functionParameter
  | functionDecl
  | template
deriving DecidableEq, Repr

/-- The JSON value that stands for a node. -/
inductive Shape
  | text
  /-- A text or null. -/
  | optionalText
  | flag
  /-- An integer of 64 bits. -/
  | integer
  | list (item : Shape)
  | record (r : Record)
  /-- An expression: its kind, and a value whose shape depends on it. -/
  | expr
  | literal
deriving DecidableEq, Repr

/-- What stands for a member that is left out. -/
inductive Absent
  /-- Nothing: the member has to be there. -/
  | refused
  /-- Null, where members go by name; an array has to hold it. -/
  | nullByName
  | fallback (value : Json)

/-- A member of an object. -/
structure Field where
  name : String
  shape : Shape
  absent : Absent

namespace Record

/-- The members of each object, in the order in which they are written. -/
def fields : Record → List Field
  | .declReference => [⟨"identifier", .text, .refused⟩, ⟨"type_name", .text, .refused⟩]
  | .memberAccess => [⟨"left", .expr, .refused⟩, ⟨"right", .expr, .refused⟩]
  | .call =>
    [⟨"function", .expr, .refused⟩, ⟨"arguments", .list (.record .labeledExpr), .refused⟩,
     ⟨"type_name", .text, .refused⟩]
  | .closure => [⟨"parameters", .list .text, .refused⟩, ⟨"type_name", .text, .refused⟩]
  | .placeholder => [⟨"name", .text, .refused⟩, ⟨"type_name", .text, .refused⟩]
  | .labeledExpr => [⟨"label", .optionalText, .nullByName⟩, ⟨"expr", .expr, .refused⟩]
  | .enumDecl =>
    [⟨"access", .optionalText, .fallback .null⟩, ⟨"name", .text, .refused⟩,
     ⟨"inherits", .list .text, .fallback (.array [])⟩,
     ⟨"elements", .list (.record .enumElement), .fallback (.array [])⟩]
  | .enumElement =>
    [⟨"name", .text, .refused⟩,
     ⟨"associated_values", .list (.record .functionParameter), .fallback (.array [])⟩]
  | .functionParameter =>
    [⟨"label", .optionalText, .nullByName⟩, ⟨"type_name", .text, .refused⟩]
  | .functionDecl =>
    [⟨"prefix", .text, .refused⟩,
     ⟨"parameters", .list (.record .functionParameter), .fallback (.array [])⟩,
     ⟨"return_type", .text, .refused⟩, ⟨"function_type", .text, .refused⟩,
     ⟨"is_static", .flag, .fallback (.bool false)⟩]
  | .template => [⟨"pattern", .expr, .refused⟩, ⟨"replacement", .expr, .refused⟩]

/-- Whether an array of the members, in order, stands for the object too. -/
def allowsArray : Record → Bool
  | .memberAccess | .closure | .placeholder => false
  | _ => true

/-- What is expected where an object is due. -/
def expected : Record → String
  | .declReference => "struct DeclReference"
  | .memberAccess => "struct variant Expr::MemberAccess"
  | .call => "struct CallExpr"
  | .closure => "struct variant Expr::Closure"
  | .placeholder => "struct variant Expr::Placeholder"
  | .labeledExpr => "struct LabeledExpr"
  | .enumDecl => "struct EnumDecl"
  | .enumElement => "struct EnumElement"
  | .functionParameter => "struct FunctionParameter"
  | .functionDecl => "struct FunctionDecl"
  | .template => "struct TranspilationTemplate"

/-- The object with the given values for its members, in order. -/
def object (r : Record) (values : List Json) : Json :=
  .object ((r.fields.map (·.name)).zip values)

end Record

/-- The kinds of expressions. -/
inductive Kind
  | declReference
  | memberAccess
  | call
  | closure
  | literal
  | literalCode
  | placeholder
deriving DecidableEq, Repr

namespace Kind

def all : List Kind :=
  [.declReference, .memberAccess, .call, .closure, .literal, .literalCode, .placeholder]

def name : Kind → String
  | .declReference => "decl_reference"
  | .memberAccess => "member_access"
  | .call => "call"
  | .closure => "closure"
  | .literal => "literal"
  | .literalCode => "literal_code"
  | .placeholder => "placeholder"

/-- The shape of the value beside each kind. -/
def content : Kind → Shape
  | .declReference => .record .declReference
  | .memberAccess => .record .memberAccess
  | .call => .record .call
  | .closure => .record .closure
  | .literal => .literal
  | .literalCode => .text
  | .placeholder => .record .placeholder

/-- The kind with the given name. -/
def ofName? (s : String) : Option Kind := all.find? (·.name == s)

@[simp] theorem ofName?_name (k : Kind) : ofName? k.name = some k := by cases k <;> decide

/-- An expression's kind and value as one object. -/
def object (k : Kind) (value : Json) : Json := .object [("kind", .string k.name), ("value", value)]

end Kind

/-- The kinds of literals. -/
inductive LiteralKind
  | int
  | bool
  | string
  | nil
deriving DecidableEq, Repr

namespace LiteralKind

def all : List LiteralKind := [.int, .bool, .string, .nil]

def name : LiteralKind → String
  | .int => "int"
  | .bool => "bool"
  | .string => "string"
  | .nil => "nil"

/-- The shape of the value that a literal of each kind carries, if it carries one. -/
def content? : LiteralKind → Option Shape
  | .int => some .integer
  | .bool => some .flag
  | .string => some .text
  | .nil => none

/-- The literal kind with the given name. -/
def ofName? (s : String) : Option LiteralKind := all.find? (·.name == s)

@[simp] theorem ofName?_name (k : LiteralKind) : ofName? k.name = some k := by cases k <;> decide

/-- A literal: its kind with the value it carries, or the kind alone. -/
def json (k : LiteralKind) : Option Json → Json
  | some value => .object [(k.name, value)]
  | none => .string k.name

end LiteralKind

end PassContext
