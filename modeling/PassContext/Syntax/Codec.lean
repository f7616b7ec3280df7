/-
# The JSON form of nodes

Every syntax type is written as a JSON value of its shape, and taken back from one.  Decoding a
text reads a value of the shape first, so that what is taken back is always a value as the
library writes it: the names of members have been checked and can be ignored here.
-/
import PassContext.Syntax.Decl
import PassContext.Syntax.Expr
import PassContext.Syntax.Read

namespace PassContext

/-- A type whose values have a JSON form. -/
class Codec (α : Type) where
  shape : Shape
  toJson : α → Json
  ofJson? : Json → Option α

/-! ## 1. Texts, lists and leaves -/

def optionalText (s : Option String) : Json :=
  match s with
  | none => .null
  | some s => .string s

def ofText? : Json → Option String
  | .string s => some s
  | _ => none

def ofOptionalText? : Json → Option (Option String)
  | .null => some none
  | .string s => some (some s)
  | _ => none

def ofTexts? : List Json → Option (List String)
  | [] => some []
  | .string s :: rest => (ofTexts? rest).map (s :: ·)
  | _ :: _ => none

instance {α : Type} [Codec α] : Codec (List α) where
  shape := .list (Codec.shape α)
  toJson xs := .array (xs.map Codec.toJson)
  ofJson?
    | .array js => js.mapM Codec.ofJson?
    | _ => none

namespace Literal

def toJson : Literal → Json
  | .int n => LiteralKind.int.json (some (.int n.toInt))
  | .bool b => LiteralKind.bool.json (some (.bool b))
  | .string s => LiteralKind.string.json (some (.string s))
  | .nil => LiteralKind.nil.json none

def ofJson? : Json → Option Literal
  | .string _ => some .nil
  | .object [(_, .int n)] => some (.int (.ofInt n))
  | .object [(_, .bool b)] => some (.bool b)
  | .object [(_, .string s)] => some (.string s)
  | _ => none

instance : Codec Literal := ⟨.literal, toJson, ofJson?⟩

end Literal

namespace DeclReference

def toJson (r : DeclReference) : Json :=
  Record.declReference.object [.string r.identifier, .string r.typeName]

def ofJson? : Json → Option DeclReference
  | .object [(_, .string identifier), (_, .string typeName)] => some ⟨identifier, typeName⟩
  | _ => none

instance : Codec DeclReference := ⟨.record .declReference, toJson, ofJson?⟩

end DeclReference

/-! ## 2. Expressions -/

mutual

def Expr.toJson : Expr → Json
  | .declReference r => Kind.declReference.object r.toJson
  | .memberAccess l r =>
    Kind.memberAccess.object (Record.memberAccess.object [l.toJson, r.toJson])
  | .call c => Kind.call.object c.toJson
  | .closure ps t =>
    Kind.closure.object (Record.closure.object [.array (ps.map .string), .string t])
  | .literal v => Kind.literal.object v.toJson
  | .literalCode code => Kind.literalCode.object (.string code)
  | .placeholder n t => Kind.placeholder.object (Record.placeholder.object [.string n, .string t])

def CallExpr.toJson : CallExpr → Json
  | ⟨f, as, t⟩ => Record.call.object [f.toJson, .array (LabeledExpr.listToJson as), .string t]

def LabeledExpr.toJson : LabeledExpr → Json
  | ⟨label, e⟩ => Record.labeledExpr.object [optionalText label, e.toJson]

def LabeledExpr.listToJson : List LabeledExpr → List Json
  | [] => []
  | a :: as => a.toJson :: LabeledExpr.listToJson as

end

mutual

def Expr.ofJson? : Json → Option Expr
  | .object [(_, .string kind), (_, value)] =>
    match Kind.ofName? kind with
    | some .declReference => (DeclReference.ofJson? value).map .declReference
    | some .memberAccess =>
      match value with
      | .object [(_, l), (_, r)] => do
        let l ← Expr.ofJson? l
        let r ← Expr.ofJson? r
        return .memberAccess l r
      | _ => none
    | some .call => (CallExpr.ofJson? value).map .call
    | some .closure =>
      match value with
      | .object [(_, .array ps), (_, .string t)] => (ofTexts? ps).map (.closure · t)
      | _ => none
    | some .literal => (Literal.ofJson? value).map .literal
    | some .literalCode => (ofText? value).map .literalCode
    | some .placeholder =>
      match value with
      | .object [(_, .string n), (_, .string t)] => some (.placeholder n t)
      | _ => none
    | none => none
  | _ => none

def CallExpr.ofJson? : Json → Option CallExpr
  | .object [(_, f), (_, .array as), (_, .string t)] => do
    let f ← Expr.ofJson? f
    let as ← LabeledExpr.listOfJson? as
    return ⟨f, as, t⟩
  | _ => none

def LabeledExpr.ofJson? : Json → Option LabeledExpr
  | .object [(_, label), (_, e)] => do
    let label ← ofOptionalText? label
    let e ← Expr.ofJson? e
    return ⟨label, e⟩
  | _ => none

def LabeledExpr.listOfJson? : List Json → Option (List LabeledExpr)
  | [] => some []
  | j :: js => do
    let a ← LabeledExpr.ofJson? j
    let as ← LabeledExpr.listOfJson? js
    return a :: as

end

instance : Codec Expr := ⟨.expr, Expr.toJson, Expr.ofJson?⟩
instance : Codec CallExpr := ⟨.record .call, CallExpr.toJson, CallExpr.ofJson?⟩
instance : Codec LabeledExpr := ⟨.record .labeledExpr, LabeledExpr.toJson, LabeledExpr.ofJson?⟩

namespace Template

def toJson (t : Template) : Json :=
  Record.template.object [t.pattern.toJson, t.replacement.toJson]

def ofJson? : Json → Option Template
  | .object [(_, p), (_, r)] => do
    let p ← Expr.ofJson? p
    let r ← Expr.ofJson? r
    return ⟨p, r⟩
  | _ => none

instance : Codec Template := ⟨.record .template, toJson, ofJson?⟩

end Template

/-! ## 3. Declarations -/

namespace FunctionParameter

def toJson (p : FunctionParameter) : Json :=
  Record.functionParameter.object [optionalText p.label, .string p.typeName]

def ofJson? : Json → Option FunctionParameter
  | .object [(_, label), (_, .string typeName)] => (ofOptionalText? label).map (⟨·, typeName⟩)
  | _ => none

instance : Codec FunctionParameter := ⟨.record .functionParameter, toJson, ofJson?⟩

end FunctionParameter

namespace EnumElement

def toJson (e : EnumElement) : Json :=
  Record.enumElement.object [.string e.name, Codec.toJson e.associatedValues]

def ofJson? : Json → Option EnumElement
  | .object [(_, .string name), (_, values)] => (Codec.ofJson? values).map (⟨name, ·⟩)
  | _ => none

instance : Codec EnumElement := ⟨.record .enumElement, toJson, ofJson?⟩

end EnumElement

namespace EnumDecl

def toJson (d : EnumDecl) : Json :=
  Record.enumDecl.object
    [optionalText d.access, .string d.name, .array (d.inherits.map .string),
     Codec.toJson d.elements]

def ofJson? : Json → Option EnumDecl
  | .object [(_, access), (_, .string name), (_, .array inherits), (_, elements)] => do
    let access ← ofOptionalText? access
    let inherits ← ofTexts? inherits
    let elements ← Codec.ofJson? elements
    return ⟨access, name, inherits, elements⟩
  | _ => none

instance : Codec EnumDecl := ⟨.record .enumDecl, toJson, ofJson?⟩

end EnumDecl

namespace FunctionDecl

def toJson (d : FunctionDecl) : Json :=
  Record.functionDecl.object
    [.string d.baseName, Codec.toJson d.parameters, .string d.returnType,
     .string d.functionType, .bool d.isStatic]

def ofJson? : Json → Option FunctionDecl
  | .object [(_, .string baseName), (_, parameters), (_, .string returnType),
      (_, .string functionType), (_, .bool isStatic)] =>
    (Codec.ofJson? parameters).map (⟨baseName, ·, returnType, functionType, isStatic⟩)
  | _ => none

instance : Codec FunctionDecl := ⟨.record .functionDecl, toJson, ofJson?⟩

end FunctionDecl

/-! ## 4. Texts of nodes -/

/-- The compact text of a node. -/
def encode {α : Type} [Codec α] (x : α) : String := (Codec.toJson x).text

/-- The node that a text holds. -/
def decode (α : Type) [Codec α] (text : String) : Except Fault α := do
  let j ← (Codec.shape α).parse text
  match Codec.ofJson? j with
  | some x => return x
  | none => .error .malformed

end PassContext
