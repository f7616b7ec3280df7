/-
# Pure functions

Functions that are known to have no side effects are recorded by base name and type.  A call is
taken for pure when what its callee finally names is a reference of a recorded type whose
identifier begins with the recorded name.  Nothing is analysed here.
-/
import PassContext.Syntax.Decl
import PassContext.Syntax.Expr

namespace PassContext

/-- A recorded function. -/
structure PureFunction where
  baseName : String
  functionType : String
deriving DecidableEq, Repr

/-- Whether a text begins with another. -/
def beginsWith (s start : String) : Bool := start.toList.isPrefixOf s.toList

/-- The recorded functions, in the order of recording. -/
structure PureFunctions where
  toList : List PureFunction

namespace PureFunctions

def empty : PureFunctions := ⟨[]⟩

def record (fs : PureFunctions) (d : FunctionDecl) : PureFunctions :=
  ⟨fs.toList ++ [⟨d.baseName, d.functionType⟩]⟩

/-- Whether a reference fits a recorded function. -/
def fits (f : PureFunction) (r : DeclReference) : Bool :=
  beginsWith r.identifier f.baseName && r.typeName == f.functionType

/-- Whether a call invokes a recorded function. -/
def isPure (fs : PureFunctions) (call : CallExpr) : Bool :=
  match call.function.finalMember.declReference? with
  | none => false
  | some r => fs.toList.any (fits · r)

def size (fs : PureFunctions) : Nat := fs.toList.length

def isEmpty (fs : PureFunctions) : Bool := fs.toList.isEmpty

/-- The registry as it is shown for inspection: its size. -/
def shown (fs : PureFunctions) : String := s!"PureFunctionRegistry({fs.size} functions)"

@[simp] theorem toList_empty : empty.toList = [] := rfl

@[simp] theorem toList_record (fs : PureFunctions) (d : FunctionDecl) :
    (fs.record d).toList = fs.toList ++ [⟨d.baseName, d.functionType⟩] := rfl

end PureFunctions

end PassContext
