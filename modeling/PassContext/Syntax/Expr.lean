/-
# Expressions

The expressions that templates are made of.  A chain of member accesses may nest on
either side; what it finally names is its innermost member, the last of its leaves.
-/

namespace PassContext

/-! ## 1. The types -/

/-- A reference to a declared variable, function or type: its name as it stands at the place of
use, with labels, and its resolved type. -/
structure DeclReference where
  identifier : String
  typeName : String
deriving DecidableEq, Repr

/-- A literal value. -/
inductive Literal
  | int (n : Int64)
  | bool (b : Bool)
  | string (s : String)
  | nil
deriving DecidableEq, Repr

mutual

/-- An expression. -/
inductive Expr
  | declReference (reference : DeclReference)
  /-- The access `left.right`. -/
  | memberAccess (left right : Expr)
  | call (call : CallExpr)
  /-- A closure literal. -/
  | closure (parameters : List String) (typeName : String)
  | literal (value : Literal)
  /-- Text of the target language, written as it is. -/
  | literalCode (code : String)
  /-- A template variable that stands for any expression of its type. -/
  | placeholder (name typeName : String)

/-- A call, with the type of its result. -/
structure CallExpr where
  function : Expr
  arguments : List LabeledExpr
  typeName : String

/-- An argument with its label, if it has one. -/
structure LabeledExpr where
  label : Option String
  expr : Expr

end

/-- A template: expressions that match the pattern are written as the replacement. -/
structure Template where
  pattern : Expr
  replacement : Expr

namespace Expr

/-- A reference by name and type. -/
def reference (identifier typeName : String) : Expr := .declReference ⟨identifier, typeName⟩

/-- A call whose arguments have no labels. -/
def unlabeledCall (function : Expr) (arguments : List Expr) (typeName : String) : Expr :=
  .call ⟨function, arguments.map (⟨none, ·⟩), typeName⟩

/-! ## 2. Member chains -/

/-- What a chain of member accesses finally names; any other expression names itself. -/
def finalMember : Expr → Expr
  | .memberAccess _ right => right.finalMember
  | e => e

/-- The operands of a chain of member accesses, from left to right. -/
def leaves : Expr → List Expr
  | .memberAccess left right => left.leaves ++ right.leaves
  | e => [e]

/-- The reference that an expression is, if it is one. -/
def declReference? : Expr → Option DeclReference
  | .declReference r => some r
  | _ => none

@[simp] theorem finalMember_memberAccess (l r : Expr) :
    (memberAccess l r).finalMember = r.finalMember := by rw [finalMember]

@[simp] theorem leaves_memberAccess (l r : Expr) :
    (memberAccess l r).leaves = l.leaves ++ r.leaves := by rw [leaves]

end Expr

/-! ## 3. Equality -/

mutual

/-- Whether two expressions are the same tree. -/
def Expr.beq : Expr → Expr → Bool
  | .declReference r, .declReference s => r == s
  | .memberAccess l r, .memberAccess l' r' => l.beq l' && r.beq r'
  | .call c, .call d => c.beq d
  | .closure ps t, .closure qs u => ps == qs && t == u
  | .literal a, .literal b => a == b
  | .literalCode a, .literalCode b => a == b
  | .placeholder n t, .placeholder m u => n == m && t == u
  | _, _ => false

def CallExpr.beq : CallExpr → CallExpr → Bool
  | ⟨f, as, t⟩, ⟨g, bs, u⟩ => f.beq g && LabeledExpr.beqList as bs && t == u

def LabeledExpr.beq : LabeledExpr → LabeledExpr → Bool
  | ⟨l, e⟩, ⟨m, d⟩ => l == m && e.beq d

def LabeledExpr.beqList : List LabeledExpr → List LabeledExpr → Bool
  | [], [] => true
  | a :: as, b :: bs => a.beq b && LabeledExpr.beqList as bs
  | _, _ => false

end

instance : BEq Expr := ⟨Expr.beq⟩
instance : BEq CallExpr := ⟨CallExpr.beq⟩
instance : BEq LabeledExpr := ⟨LabeledExpr.beq⟩
instance : BEq Template := ⟨fun s t => s.pattern == t.pattern && s.replacement == t.replacement⟩

end PassContext
