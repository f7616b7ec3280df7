/-
# Declarations

The declarations that the passes of a run tell each other about: enumerations with their
elements, and functions.
-/

namespace PassContext

/-- A parameter with its label and type. -/
structure FunctionParameter where
  label : Option String
  typeName : String
deriving DecidableEq, Repr

/-- One case of an enumeration, with the labels and types of the values it carries. -/
structure EnumElement where
  name : String
  associatedValues : List FunctionParameter
deriving DecidableEq, Repr

/-- An enumeration. -/
structure EnumDecl where
  /-- The access modifier as written, if there is one. -/
  access : Option String
  name : String
  /-- The types it inherits from, in source order. -/
  inherits : List String
  elements : List EnumElement
deriving DecidableEq, Repr

namespace EnumDecl

/-- An enumeration without elements. -/
def named (name : String) : EnumDecl := ⟨none, name, [], []⟩

/-- The enumeration with one more element, which carries no values. -/
def addElement (d : EnumDecl) (name : String) : EnumDecl :=
  { d with elements := d.elements ++ [⟨name, []⟩] }

/-- Whether no element carries values. -/
def hasPlainElements (d : EnumDecl) : Bool := d.elements.all (·.associatedValues.isEmpty)

end EnumDecl

/-- A function: its base name without labels, its parameters, and its types as printed. -/
structure FunctionDecl where
  baseName : String
  parameters : List FunctionParameter
  returnType : String
  functionType : String
  isStatic : Bool
deriving DecidableEq, Repr

/-- A function without recorded parameters. -/
def FunctionDecl.named (baseName functionType returnType : String) : FunctionDecl :=
  ⟨baseName, [], returnType, functionType, false⟩

end PassContext
