/-
# Declarations found in a run

Enumerations are kept by their encoding in the target language and their own name, so one name
can be registered once with each encoding.  Besides, there are the names of protocols, in the
order in which they were added and with repetitions, and the inherited types of each type.
-/
import PassContext.Registry.Table
import PassContext.Syntax.Decl

namespace PassContext

/-- How an enumeration is written in the target language. -/
inductive EnumEncoding
  /-- A plain enumeration. -/
  | enumClass
  /-- A closed sum type. -/
  | sealedClass
deriving DecidableEq, Repr

namespace EnumEncoding

/-- Enum classes come before sealed classes. -/
def rank : EnumEncoding → Nat
  | .enumClass => 0
  | .sealedClass => 1

end EnumEncoding

/-- An encoding and a name. -/
abbrev EnumKey := EnumEncoding × String

/-- The order of enum keys: by encoding, then by name. -/
def EnumKey.le (a b : EnumKey) : Bool :=
  a.1.rank < b.1.rank || (a.1.rank == b.1.rank && decide (a.2 ≤ b.2))

/-- The declarations found in a run. -/
structure Declarations where
  enums : Table EnumKey EnumDecl
  protocols : List String
  inheritances : Table String (List String)

namespace Declarations

def empty : Declarations := ⟨.empty, [], .empty⟩

/-! ## 1. Enumerations -/

/-- Registers an enumeration under its own name, in place of one with the same encoding. -/
def addEnum (d : Declarations) (encoding : EnumEncoding) (decl : EnumDecl) : Declarations :=
  { d with enums := d.enums.insert (encoding, decl.name) decl }

/-- The enumeration of a name with the given encoding. -/
def enum? (d : Declarations) (encoding : EnumEncoding) (name : String) : Option EnumDecl :=
  d.enums.get? (encoding, name)

/-- The enumeration of a name, an enum class before a sealed class. -/
def anyEnum? (d : Declarations) (name : String) : Option EnumDecl :=
  d.enum? .enumClass name <|> d.enum? .sealedClass name

def hasEnum (d : Declarations) (encoding : EnumEncoding) (name : String) : Bool :=
  (d.enum? encoding name).isSome

def hasAnyEnum (d : Declarations) (name : String) : Bool := (d.anyEnum? name).isSome

/-- The encodings and names of all enumerations, in order. -/
def enumKeys (d : Declarations) : List EnumKey := d.enums.keys.mergeSort EnumKey.le

/-! ## 2. Protocols and inheritance -/

def addProtocol (d : Declarations) (name : String) : Declarations :=
  { d with protocols := d.protocols ++ [name] }

def hasProtocol (d : Declarations) (name : String) : Bool := d.protocols.contains name

/-- Sets the inherited types of a type, in place of an earlier list. -/
def setInheritance (d : Declarations) (typeName : String) (inherits : List String) :
    Declarations :=
  { d with inheritances := d.inheritances.insert typeName inherits }

def inheritance? (d : Declarations) (typeName : String) : Option (List String) :=
  d.inheritances.get? typeName

/-- The declarations as they are shown for inspection: how many there are. -/
def shown (d : Declarations) : String :=
  "DeclarationRegistry \x7b enums: " ++ toString d.enums.size ++
    ", protocols: " ++ toString d.protocols.length ++
    ", inheritances: " ++ toString d.inheritances.size ++ " \x7d"

end Declarations

end PassContext
