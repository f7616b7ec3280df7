/-
# Call rules

A user declares how calls of a function are written in the target language.  A call site gives
the callee's name, with labels, and the text of its type; a rule is found by the base name and
the normal form of the signature.  The first rule that fits wins, so a specific rule has to be
added before a general one.
-/
import PassContext.Signature

namespace PassContext

/-- A parameter of a rule: its label in the target language, if it has one, and
its default value as code, if it has one. -/
structure RuleParameter where
  label : Option String
  defaultValue : Option String
deriving DecidableEq, Repr

/-- How calls of a function are written in the target language. -/
structure CallRule where
  /-- The name of the function with its labels. -/
  apiName : String
  typeSignature : String
  /-- The callee in the target language. -/
  targetName : String
  parameters : List RuleParameter
deriving DecidableEq, Repr

/-- What a call and a rule have in common: the base name and the normal form of the signature. -/
def callKey (name signature : String) : String × String :=
  (Signature.baseName name, Signature.normalize signature)

/-- What calls a rule is for. -/
def CallRule.key (t : CallRule) : String × String :=
  callKey t.apiName t.typeSignature

/-- Rules in the order in which they are tried. -/
structure CallRules where
  toList : List CallRule

namespace CallRules

def empty : CallRules := ⟨[]⟩

/-- Adds a rule that is tried after all others. -/
def add (ts : CallRules) (t : CallRule) : CallRules :=
  ⟨ts.toList ++ [t]⟩

/-- The first rule for the given call. -/
def find? (ts : CallRules) (name signature : String) : Option CallRule :=
  let key := callKey name signature
  ts.toList.find? (·.key == key)

def size (ts : CallRules) : Nat := ts.toList.length

def isEmpty (ts : CallRules) : Bool := ts.toList.isEmpty

/-- The table as it is shown for inspection: its size. -/
def shown (ts : CallRules) : String := s!"FunctionTranslationTable({ts.size} entries)"

@[simp] theorem toList_empty : empty.toList = [] := rfl

@[simp] theorem toList_add (ts : CallRules) (t : CallRule) :
    (ts.add t).toList = ts.toList ++ [t] := rfl

end CallRules

end PassContext
