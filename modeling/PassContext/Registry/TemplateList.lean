/-
# Templates

Templates are tried in the order of the list, and a template added later comes before all that
are there: the most recent one outranks the others.
-/
import PassContext.Syntax.Expr

namespace PassContext

/-- Templates in the order in which they are tried. -/
structure TemplateList where
  toList : List Template

namespace TemplateList

def empty : TemplateList := ⟨[]⟩

/-- Puts a template in front of all others. -/
def add (ts : TemplateList) (t : Template) : TemplateList := ⟨t :: ts.toList⟩

/-- Adds templates one after the other. -/
def addAll (ts : TemplateList) (added : List Template) : TemplateList := added.foldl add ts

def size (ts : TemplateList) : Nat := ts.toList.length

def isEmpty (ts : TemplateList) : Bool := ts.toList.isEmpty

/-- The list as it is shown for inspection: its size. -/
def shown (size : Nat) : String := s!"TemplateStore({size} templates)"

@[simp] theorem toList_empty : empty.toList = [] := rfl

@[simp] theorem toList_add (ts : TemplateList) (t : Template) :
    (ts.add t).toList = t :: ts.toList := rfl

@[simp] theorem toList_addAll (ts : TemplateList) (added : List Template) :
    (ts.addAll added).toList = added.reverse ++ ts.toList := by
  induction added generalizing ts with
  | nil => rfl
  | cons t added ih =>
    show (addAll (ts.add t) added).toList = _
    rw [ih]
    simp

end TemplateList

end PassContext
