/-
# What registrations leave in a context

A registration changes one part of a context.  Each part is told by the registrations that are for
it, in their order: the lists grow, the declarations go to their stores.
-/
import PassContext.Proofs.Registry.DeclarationStores
import PassContext.Run.Context

namespace PassContext

/-! ## 1. What a registration is for -/

namespace Update

/-- The template that a registration adds. -/
def template? : Update → Option Template
  | .addTemplate t => some t
  | _ => none

/-- The declaration that is registered. -/
def declaration? : Update → Option Declarations.Registration
  | .addEnum encoding d => some (.enum encoding d)
  | .addProtocol name => some (.protocol name)
  | .setInheritance typeName inherits => some (.inheritance typeName inherits)
  | _ => none

def callRule? : Update → Option CallRule
  | .addCallRule t => some t
  | _ => none

def pureFunction? : Update → Option PureFunction
  | .recordPure d => some ⟨d.baseName, d.functionType⟩
  | _ => none

end Update

namespace Context

section Apply

variable (c : Context) (u : Update)

@[simp] theorem version_apply : (c.apply u).version = c.version := by cases u <;> rfl

@[simp] theorem options_apply : (c.apply u).options = c.options := by cases u <;> rfl

/-- A registration touches the templates by putting its own in front. -/
@[simp] theorem templates_apply :
    (c.apply u).templates.toList = u.template?.toList ++ c.templates.toList := by
  cases u <;> rfl

end Apply

/-! ## 2. Registrations in any order -/

variable (c : Context) (us : List Update)

theorem version_applyAll : (c.applyAll us).version = c.version := by
  induction us generalizing c with
  | nil => rfl
  | cons u us ih => rw [applyAll_cons, ih, version_apply]

theorem options_applyAll : (c.applyAll us).options = c.options := by
  induction us generalizing c with
  | nil => rfl
  | cons u us ih => rw [applyAll_cons, ih, options_apply]

theorem templates_applyAll :
    (c.applyAll us).templates.toList =
      (us.filterMap Update.template?).reverse ++ c.templates.toList := by
  have hreverse : (c.applyAll us).templates.toList.reverse =
      c.templates.toList.reverse ++ us.filterMap Update.template? := by
    refine collected (·.templates.toList.reverse) (fun c u => ?_) c us
    rw [templates_apply, List.reverse_append]
    cases u.template? <;> rfl
  rw [← List.reverse_reverse (c.applyAll us).templates.toList, hreverse, List.reverse_append,
    List.reverse_reverse]

theorem callRules_applyAll :
    (c.applyAll us).callRules.toList = c.callRules.toList ++ us.filterMap Update.callRule? := by
  refine collected (·.callRules.toList) (fun c u => ?_) c us
  cases u with
  | addCallRule t => rfl
  | addTemplate | addEnum | addProtocol | setInheritance | recordPure =>
    exact (List.append_nil c.callRules.toList).symm

theorem pureFunctions_applyAll :
    (c.applyAll us).pureFunctions.toList =
      c.pureFunctions.toList ++ us.filterMap Update.pureFunction? := by
  refine collected (·.pureFunctions.toList) (fun c u => ?_) c us
  cases u with
  | recordPure d => rfl
  | addTemplate | addEnum | addProtocol | setInheritance | addCallRule =>
    exact (List.append_nil c.pureFunctions.toList).symm

theorem declarations_applyAll :
    (c.applyAll us).declarations =
      c.declarations.registerAll (us.filterMap Update.declaration?) := by
  induction us generalizing c with
  | nil => rfl
  | cons u us ih =>
    rw [applyAll_cons, ih]
    cases u <;> rfl

end Context

end PassContext
