/-
# The context of a run

A context holds what the passes of a run share: its options, the language version, and four
registries.  A registration is a value of its own, an `Update`; workers that share a context each
have a list of them, and what the context holds in the end is the result of some interleaving.
-/
import PassContext.Registry.Declarations
import PassContext.Registry.PureFunctions
import PassContext.Registry.TemplateList
import PassContext.Registry.CallRules
import PassContext.Run.Options

namespace PassContext

/-! ## 1. Contexts -/

/-- The shared state of a run. -/
structure Context where
  options : Options
  version : String
  templates : TemplateList
  declarations : Declarations
  callRules : CallRules
  pureFunctions : PureFunctions

namespace Context

/-- A context with the given templates and nothing registered. -/
def start (options : Options) (version : String) (templates : TemplateList) : Context :=
  ⟨options, version, templates, .empty, .empty, .empty⟩

/-- The context as it is shown for inspection. -/
def shown (c : Context) : String :=
  "TranspilationContext \x7b options: " ++ c.options.shown ++
    ", swift_version: " ++ Text.quoted c.version ++
    ", templates: " ++ TemplateList.shown c.templates.size ++
    ", declarations: " ++ c.declarations.shown ++
    ", functions: " ++ c.callRules.shown ++
    ", pure_functions: " ++ c.pureFunctions.shown ++ " \x7d"

end Context

/-! ## 2. Updates -/

/-- A registration in a context. -/
inductive Update
  | addTemplate (t : Template)
  | addEnum (encoding : EnumEncoding) (d : EnumDecl)
  | addProtocol (name : String)
  | setInheritance (typeName : String) (inherits : List String)
  | addCallRule (t : CallRule)
  | recordPure (d : FunctionDecl)

namespace Context

/-- The context after a registration. -/
def apply (c : Context) : Update → Context
  | .addTemplate t => { c with templates := c.templates.add t }
  | .addEnum encoding d => { c with declarations := c.declarations.addEnum encoding d }
  | .addProtocol name => { c with declarations := c.declarations.addProtocol name }
  | .setInheritance typeName inherits =>
    { c with declarations := c.declarations.setInheritance typeName inherits }
  | .addCallRule t => { c with callRules := c.callRules.add t }
  | .recordPure d => { c with pureFunctions := c.pureFunctions.record d }

/-- The context after registrations in the given order. -/
def applyAll (c : Context) (us : List Update) : Context := us.foldl apply c

@[simp] theorem applyAll_nil (c : Context) : c.applyAll [] = c := rfl

@[simp] theorem applyAll_cons (c : Context) (u : Update) (us : List Update) :
    c.applyAll (u :: us) = (c.apply u).applyAll us := rfl

end Context

/-! ## 3. Workers -/

/-- The first of each list, and the lists without it. -/
def takeHeads {α : Type} : List (List α) → List α × List (List α)
  | [] => ([], [])
  | [] :: rest => takeHeads rest
  | (x :: xs) :: rest => (x :: (takeHeads rest).1, xs :: (takeHeads rest).2)

/-- Takes turns: the firsts of all lists, then the seconds, and so on for `n` turns. -/
def takeTurns {α : Type} : Nat → List (List α) → List α
  | 0, _ => []
  | n + 1, lists => (takeHeads lists).1 ++ takeTurns n (takeHeads lists).2

/-- An interleaving of lists in which they take turns. -/
def interleave {α : Type} (lists : List (List α)) : List α :=
  takeTurns ((lists.map List.length).foldr max 0) lists

end PassContext
