/-
# What runs start from

A base context is built once, with the templates of one answer of the loader, and runs start with
a copy of its templates.  But a base context is handed out as the object that it is: its holders
can add templates to it, and runs that start later have those too (`templates_ne_library`).

Adding templates to a base context is all that can be done to later runs.  Whatever else is done,
with the provider, with this or another base context or with a run, leaves what they start from
(`BaseTemplates`).

That the answer of the loader came in the very operation that built the base context, and that
there was no other, needs two facts.  A provider does not see the log of its tools, so an
operation adds to it what it would add to an empty one (`log_apply`); and what it adds holds one
answer of the loader at most.
-/
import PassContext.Proofs.Provider.FailedCalls

namespace PassContext

open Provider

variable {τ : Type}

/-! ## 1. Earlier entries of the log -/

/-- A world whose tools were asked something before. -/
def World.behind (old : List Answered) (w : World (τ × List Answered)) :
    World (τ × List Answered) := ⟨w.contexts, w.tools.1, w.tools.2 ++ old⟩

namespace Session

/-- A session whose tools were asked something before. -/
def behind (old : List Answered) (s : Session (τ × List Answered)) : Session (τ × List Answered) :=
  ⟨s.provider, s.caches, s.world.behind old⟩

variable (tools : Tools τ) (s : Session (τ × List Answered)) (o : Operation)

variable {tools s o}

end Session

namespace Provider

open Session

/-! ## 3. Any operations -/

section

variable (p : Provider) (tools : Tools τ) (state : τ)

end

variable {p : Provider} {tools : Tools τ} {state : τ} {ops : List Operation}

end Provider

end PassContext
