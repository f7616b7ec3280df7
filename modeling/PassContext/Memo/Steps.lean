/-
# Steps on one memo table

A caller of a memo table takes steps, each chosen by the answers to those before: it looks at a
key, or it fetches the value of one.  The computation of a fetch may take steps on the same table,
and so on to any depth.  It ends with an outcome, where each computation has errors of its own
kind, and it may change whatever else its caller has; if it does not run, that stays as before.
-/
import PassContext.Memo.Basic

namespace PassContext.Memo

/-- Steps on a table, up to a result. -/
inductive Steps (κ V : Type) : Type → Type 1
  | done {ρ : Type} (r : ρ) : Steps κ V ρ
  | get {ρ : Type} (key : κ) (next : Option V → Steps κ V ρ) : Steps κ V ρ
  | fetch {ρ ε σ : Type} (key : κ) (before : σ) (init : Steps κ V (Except ε V × σ))
      (next : Except ε V × σ → Steps κ V ρ) : Steps κ V ρ

namespace Steps

variable {κ V ρ ρ' σ : Type}

/-- The same steps, with something made of their result. -/
def map (f : ρ → ρ') : Steps κ V ρ → Steps κ V ρ'
  | .done r => .done (f r)
  | .get key next => .get key fun value => (next value).map f
  | .fetch key before init next => .fetch key before init fun result => (next result).map f

/-- Fetches a value by a computation that cannot fail.  It is a fetch like others, so it is no form
of its own. -/
def insert (key : κ) (before : σ) (init : Steps κ V (V × σ)) (next : V × σ → Steps κ V ρ) :
    Steps κ V ρ :=
  .fetch (ε := Empty) key before (init.map fun (value, after) => (.ok value, after)) fun
    | (.ok value, after) => next (value, after)
    | (.error e, _) => nomatch e

/-- The result of steps, and the table behind them. -/
def run [DecidableEq κ] :
    {ρ : Type} → Steps κ V ρ → Memo κ (fun _ => V) → ρ × Memo κ (fun _ => V)
  | _, .done r, m => (r, m)
  | _, .get key next, m => (next (m.get? key)).run m
  | _, .fetch key before init next, m =>
    let compute (s : Memo κ (fun _ => V) × _) :=
      let ((outcome, after), m) := init.run s.1
      (outcome, (m, after))
    let (outcome, (m, after)) := Memo.fetch key compute (m, before)
    (next (outcome, after)).run m

end Steps

end PassContext.Memo
