/-
# Jobs over caches

What a caller does with the caches of a service is a program: it looks up keys, fetches values,
counts them, and asks the outside world.  A fetch carries the job that computes the value if the
key has none; a job may ask the outside world and fetch other keys.

A program says only what happens next after each answer, so it can be run alone, as here, or one
step at a time beside other programs.
-/
import PassContext.Memo.Basic

namespace PassContext

/-- What the programs of a service share: caches with their keys and values, the errors of
computations, and the questions put to the outside world. -/
structure Service where
  Cache : Type
  Key : Type
  /-- The cache that a key belongs to. -/
  cacheOf : Key → Cache
  Value : Key → Type
  Error : Type
  Query : Type
  Answer : Query → Type
  [decideCache : DecidableEq Cache]
  [decideKey : DecidableEq Key]

namespace Service

variable (S : Service)

instance : DecidableEq S.Cache := S.decideCache
instance : DecidableEq S.Key := S.decideKey

/-- The outcome of a computation for a key. -/
abbrev Outcome (key : S.Key) : Type := Except S.Error (S.Value key)

/-- The caches of a service, taken together. -/
abbrev Caches : Type := Memo S.Key S.Value

/-- Answers questions, and changes while doing so. -/
abbrev Respond (σ : Type) : Type := (q : S.Query) → σ → S.Answer q × σ

end Service

/-! ## 1. Jobs and programs -/

/-- A computation for the value of a key. -/
inductive Job (S : Service) : S.Key → Type
  | finish {key : S.Key} (outcome : S.Outcome key) : Job S key
  | ask {key : S.Key} (q : S.Query) (next : S.Answer q → Job S key) : Job S key
  | fetch {key : S.Key} (inner : S.Key) (init : Job S inner)
      (next : S.Outcome inner → Job S key) : Job S key

/-- What a caller does, up to its result. -/
inductive Program (S : Service) (ρ : Type)
  | result (r : ρ)
  | ask (q : S.Query) (next : S.Answer q → Program S ρ)
  | get (key : S.Key) (next : Option (S.Value key) → Program S ρ)
  | fetch (key : S.Key) (init : Job S key) (next : S.Outcome key → Program S ρ)
  /-- How many keys of a cache have a value. -/
  | count (cache : S.Cache) (next : Nat → Program S ρ)

variable {S : Service} {σ ρ : Type}

/-! ## 2. Running alone -/

/-- The outcome of a job that runs alone. -/
def Job.run (respond : S.Respond σ) :
    {key : S.Key} → Job S key → S.Caches × σ → S.Outcome key × (S.Caches × σ)
  | _, .finish outcome, s => (outcome, s)
  | _, .ask q next, (m, w) =>
    let (a, w) := respond q w
    (next a).run respond (m, w)
  | _, .fetch inner init next, s =>
    let (outcome, s) := Memo.fetch inner (init.run respond) s
    (next outcome).run respond s

/-- The result of a program that runs alone. -/
def Program.run (respond : S.Respond σ) : Program S ρ → S.Caches × σ → ρ × (S.Caches × σ)
  | .result r, s => (r, s)
  | .ask q next, (m, w) =>
    let (a, w) := respond q w
    (next a).run respond (m, w)
  | .get key next, (m, w) => (next (m.get? key)).run respond (m, w)
  | .fetch key init next, s =>
    let (outcome, s) := Memo.fetch key (init.run respond) s
    (next outcome).run respond s
  | .count cache next, (m, w) =>
    (next (m.count fun key => S.cacheOf key == cache)).run respond (m, w)

end PassContext
