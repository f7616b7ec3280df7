/-
# What one step of a thread can do

The safety of the caches depends neither on the world nor on who holds the lock of a cache: a
step that only takes such a lock changes nothing that matters to it.  `State.core` leaves both
out, and `Move` lists what is left, one constructor for each atomic action.

`step_core` says that every step of the machine is one of these moves, or none at all.  Everything
that is proved about all runs goes through `Reaches.core_induction`, so it has to look at moves
only, and never at `act` itself.
-/
import Mathlib.Tactic.Common
import Mathlib.Data.List.Basic
import PassContext.Memo.Machine

namespace PassContext.Machine

variable {S : Service} {ρ σ : Type}

/-! ## 1. The core of a state -/

namespace State

/-- The state without the world and without the locks of the caches. -/
def core (s : State S ρ σ) : State S ρ Unit :=
  { s with
    cacheHolder := fun _ => none
    threads := s.threads.map fun th => ⟨th.activity, false⟩
    world := () }

/-- What a thread is about to do. -/
def doing? (s : State S ρ σ) (t : Nat) : Option (Activity S ρ) :=
  (s.threads[t]?).map Thread.activity

@[simp] theorem core_current (s : State S ρ σ) : s.core.current = s.current := rfl

@[simp] theorem core_value (s : State S ρ σ) : s.core.value = s.value := rfl

@[simp] theorem core_holder (s : State S ρ σ) : s.core.holder = s.holder := rfl

@[simp] theorem core_doing? (s : State S ρ σ) (t : Nat) : s.core.doing? t = s.doing? t := by
  simp only [core, doing?, List.getElem?_map, Option.map_map]
  rfl

@[simp] theorem core_owners (s : State S ρ σ) (key : S.Key) (slot : Nat) :
    s.core.owners key slot = s.owners key slot := by
  simp only [owners, core, List.flatMap_map]
  rfl

@[simp] theorem core_become (s : State S ρ σ) (t : Nat) (a : Activity S ρ) :
    (s.become t a).core = s.core.become t a := by
  simp only [core, become, List.map_set]

/-- Making a slot for a key does not depend on what the core leaves out. -/
theorem core_slotFor (s : State S ρ σ) (key : S.Key) :
    s.core.slotFor key = ((s.slotFor key).1, (s.slotFor key).2.core) := by
  unfold slotFor
  rw [core_current]
  cases s.current key <;> rfl

/-- A slot that its cache may give up: it is the slot of its key, one call refers to it, no thread
has locked it, and it is empty. -/
def Idle (s : State S ρ σ) (key : S.Key) (slot : Nat) : Prop :=
  (s.current key = some slot ∧ s.owners key slot = 2) ∧
    s.holder key slot = none ∧ (s.value key slot).isNone

theorem core_idle (s : State S ρ σ) (key : S.Key) (slot : Nat) :
    s.core.Idle key slot ↔ s.Idle key slot := by
  simp only [Idle, core_current, core_owners, core_holder, core_value]

/-- Locking a slot succeeds only if no thread has locked it. -/
theorem lock_eq_some {s s' : State S ρ σ} {t slot : Nat} {key : S.Key} {a : Activity S ρ}
    (h : s.lock t key slot a = some s') :
    s.holder key slot = none ∧ s' = (s.setHolder key slot (some t)).become t a := by
  unfold lock at h
  cases hh : s.holder key slot with
  | some u => simp [hh] at h
  | none =>
    simp only [hh, Option.some.injEq] at h
    exact ⟨rfl, h.symm⟩

end State

/-! ## 2. Moves -/

/-- `Move t s a a' u`: in the state `s`, the thread `t` goes on from `a` to `a'`, and `u` is the
state with all else that this changes.  An answer from outside can be any, and so can the order in
which a count goes through slots. -/
inductive Move (t : Nat) (s : State S ρ Unit) :
    Activity S ρ → Activity S ρ → State S ρ Unit → Prop
  | ask {q next} (answer : S.Answer q) :
      Move t s (.running (.ask q next)) (.running (next answer)) s
  | miss {key next} (h : s.current key = none) :
      Move t s (.running (.get key next)) (.running (next none)) (s.record (.found t key none))
  | look {key slot next} (h : s.current key = some slot) :
      Move t s (.running (.get key next)) (.looking key slot next) s
  | want {key init next} :
      Move t s (.running (.fetch key init next))
        (.wanting key (s.slotFor key).1 init (.caller next)) (s.slotFor key).2
  | startCount {cache todo next} (h : todo.Perm (s.slotsOf cache)) :
      Move t s (.running (.count cache next)) (.counting cache todo [] 0 next) s
  | lockLooking {key slot next} (h : s.holder key slot = none) :
      Move t s (.looking key slot next) (.reading key slot next) (s.setHolder key slot (some t))
  | read {key slot next} :
      Move t s (.reading key slot next) (.departing key slot (next (s.value key slot)))
        ((s.setHolder key slot none).record (.found t key (s.value key slot)))
  | depart {key slot p} : Move t s (.departing key slot p) (.running p) s
  | endCount {cache done refs n next} (h : refs.Perm done) :
      Move t s (.counting cache [] done n next) (.releasing refs (next n))
        (s.record (.counted t cache n))
  | lockCounting {cache key slot todo done n next} (h : s.holder key slot = none) :
      Move t s (.counting cache ((key, slot) :: todo) done n next)
        (.tallying cache key slot todo done n next) (s.setHolder key slot (some t))
  | tally {cache key slot todo done n next} :
      Move t s (.tallying cache key slot todo done n next)
        (.counting cache todo ((key, slot) :: done)
          (if (s.value key slot).isSome then n + 1 else n) next)
        (s.setHolder key slot none)
  | endRelease {p} : Move t s (.releasing [] p) (.running p) s
  | release {slot done p} : Move t s (.releasing (slot :: done) p) (.releasing done p) s
  | enter {key slot init stack} (h : s.holder key slot = none) :
      Move t s (.wanting key slot init stack) (.entered key slot init stack)
        (s.setHolder key slot (some t))
  | hit {key slot init stack v} (h : s.value key slot = some v) :
      Move t s (.entered key slot init stack) (.leaving key slot (.ok v) stack)
        (s.setHolder key slot none)
  | begin {key slot init stack} (h : s.value key slot = none) :
      Move t s (.entered key slot init stack) (.computing key slot init stack)
        (s.record (.began t key))
  | succeed {key slot v stack} :
      Move t s (.computing key slot (.finish (.ok v)) stack) (.leaving key slot (.ok v) stack)
        (((s.setValue key slot v).setHolder key slot none).record (.ended t key (.ok v)))
  | fail {key slot e stack} :
      Move t s (.computing key slot (.finish (.error e)) stack) (.evicting key slot e stack)
        ((s.setHolder key slot none).record (.ended t key (.error e)))
  | inquire {key slot q next stack} (answer : S.Answer q) :
      Move t s (.computing key slot (.ask q next) stack) (.computing key slot (next answer) stack)
        (s.record (.asked t key q answer))
  | descend {key slot inner init next stack} :
      Move t s (.computing key slot (.fetch inner init next) stack)
        (.wanting inner (s.slotFor inner).1 init (.computation key slot next stack))
        (s.slotFor inner).2
  | evict {key slot e stack} (h : s.Idle key slot) :
      Move t s (.evicting key slot e stack) (.leaving key slot (.error e) stack)
        (s.setCurrent key none)
  | keep {key slot e stack} (h : ¬ s.Idle key slot) :
      Move t s (.evicting key slot e stack) (.leaving key slot (.error e) stack) s
  | returnOutcome {key slot outcome} {next : S.Outcome key → Program S ρ} :
      Move t s (.leaving key slot outcome (.caller next)) (.running (next outcome))
        (s.record (.fetched t key outcome))
  | resume {key slot outcome outer outerSlot} {next : S.Outcome key → Job S outer} {below} :
      Move t s (.leaving key slot outcome (.computation outer outerSlot next below))
        (.computing outer outerSlot (next outcome) below) (s.record (.fetched t key outcome))

/-- **Acting is one move.** -/
theorem act_core {respond : S.Respond σ} {order : Order S} {s s' : State S ρ σ} {t : Nat}
    {a : Activity S ρ} (h : s.act respond order t a = some s') :
    ∃ a' u, Move t s.core a a' u ∧ s'.core = u.become t a' := by
  cases a with
  | running p =>
    cases p with
    | result r => simp [State.act] at h
    | ask q next =>
      simp only [State.act, Option.some.injEq] at h
      subst h
      exact ⟨_, _, .ask _, by rw [State.core_become]; rfl⟩
    | get key next =>
      simp only [State.act] at h
      cases hc : s.current key with
      | none =>
        simp only [hc, Option.some.injEq] at h
        subst h
        exact ⟨_, _, .miss hc, by rw [State.core_become]; rfl⟩
      | some slot =>
        simp only [hc, Option.some.injEq] at h
        subst h
        exact ⟨_, _, .look hc, State.core_become ..⟩
    | fetch key init next =>
      simp only [State.act, Option.some.injEq] at h
      subst h
      refine ⟨_, _, .want, ?_⟩
      rw [State.core_become, State.core_slotFor]
    | count cache next =>
      simp only [State.act, Option.some.injEq] at h
      subst h
      exact ⟨_, _, .startCount (order.perm _), State.core_become ..⟩
  | looking key slot next =>
    obtain ⟨hl, rfl⟩ := State.lock_eq_some h
    exact ⟨_, _, .lockLooking hl, State.core_become ..⟩
  | reading key slot next =>
    simp only [State.act, Option.some.injEq] at h
    subst h
    exact ⟨_, _, .read, by rw [State.core_become]; rfl⟩
  | departing key slot p =>
    simp only [State.act, Option.some.injEq] at h
    subst h
    exact ⟨_, _, .depart, State.core_become ..⟩
  | counting cache todo done n next =>
    cases todo with
    | nil =>
      simp only [State.act, Option.some.injEq] at h
      subst h
      exact ⟨_, _, .endCount (order.perm _), by rw [State.core_become]; rfl⟩
    | cons ref todo =>
      obtain ⟨hl, rfl⟩ := State.lock_eq_some h
      exact ⟨_, _, .lockCounting hl, State.core_become ..⟩
  | tallying cache key slot todo done n next =>
    simp only [State.act, Option.some.injEq] at h
    subst h
    exact ⟨_, _, .tally, by rw [State.core_become]; rfl⟩
  | releasing done p =>
    cases done with
    | nil =>
      simp only [State.act, Option.some.injEq] at h
      subst h
      exact ⟨_, _, .endRelease, State.core_become ..⟩
    | cons ref done =>
      simp only [State.act, Option.some.injEq] at h
      subst h
      exact ⟨_, _, .release, State.core_become ..⟩
  | wanting key slot init stack =>
    obtain ⟨hl, rfl⟩ := State.lock_eq_some h
    exact ⟨_, _, .enter hl, State.core_become ..⟩
  | entered key slot init stack =>
    simp only [State.act] at h
    cases hv : s.value key slot with
    | some v =>
      simp only [hv, Option.some.injEq] at h
      subst h
      exact ⟨_, _, .hit hv, by rw [State.core_become]; rfl⟩
    | none =>
      simp only [hv, Option.some.injEq] at h
      subst h
      exact ⟨_, _, .begin hv, by rw [State.core_become]; rfl⟩
  | computing key slot job stack =>
    cases job with
    | finish outcome =>
      cases outcome with
      | ok v =>
        simp only [State.act, Option.some.injEq] at h
        subst h
        exact ⟨_, _, .succeed, by rw [State.core_become]; rfl⟩
      | error e =>
        simp only [State.act, Option.some.injEq] at h
        subst h
        exact ⟨_, _, .fail, by rw [State.core_become]; rfl⟩
    | ask q next =>
      simp only [State.act, Option.some.injEq] at h
      subst h
      exact ⟨_, _, .inquire _, by rw [State.core_become]; rfl⟩
    | fetch inner init next =>
      simp only [State.act, Option.some.injEq] at h
      subst h
      refine ⟨_, _, .descend, ?_⟩
      rw [State.core_become, State.core_slotFor]
  | evicting key slot e stack =>
    simp only [State.act, Option.some.injEq] at h
    subst h
    by_cases hi : s.core.Idle key slot
    · refine ⟨_, _, .evict hi, ?_⟩
      rw [State.core_idle, State.Idle] at hi
      rw [if_pos hi, State.core_become]
      rfl
    · refine ⟨_, _, .keep hi, ?_⟩
      rw [State.core_idle, State.Idle] at hi
      rw [if_neg hi, State.core_become]
  | leaving key slot outcome stack =>
    simp only [State.act, Option.some.injEq] at h
    subst h
    cases stack with
    | caller next => exact ⟨_, _, .returnOutcome, State.core_become ..⟩
    | computation outer outerSlot next below => exact ⟨_, _, .resume, State.core_become ..⟩

/-! ## 3. Steps and runs -/

/-- **A step is a move of one thread, or changes nothing in the core.** -/
theorem step_core {respond : S.Respond σ} {s s' : State S ρ σ} {turn : Turn S}
    (h : s.step respond turn = some s') :
    s'.core = s.core ∨ ∃ a a' u, s.core.doing? turn.thread = some a ∧
      Move turn.thread s.core a a' u ∧ s'.core = u.become turn.thread a' := by
  obtain ⟨t, order⟩ := turn
  unfold State.step at h
  cases ht : s.threads[t]? with
  | none => simp [ht] at h
  | some th =>
    have hd : s.core.doing? t = some th.activity := by
      rw [State.core_doing?, State.doing?, ht]
      rfl
    simp only [ht] at h
    cases hc : th.activity.cache? with
    | none =>
      simp only [hc] at h
      obtain ⟨a', u, hm, hu⟩ := act_core h
      exact Or.inr ⟨_, a', u, hd, hm, hu⟩
    | some cache =>
      simp only [hc] at h
      by_cases hin : th.inCache
      · rw [if_pos hin, Option.map_eq_some_iff] at h
        obtain ⟨v, hv, rfl⟩ := h
        obtain ⟨a', u, hm, hu⟩ := act_core hv
        exact Or.inr ⟨_, a', u, hd, hm, hu⟩
      · rw [if_neg hin] at h
        cases hh : s.cacheHolder cache with
        | some u => simp [hh] at h
        | none =>
          simp only [hh, Option.some.injEq] at h
          subst h
          refine Or.inl ?_
          -- taking the lock of a cache only sets a flag that the core forgets
          have hset : (s.threads.set t { th with inCache := true }).map
              (fun th => (⟨th.activity, false⟩ : Thread S ρ)) =
              s.threads.map fun th => ⟨th.activity, false⟩ := by
            obtain ⟨hlt, hget⟩ := List.getElem?_eq_some_iff.mp ht
            rw [List.map_set]
            refine List.ext_getElem (by simp) fun i h₁ h₂ => ?_
            rw [List.getElem_set]
            split
            · rename_i hi
              subst hi
              rw [List.getElem_map, hget]
            · rfl
          simp only [State.core, State.setCacheHolder, hset]

theorem Reaches.take {respond : S.Respond σ} {s : State S ρ σ} :
    ∀ (threads : List Nat) {u : State S ρ σ}, State.Reaches respond s u →
      State.Reaches respond s (u.take respond threads)
  | [], _, h => h
  | t :: threads, u, h => by
    refine Reaches.take threads ?_
    show State.Reaches respond s ((u.step respond (.plain t)).getD u)
    cases hu : u.step respond (.plain t) with
    | none => exact h
    | some v => exact h.step hu

theorem reaches_rounds {respond : S.Respond σ} {s : State S ρ σ} :
    ∀ (n : Nat) {u : State S ρ σ}, State.Reaches respond s u →
      State.Reaches respond s (u.rounds respond n)
  | 0, _, h => h
  | n + 1, _, h => reaches_rounds n (Reaches.take _ h)

/-- **Induction over a run.**  What holds of the core at the start and is kept by every move holds
of the core in every state that is reached. -/
theorem Reaches.core_induction {respond : S.Respond σ} {P : State S ρ Unit → Prop}
    {s s' : State S ρ σ} (h : State.Reaches respond s s') (h0 : P s.core)
    (hmove : ∀ {t : Nat} {v : State S ρ Unit} {a a' : Activity S ρ} {u : State S ρ Unit},
      P v → v.doing? t = some a → Move t v a a' u → P (u.become t a')) : P s'.core := by
  induction h with
  | refl => exact h0
  | step h hstep ih =>
    rcases step_core hstep with hsame | ⟨a, a', u, ha, hm, hu⟩
    · rw [hsame]
      exact ih
    · rw [hu]
      exact hmove ih ha hm

end PassContext.Machine
