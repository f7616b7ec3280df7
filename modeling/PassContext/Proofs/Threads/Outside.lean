/-
# What a run does outside

The events of a run hold every question that a computation asked.  What the world remembers of the
questions is therefore in the events, too, unless a program does work outside on its own, which a
discipline rules out.  `Reaches.view` says so for any part of the world that only grows by what is
shown of each question and its answer.
-/
import PassContext.Proofs.Threads.Settling

namespace PassContext.Machine

variable {S : Service} {ρ σ : Type}

/-- What is shown of the question that an event is about. -/
def Event.shown? {β : Type} (shown : (q : S.Query) → S.Answer q → Option β) : Event S → Option β
  | .asked _ _ q a => shown q a
  | _ => none

/-! ## 1. Steps and the world -/

namespace State

/-- What a step does outside: nothing; or it puts a question for the program of its thread, which
is no event; or it puts a question for a computation, which is one. -/
inductive Puts (respond : S.Respond σ) (t : Nat) (s s' : State S ρ σ) : Prop
  | nothing (new : List (Event S)) (hworld : s'.world = s.world)
      (hevents : s'.events = new ++ s.events) (hnew : ∀ e ∈ new, e.isAsked = false)
  | program {q : S.Query} {next : S.Answer q → Program S ρ}
      (hdo : s.doing? t = some (.running (.ask q next)))
      (hworld : s'.world = (respond q s.world).2) (hevents : s'.events = s.events)
  | computation (key : S.Key) (q : S.Query) (hworld : s'.world = (respond q s.world).2)
      (hevents : s'.events = .asked t key q (respond q s.world).1 :: s.events)

variable {respond : S.Respond σ} {order : Order S} {s s' : State S ρ σ} {turn : Turn S} {t : Nat}

theorem slotFor_world (s : State S ρ σ) (key : S.Key) : (s.slotFor key).2.world = s.world := by
  unfold slotFor
  cases s.current key <;> rfl

/-- Locking a slot puts no question. -/
theorem puts_of_lock {key : S.Key} {slot : Nat} {a : Activity S ρ}
    (h : s.lock t key slot a = some s') : Puts respond t s s' := by
  obtain ⟨-, rfl⟩ := lock_eq_some h
  exact .nothing [] rfl rfl (by simp)

theorem puts_of_act {a : Activity S ρ} (hdo : s.doing? t = some a)
    (h : s.act respond order t a = some s') : Puts respond t s s' := by
  cases a with
  | running p =>
    cases p with
    | result r => simp [act] at h
    | ask q next =>
      simp only [act, Option.some.injEq] at h
      subst h
      exact .program hdo rfl rfl
    | get key next =>
      simp only [act] at h
      cases hc : s.current key with
      | none =>
        simp only [hc, Option.some.injEq] at h
        subst h
        exact .nothing [_] rfl rfl (by simp [Event.isAsked])
      | some slot =>
        simp only [hc, Option.some.injEq] at h
        subst h
        exact .nothing [] rfl rfl (by simp)
    | fetch key init next =>
      simp only [act, Option.some.injEq] at h
      subst h
      exact .nothing [] (s.slotFor_world key) (s.slotFor_events key) (by simp)
    | count cache next =>
      simp only [act, Option.some.injEq] at h
      subst h
      exact .nothing [] rfl rfl (by simp)
  | looking => exact puts_of_lock h
  | reading key slot next =>
    simp only [act, Option.some.injEq] at h
    subst h
    exact .nothing [_] rfl rfl (by simp [Event.isAsked])
  | departing key slot p =>
    simp only [act, Option.some.injEq] at h
    subst h
    exact .nothing [] rfl rfl (by simp)
  | counting cache todo done n next =>
    cases todo with
    | nil =>
      simp only [act, Option.some.injEq] at h
      subst h
      exact .nothing [_] rfl rfl (by simp [Event.isAsked])
    | cons r todo => exact puts_of_lock h
  | tallying cache key slot todo done n next =>
    simp only [act, Option.some.injEq] at h
    subst h
    exact .nothing [] rfl rfl (by simp)
  | releasing done p =>
    cases done with
    | nil =>
      simp only [act, Option.some.injEq] at h
      subst h
      exact .nothing [] rfl rfl (by simp)
    | cons r done =>
      simp only [act, Option.some.injEq] at h
      subst h
      exact .nothing [] rfl rfl (by simp)
  | wanting => exact puts_of_lock h
  | entered key slot init stack =>
    simp only [act] at h
    cases hv : s.value key slot with
    | some v =>
      simp only [hv, Option.some.injEq] at h
      subst h
      exact .nothing [] rfl rfl (by simp)
    | none =>
      simp only [hv, Option.some.injEq] at h
      subst h
      exact .nothing [_] rfl rfl (by simp [Event.isAsked])
  | computing key slot job stack =>
    cases job with
    | finish outcome =>
      cases outcome with
      | ok v =>
        simp only [act, Option.some.injEq] at h
        subst h
        exact .nothing [_] rfl rfl (by simp [Event.isAsked])
      | error e =>
        simp only [act, Option.some.injEq] at h
        subst h
        exact .nothing [_] rfl rfl (by simp [Event.isAsked])
    | ask q next =>
      simp only [act, Option.some.injEq] at h
      subst h
      exact .computation key q rfl rfl
    | fetch inner init next =>
      simp only [act, Option.some.injEq] at h
      subst h
      exact .nothing [] (s.slotFor_world inner) (s.slotFor_events inner) (by simp)
  | evicting key slot e stack =>
    simp only [act, Option.some.injEq] at h
    subst h
    refine .nothing [] ?_ ?_ (by simp)
    · split <;> rfl
    · split <;> rfl
  | leaving key slot outcome stack =>
    simp only [act, Option.some.injEq] at h
    subst h
    cases stack with
    | caller next => exact .nothing [_] rfl rfl (by simp [Event.isAsked])
    | computation outer outerSlot next below =>
      exact .nothing [_] rfl rfl (by simp [Event.isAsked])

/-- **What a step does outside.** -/
theorem puts_of_step (h : s.step respond turn = some s') : Puts respond turn.thread s s' := by
  obtain ⟨t, order⟩ := turn
  unfold step at h
  cases ht : s.threads[t]? with
  | none => simp [ht] at h
  | some th =>
    have hdo : s.doing? t = some th.activity := by
      rw [doing?, ht]
      rfl
    simp only [ht] at h
    cases hc : th.activity.cache? with
    | none =>
      simp only [hc] at h
      exact puts_of_act hdo h
    | some cache =>
      simp only [hc] at h
      by_cases hin : th.inCache
      · rw [if_pos hin, Option.map_eq_some_iff] at h
        obtain ⟨v, hv, rfl⟩ := h
        cases puts_of_act hdo hv with
        | nothing new hworld hevents hnew => exact .nothing new hworld hevents hnew
        | program hdo hworld hevents => exact .program hdo hworld hevents
        | computation key q hworld hevents => exact .computation key q hworld hevents
      · rw [if_neg hin] at h
        cases hh : s.cacheHolder cache with
        | some u => simp [hh] at h
        | none =>
          simp only [hh, Option.some.injEq] at h
          subst h
          exact .nothing [] rfl rfl (by simp)

end State

/-! ## 2. What the world remembers -/

/-- **What the world remembers of the questions is in the events**, for threads that keep to a
discipline. -/
theorem Reaches.view {β : Type} {d : Discipline S} {respond : S.Respond σ} (view : σ → List β)
    (shown : (q : S.Query) → S.Answer q → Option β)
    (hview : ∀ q w, view (respond q w).2 = (shown q (respond q w).1).toList ++ view w)
    (hquiet : ∀ q a, ¬ d.Tries q → shown q a = none) {m : S.Caches}
    {programs : List (Program S ρ)} {world : σ} {s : State S ρ σ}
    (hp : ∀ p ∈ programs, Program.Keeps d p)
    (h : State.Reaches respond (.start m programs world) s) :
    view s.world = s.events.filterMap (Event.shown? shown) ++ view world := by
  induction h with
  | refl => rfl
  | @step u v turn hreach hstep ih =>
    cases State.puts_of_step hstep with
    | nothing new hworld hevents hnew =>
      have hnone : new.filterMap (Event.shown? shown) = [] := by
        refine List.filterMap_eq_nil_iff.mpr fun e he => ?_
        cases e with
        | asked => exact absurd (hnew _ he) (by simp [Event.isAsked])
        | _ => rfl
      rw [hworld, hevents, List.filterMap_append, hnone, List.nil_append, ih]
    | @program q next hdo hworld hevents =>
      have hkeeps := (Reaches.orderly hp hreach).keeps turn.thread _ ((u.core_doing? _).trans hdo)
      cases hkeeps with
      | ask hq _ => rw [hworld, hevents, hview, hquiet q _ hq, ih]; rfl
    | computation key q hworld hevents =>
      rw [hworld, hevents, hview, ih, List.filterMap_cons]
      cases hs : shown q (respond q u.world).1 with
      | none => simp only [Event.shown?, hs]; rfl
      | some x => simp only [Event.shown?, hs]; rfl

end PassContext.Machine
