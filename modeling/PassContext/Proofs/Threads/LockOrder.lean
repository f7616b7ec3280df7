/-
# Threads that lock in order

A thread waits while another one holds the lock that it needs, be it the lock of a cache or the one
of a slot.  While it waits it may hold slots itself, because a computation keeps its own slot locked
when it fetches other keys; so threads could wait for each other in a circle, and for ever.

They cannot if keys have ranks, and a computation fetches keys of lower ranks only
(`Job.Descends`).  Then a thread that waits for a slot has locked none but slots of higher ranks,
and a thread that has locked a cache waits for nothing.  So what threads wait for gets lower along
every chain of waiting threads (`InOrder.height_lt`), and at the end of the chain there is a
thread that can go on (`Reaches.live`).
-/
import Mathlib.Logic.Relation
import PassContext.Proofs.Threads.Soundness

namespace PassContext.Machine

variable {S : Service} {ρ σ : Type}

/-! ## 1. Ranks -/

section Descends

variable (rank : S.Key → Nat)

/-- A job that fetches keys of lower ranks only, and so do the jobs it fetches with. -/
inductive Job.Descends : {key : S.Key} → Job S key → Prop
  | finish {key : S.Key} (outcome : S.Outcome key) : Job.Descends (.finish outcome : Job S key)
  | ask {key : S.Key} {q : S.Query} {next : S.Answer q → Job S key}
      (hnext : ∀ a, Job.Descends (next a)) : Job.Descends (.ask q next)
  | fetch {key inner : S.Key} {init : Job S inner} {next : S.Outcome inner → Job S key}
      (hrank : rank inner < rank key) (hinit : Job.Descends init)
      (hnext : ∀ outcome, Job.Descends (next outcome)) : Job.Descends (.fetch inner init next)

/-- A program that fetches with such jobs. -/
inductive Program.Descends : Program S ρ → Prop
  | result (r : ρ) : Program.Descends (.result r)
  | ask {q : S.Query} {next : S.Answer q → Program S ρ} (hnext : ∀ a, Program.Descends (next a)) :
      Program.Descends (.ask q next)
  | get {key : S.Key} {next : Option (S.Value key) → Program S ρ}
      (hnext : ∀ v, Program.Descends (next v)) : Program.Descends (.get key next)
  | fetch {key : S.Key} {init : Job S key} {next : S.Outcome key → Program S ρ}
      (hinit : Job.Descends rank init) (hnext : ∀ outcome, Program.Descends (next outcome)) :
      Program.Descends (.fetch key init next)
  | count {cache : S.Cache} {next : Nat → Program S ρ} (hnext : ∀ n, Program.Descends (next n)) :
      Program.Descends (.count cache next)

/-- The computations of a stack wait for keys of lower ranks than their own. -/
def Stack.Descends : {key : S.Key} → Stack S ρ key → Prop
  | _, .caller next => ∀ outcome, Program.Descends rank (next outcome)
  | key, .computation outer _ next below =>
    rank key < rank outer ∧ (∀ outcome, Job.Descends rank (next outcome)) ∧ below.Descends

/-- What a thread does now and later goes down in rank. -/
def Activity.Descends : Activity S ρ → Prop
  | .running p | .departing _ _ p | .releasing _ p => Program.Descends rank p
  | .looking _ _ next | .reading _ _ next => ∀ v, Program.Descends rank (next v)
  | .counting _ _ _ _ next | .tallying _ _ _ _ _ _ next => ∀ n, Program.Descends rank (next n)
  | .wanting _ _ job stack | .entered _ _ job stack | .computing _ _ job stack =>
    Job.Descends rank job ∧ stack.Descends rank
  | .evicting _ _ _ stack | .leaving _ _ _ stack => stack.Descends rank

variable {rank}

/-- All slots of a stack have higher ranks than the key that it waits for. -/
theorem Stack.Descends.rank_lt :
    ∀ {key : S.Key} {stack : Stack S ρ key}, stack.Descends rank →
      ∀ r ∈ stack.slots, rank key < rank r.1
  | _, .caller _, _, r, hr => absurd hr List.not_mem_nil
  | _, .computation _ _ _ _, h, r, hr => by
    obtain ⟨hrank, -, hbelow⟩ := h
    rcases List.mem_cons.mp hr with rfl | hr
    · exact hrank
    · exact Nat.lt_trans hrank (Stack.Descends.rank_lt hbelow r hr)

theorem Move.descends {t : Nat} {s u : State S ρ Unit} {a a' : Activity S ρ}
    (h : Move t s a a' u) (ha : a.Descends rank) : a'.Descends rank := by
  cases h with
  | ask answer =>
    cases ha with
    | ask hnext => exact hnext answer
  | miss =>
    cases ha with
    | get hnext => exact hnext none
  | look =>
    cases ha with
    | get hnext => exact hnext
  | want =>
    cases ha with
    | fetch hinit hnext => exact ⟨hinit, hnext⟩
  | startCount =>
    cases ha with
    | count hnext => exact hnext
  | read => exact ha _
  | endCount => exact ha _
  | inquire answer =>
    obtain ⟨hjob, hstack⟩ := ha
    cases hjob with
    | ask hnext => exact ⟨hnext answer, hstack⟩
  | descend =>
    obtain ⟨hjob, hstack⟩ := ha
    cases hjob with
    | fetch hrank hinit hnext => exact ⟨hinit, hrank, hnext, hstack⟩
  | hit | succeed | fail => exact ha.2
  | returnOutcome => exact ha _
  | resume => exact ⟨ha.2.1 _, ha.2.2⟩
  | _ => exact ha

end Descends

/-! ## 2. Waiting -/

variable (S) in
/-- A lock: of a cache, or of a slot. -/
inductive Lock
  | cache (cache : S.Cache)
  | slot (key : S.Key) (slot : Nat)

/-- The slot that a thread is about to lock. -/
def Activity.slot? : Activity S ρ → Option (SlotRef S)
  | .looking key slot _ | .wanting key slot _ _ => some (key, slot)
  | .counting _ todo _ _ _ => todo.head?
  | _ => none

/-- The lock that a thread needs for its next step and does not hold. -/
def Thread.needs? (th : Thread S ρ) : Option (Lock S) :=
  match th.activity.cache? with
  | some cache => if th.inCache then none else some (.cache cache)
  | none => th.activity.slot?.map fun r => .slot r.1 r.2

namespace State

variable (s : State S ρ σ)

/-- The thread that holds a lock. -/
def lockHolder : Lock S → Option Nat
  | .cache cache => s.cacheHolder cache
  | .slot key slot => s.holder key slot

/-- The lock that a thread needs, if there is such a thread. -/
def needs? (t : Nat) : Option (Lock S) := (s.threads[t]?).bind Thread.needs?

/-- One thread needs a lock that another one holds. -/
def WaitsFor (t t' : Nat) : Prop := ∃ lock, s.needs? t = some lock ∧ s.lockHolder lock = some t'

/-- A thread has not come to its result. -/
def Unfinished (t : Nat) : Prop := ∃ a, s.doing? t = some a ∧ a.result? = none

variable {s} {respond : S.Respond σ} {order : Order S} {turn : Turn S} {t : Nat}
  {a : Activity S ρ}

theorem lock_isSome_iff {key : S.Key} {slot : Nat} {b : Activity S ρ} :
    (s.lock t key slot b).isSome ↔ s.holder key slot = none := by
  unfold lock
  cases s.holder key slot <;> simp

/-- Acting fails at the lock of a slot only, and at the end of a program. -/
theorem act_isSome_iff (ha : a.result? = none) : (s.act respond order t a).isSome ↔
    ∀ r, a.slot? = some r → s.holder r.1 r.2 = none := by
  have hlock : ∀ {key slot} {b : Activity S ρ}, (s.lock t key slot b).isSome ↔
      ∀ r, some (key, slot) = some r → s.holder r.1 r.2 = none := by
    simp [lock_isSome_iff]
  cases a with
  | running p =>
    cases p with
    | result r => exact absurd ha (by simp [Activity.result?])
    | get key next => cases h : s.current key <;> simp [act, h, Activity.slot?]
    | ask | fetch | count => simp [act, Activity.slot?]
  | looking | wanting => exact hlock
  | counting cache todo done n next =>
    cases todo with
    | nil => simp [act, Activity.slot?]
    | cons r todo => exact hlock
  | entered key slot init stack => cases h : s.value key slot <;> simp [act, h, Activity.slot?]
  | releasing done p => cases done <;> simp [act, Activity.slot?]
  | computing key slot job stack =>
    cases job with
    | finish outcome => cases outcome <;> simp [act, Activity.slot?]
    | ask | fetch => simp [act, Activity.slot?]
  | reading | departing | tallying | evicting | leaving => simp [act, Activity.slot?]

/-- What acts in a cache locks no slot. -/
theorem slot?_of_cache? {cache : S.Cache} (h : a.cache? = some cache) : a.slot? = none := by
  cases a with
  | looking | wanting | counting => exact absurd h (by simp [Activity.cache?])
  | _ => rfl

/-- **A thread takes its next step unless it waits for another one.** -/
theorem step_isSome_iff (h : s.Unfinished turn.thread) :
    (s.step respond turn).isSome ↔ ∀ t', ¬s.WaitsFor turn.thread t' := by
  obtain ⟨t, order⟩ := turn
  obtain ⟨a, hdo, hresult⟩ := h
  obtain ⟨th, hth, rfl⟩ := threads_of_doing? hdo
  have hneeds : s.needs? t = th.needs? := by
    rw [needs?, hth]
    rfl
  simp only [step, hth, WaitsFor, hneeds, Thread.needs?]
  cases hc : th.activity.cache? with
  | none =>
    simp only [act_isSome_iff hresult]
    constructor
    · rintro hfree t' ⟨lock, hlock, hholder⟩
      obtain ⟨r, hr, rfl⟩ := Option.map_eq_some_iff.mp hlock
      exact absurd ((hfree r hr).symm.trans hholder) (by simp)
    · intro hwait r hr
      cases hholder : s.holder r.1 r.2 with
      | none => rfl
      | some t' => exact absurd ⟨.slot r.1 r.2, by rw [hr]; rfl, hholder⟩ (hwait t')
  | some cache =>
    by_cases hin : th.inCache
    · simp [hin, act_isSome_iff hresult, slot?_of_cache? hc]
    · cases hholder : s.cacheHolder cache with
      | none => simp [hin, hholder, lockHolder]
      | some t' => simp [hin, hholder, lockHolder]

end State

/-! ## 3. Who holds a lock -/

namespace State

variable {s s' : State S ρ σ} {respond : S.Respond σ} {order : Order S} {turn : Turn S} {t : Nat}
  {a : Activity S ρ}

/-- Acting is to go on to another activity, and touches no other thread and no lock of a cache. -/
theorem become_of_act (h : s.act respond order t a = some s') :
    ∃ (u : State S ρ σ) (b : Activity S ρ),
      s' = u.become t b ∧ u.threads = s.threads ∧ u.cacheHolder = s.cacheHolder := by
  have hlock : ∀ {key slot} {b : Activity S ρ}, s.lock t key slot b = some s' →
      ∃ (u : State S ρ σ) (b : Activity S ρ),
        s' = u.become t b ∧ u.threads = s.threads ∧ u.cacheHolder = s.cacheHolder :=
    fun h => ⟨_, _, (lock_eq_some h).2, rfl, rfl⟩
  have hslotFor : ∀ key, (s.slotFor key).2.cacheHolder = s.cacheHolder := by
    intro key
    unfold slotFor
    cases s.current key <;> rfl
  cases a with
  | running p =>
    cases p with
    | result r => simp [act] at h
    | get key next =>
      simp only [act] at h
      cases hc : s.current key <;> simp only [hc, Option.some.injEq] at h <;>
        exact ⟨_, _, h.symm, rfl, rfl⟩
    | fetch key init next =>
      exact ⟨_, _, (Option.some.inj h).symm, s.slotFor_threads key, hslotFor key⟩
    | ask | count => exact ⟨_, _, (Option.some.inj h).symm, rfl, rfl⟩
  | looking | wanting => exact hlock h
  | counting cache todo done n next =>
    cases todo with
    | nil => exact ⟨_, _, (Option.some.inj h).symm, rfl, rfl⟩
    | cons r todo => exact hlock h
  | releasing done p => cases done <;> exact ⟨_, _, (Option.some.inj h).symm, rfl, rfl⟩
  | entered key slot init stack =>
    simp only [act] at h
    cases hv : s.value key slot <;> simp only [hv, Option.some.injEq] at h <;>
      exact ⟨_, _, h.symm, rfl, rfl⟩
  | computing key slot job stack =>
    cases job with
    | finish outcome => cases outcome <;> exact ⟨_, _, (Option.some.inj h).symm, rfl, rfl⟩
    | ask => exact ⟨_, _, (Option.some.inj h).symm, rfl, rfl⟩
    | fetch inner init next =>
      exact ⟨_, _, (Option.some.inj h).symm, s.slotFor_threads inner, hslotFor inner⟩
  | evicting =>
    refine ⟨_, _, (Option.some.inj h).symm, ?_, ?_⟩
    · split <;> rfl
    · split <;> rfl
  | leaving key slot outcome stack =>
    cases stack <;> exact ⟨_, _, (Option.some.inj h).symm, rfl, rfl⟩
  | reading | departing | tallying => exact ⟨_, _, (Option.some.inj h).symm, rfl, rfl⟩

/-- Whoever holds the lock of a cache is about to act in it. -/
def CachesHeld (s : State S ρ σ) : Prop :=
  ∀ cache t, s.cacheHolder cache = some t →
    ∃ th, s.threads[t]? = some th ∧ th.inCache = true ∧ th.activity.cache? = some cache

/-- A thread that goes on takes the lock of no cache from another one. -/
theorem CachesHeld.set {th : Thread S ρ} {cache : S.Cache} {t' : Nat} (hs : s.CachesHeld)
    (hth : s.threads[t]? = some th) (hother : th.activity.cache? ≠ some cache)
    (hheld : s.cacheHolder cache = some t') (new : Thread S ρ) :
    ∃ th', (s.threads.set t new)[t']? = some th' ∧ th'.inCache = true ∧
      th'.activity.cache? = some cache := by
  obtain ⟨th', hth', hin, hcache⟩ := hs cache t' hheld
  have hne : t ≠ t' := by
    rintro rfl
    obtain rfl := Option.some.inj (hth.symm.trans hth')
    exact hother hcache
  exact ⟨th', by rw [List.getElem?_set_ne hne, hth'], hin, hcache⟩

theorem CachesHeld.step (hs : s.CachesHeld) (h : s.step respond turn = some s') :
    s'.CachesHeld := by
  obtain ⟨t, order⟩ := turn
  unfold State.step at h
  cases hth : s.threads[t]? with
  | none => simp [hth] at h
  | some th =>
    simp only [hth] at h
    intro cache' t' hheld
    cases hc : th.activity.cache? with
    | none =>
      simp only [hc] at h
      obtain ⟨u, b, rfl, hthreads, hholder⟩ := become_of_act h
      have hother : th.activity.cache? ≠ some cache' := by simp [hc]
      have hmem := hs.set hth hother ((congrFun hholder cache').symm.trans hheld) ⟨b, false⟩
      rw [← hthreads] at hmem
      exact hmem
    | some cache =>
      simp only [hc] at h
      by_cases hin : th.inCache
      · rw [if_pos hin, Option.map_eq_some_iff] at h
        obtain ⟨v, hv, rfl⟩ := h
        obtain ⟨u, b, rfl, hthreads, hholder⟩ := become_of_act hv
        -- the lock that was given back has no holder
        have hne : cache' ≠ cache := fun heq => by simp [setCacheHolder, heq] at hheld
        have hother : th.activity.cache? ≠ some cache' := by simp [hc, Ne.symm hne]
        rw [setCacheHolder] at hheld
        have hkept : s.cacheHolder cache' = some t' :=
          (congrFun hholder cache').symm.trans ((if_neg hne).symm.trans hheld)
        have hmem := hs.set hth hother hkept ⟨b, false⟩
        rw [← hthreads] at hmem
        exact hmem
      · rw [if_neg hin] at h
        cases hfree : s.cacheHolder cache with
        | some u => simp [hfree] at h
        | none =>
          simp only [hfree, Option.some.injEq] at h
          subst h
          by_cases heq : cache' = cache
          · subst heq
            obtain rfl : t = t' := Option.some.inj ((if_pos rfl).symm.trans hheld)
            obtain ⟨hlt, -⟩ := List.getElem?_eq_some_iff.mp hth
            exact ⟨{ th with inCache := true }, List.getElem?_set_self hlt, rfl, hc⟩
          · have hother : th.activity.cache? ≠ some cache' := by simp [hc, Ne.symm heq]
            exact hs.set hth hother ((if_neg heq).symm.trans hheld) _

end State

/-- **In every reachable state, the locks of caches are held by threads that act in them.** -/
theorem Reaches.cachesHeld {respond : S.Respond σ} {m : S.Caches} {programs : List (Program S ρ)}
    {world : σ} {s : State S ρ σ} (h : State.Reaches respond (.start m programs world) s) :
    s.CachesHeld := by
  induction h with
  | refl => exact fun cache t hheld => absurd hheld (by simp [State.start])
  | step _ hstep ih => exact ih.step hstep

/-- The holder of a slot's lock knows that he has locked it. -/
theorem Sound.exists_of_holder {s : State S ρ σ} (hs : Sound s.core) {key : S.Key} {slot t : Nat}
    (h : s.holder key slot = some t) :
    ∃ th, s.threads[t]? = some th ∧ (key, slot) ∈ th.activity.locked := by
  have hcount := hs.locks t key slot
  rw [State.core_holder, if_pos h] at hcount
  have hmem : (key, slot) ∈ s.core.lockedBy t := List.count_pos_iff.mp (by omega)
  cases hdo : s.core.doing? t with
  | none =>
    rw [State.lockedBy, hdo] at hmem
    exact absurd hmem List.not_mem_nil
  | some a =>
    rw [State.lockedBy_of_doing? hdo] at hmem
    rw [State.core_doing?] at hdo
    obtain ⟨th, hth, rfl⟩ := State.threads_of_doing? hdo
    exact ⟨th, hth, hmem⟩

/-! ## 4. Nobody waits in a circle -/

section Order

variable (rank : S.Key → Nat)

/-- Slots stand above each other by the ranks of their keys, and caches below all slots. -/
def Lock.height : Lock S → Nat
  | .cache _ => 1
  | .slot key _ => rank key + 2

/-- The height of the lock that a thread needs. -/
def State.height (s : State S ρ σ) (t : Nat) : Nat := ((s.needs? t).map (Lock.height rank)).getD 0

variable {rank} {respond : S.Respond σ} {m : S.Caches} {programs : List (Program S ρ)} {world : σ}
variable {s : State S ρ σ} {t t' : Nat}

/-- A thread needs no lock that stands as high as one of the slots it has locked. -/
theorem Activity.Descends.height_lt {th : Thread S ρ} (h : th.activity.Descends rank)
    {r : SlotRef S} (hr : r ∈ th.activity.locked) {lock : Lock S} (hlock : th.needs? = some lock) :
    lock.height rank < rank r.1 + 2 := by
  obtain ⟨a, inCache⟩ := th
  unfold Thread.needs? at hlock
  cases hc : a.cache? with
  | some cache =>
    simp only [hc] at hlock
    split at hlock
    · exact absurd hlock (by simp)
    · obtain rfl := Option.some.inj hlock
      simp [Lock.height]
  | none =>
    simp only [hc] at hlock
    obtain ⟨r', hr', rfl⟩ := Option.map_eq_some_iff.mp hlock
    cases a with
    | wanting key slot init stack =>
      obtain rfl := Option.some.inj hr'
      have hrank := h.2.rank_lt r hr
      simp only [Lock.height]
      omega
    | looking | counting => exact absurd hr List.not_mem_nil
    | _ => exact absurd hr' (by simp [Activity.slot?])

/-- What is known of a state that threads reach whose programs descend. -/
structure InOrder (rank : S.Key → Nat) (s : State S ρ σ) : Prop where
  sound : Sound s.core
  descends : ∀ t a, s.doing? t = some a → a.Descends rank
  caches : s.CachesHeld

theorem Reaches.inOrder (hp : ∀ p ∈ programs, Program.Descends rank p)
    (h : State.Reaches respond (.start m programs world) s) : InOrder rank s where
  sound := Reaches.sound h
  caches := Reaches.cachesHeld h
  descends := by
    have hcore : ∀ t a, s.core.doing? t = some a → a.Descends rank := by
      refine Reaches.core_induction (P := fun v => ∀ t a, v.doing? t = some a → a.Descends rank) h
        ?_ ?_
      · intro t a ha
        obtain ⟨p, hmem, rfl⟩ := doing?_start ha
        exact hp p hmem
      · intro t v a a' u ih ha hm t' b hb
        rcases hm.doing_cases ha hb with ⟨-, rfl⟩ | ⟨-, hb⟩
        · exact hm.descends (ih t a ha)
        · exact ih t' b hb
    intro t a ha
    exact hcore t a ((s.core_doing? t).trans ha)

/-- A thread that holds a lock has not come to its result, and needs a lower lock or none. -/
theorem InOrder.of_lockHolder (hs : InOrder rank s) {lock : Lock S}
    (h : s.lockHolder lock = some t) : s.Unfinished t ∧ s.height rank t < lock.height rank := by
  cases lock with
  | cache cache =>
    obtain ⟨⟨a, inCache⟩, hth, hin, hcache⟩ := hs.caches cache t h
    refine ⟨⟨a, by rw [State.doing?, hth]; rfl, ?_⟩, ?_⟩
    · cases a with
      | running p =>
        cases p with
        | result r => exact absurd hcache (by simp [Activity.cache?])
        | _ => rfl
      | _ => rfl
    · have hneeds : s.needs? t = none := by
        rw [State.needs?, hth]
        simp only [Option.bind_some, Thread.needs?, hcache, if_pos hin]
      rw [State.height, hneeds]
      exact Nat.one_pos
  | slot key slot =>
    obtain ⟨th, hth, hlocked⟩ := hs.sound.exists_of_holder h
    have hdo : s.doing? t = some th.activity := by
      rw [State.doing?, hth]
      rfl
    refine ⟨⟨th.activity, hdo, ?_⟩, ?_⟩
    · cases ha : th.activity with
      | running p =>
        rw [ha] at hlocked
        exact absurd hlocked List.not_mem_nil
      | _ => rfl
    · rw [State.height]
      cases hneeds : s.needs? t with
      | none => exact Nat.succ_pos _
      | some lock =>
        rw [State.needs?, hth] at hneeds
        exact (hs.descends t _ hdo).height_lt hlocked hneeds

theorem InOrder.of_waitsFor (hs : InOrder rank s) (h : s.WaitsFor t t') :
    s.Unfinished t' ∧ s.height rank t' < s.height rank t := by
  obtain ⟨lock, hneeds, hholder⟩ := h
  have hheight : s.height rank t = lock.height rank := by
    rw [State.height, hneeds]
    rfl
  rw [hheight]
  exact hs.of_lockHolder hholder

/-- **What threads wait for gets lower along a chain of waiting threads.** -/
theorem InOrder.height_lt (hs : InOrder rank s) (h : Relation.TransGen s.WaitsFor t t') :
    s.height rank t' < s.height rank t := by
  induction h with
  | single hwait => exact (hs.of_waitsFor hwait).2
  | tail _ hwait ih => exact Nat.lt_trans (hs.of_waitsFor hwait).2 ih

/-- What it means that threads cannot stop each other for ever. -/
structure Live (respond : S.Respond σ) (s : State S ρ σ) : Prop where
  /-- Nothing but a lock that another thread holds keeps a thread from its next step. -/
  steps : ∀ turn : Turn S, s.Unfinished turn.thread →
    ((s.step respond turn).isSome ↔ ∀ t', ¬s.WaitsFor turn.thread t')
  /-- A thread that waits does so, in the end, for one that can take a step. -/
  progress : ∀ t, s.Unfinished t → ∃ t', Relation.ReflTransGen s.WaitsFor t t' ∧
    s.Unfinished t' ∧ ∀ order, (s.step respond ⟨t', order⟩).isSome
  /-- No threads wait for each other in a circle. -/
  acyclic : ∀ t, ¬Relation.TransGen s.WaitsFor t t

/-- **Threads whose programs descend are live in every state that they reach.** -/
theorem Reaches.live (hp : ∀ p ∈ programs, Program.Descends rank p)
    (h : State.Reaches respond (.start m programs world) s) : Live respond s := by
  have hs : InOrder rank s := Reaches.inOrder hp h
  refine ⟨fun turn => State.step_isSome_iff, fun t ht => ?_, fun t hcircle => ?_⟩
  · -- on the height of what the thread waits for
    induction hn : s.height rank t using Nat.strongRecOn generalizing t with
    | ind n ih =>
      by_cases hwait : ∃ t', s.WaitsFor t t'
      · obtain ⟨t', hwait⟩ := hwait
        obtain ⟨ht', hlt⟩ := hs.of_waitsFor hwait
        obtain ⟨t'', hchain, hend⟩ := ih _ (hn ▸ hlt) t' ht' rfl
        exact ⟨t'', hchain.head hwait, hend⟩
      · refine ⟨t, .refl, ht, fun order => ?_⟩
        rw [State.step_isSome_iff ht]
        exact not_exists.mp hwait
  · exact Nat.lt_irrefl _ (hs.height_lt hcircle)

end Order

end PassContext.Machine
