/-
# Work that is done once

Single flight says that a key is given its value once.  It does not say that the outside world is
bothered no more: a computation may ask several questions, and only the answer to one of them
decides whether it succeeds.  A `Discipline` names the questions that do work outside and the
answers that settle the value of a key.  A job keeps to it if it is sure to succeed behind a
settling answer, whatever it is told and without any more of that work.

For threads whose programs keep to a discipline, `Reaches.orderly` says that behind a settling
answer for a key no question that does work is asked for this key again, in any run.  Between the
answer and the moment when the value is in its slot, the reason is that the job still has the slot
locked; from then on, that the slot is not empty any more.
-/
import PassContext.Proofs.Threads.Soundness

namespace PassContext.Machine

/-! ## 1. Disciplines -/

/-- What the computations of a service keep to. -/
structure Discipline (S : Service) where
  /-- Questions that do work outside. -/
  Tries : S.Query → Prop
  /-- Questions that a computation for a key may ask. -/
  Permits : S.Key → S.Query → Prop
  /-- Answers behind which a computation for a key is sure to succeed. -/
  Settles : S.Key → (q : S.Query) → S.Answer q → Prop

variable {S : Service} {ρ σ : Type}

/-- A job that succeeds whatever it is answered, and does no more work outside. -/
inductive Sure (d : Discipline S) : {key : S.Key} → Job S key → Prop
  | finish (key : S.Key) (v : S.Value key) : Sure d (.finish (.ok v) : Job S key)
  | ask {key : S.Key} {q : S.Query} {next : S.Answer q → Job S key} (hq : ¬ d.Tries q)
      (hnext : ∀ a, Sure d (next a)) : Sure d (.ask q next)

/-- A job that keeps to a discipline, and so do those it fetches with. -/
inductive Job.Keeps (d : Discipline S) : {key : S.Key} → Job S key → Prop
  | finish {key : S.Key} (outcome : S.Outcome key) : Job.Keeps d (.finish outcome : Job S key)
  | ask {key : S.Key} {q : S.Query} {next : S.Answer q → Job S key} (hq : d.Permits key q)
      (hsure : ∀ a, d.Settles key q a → Sure d (next a)) (hnext : ∀ a, Job.Keeps d (next a)) :
      Job.Keeps d (.ask q next)
  | fetch {key inner : S.Key} {init : Job S inner} {next : S.Outcome inner → Job S key}
      (hinit : Job.Keeps d init) (hnext : ∀ outcome, Job.Keeps d (next outcome)) :
      Job.Keeps d (.fetch inner init next)

/-- A program that does no work outside, except by jobs that keep to a discipline. -/
inductive Program.Keeps (d : Discipline S) : Program S ρ → Prop
  | result (r : ρ) : Program.Keeps d (.result r)
  | ask {q : S.Query} {next : S.Answer q → Program S ρ} (hq : ¬ d.Tries q)
      (hnext : ∀ a, Program.Keeps d (next a)) : Program.Keeps d (.ask q next)
  | get {key : S.Key} {next : Option (S.Value key) → Program S ρ}
      (hnext : ∀ v, Program.Keeps d (next v)) : Program.Keeps d (.get key next)
  | fetch {key : S.Key} {init : Job S key} {next : S.Outcome key → Program S ρ}
      (hinit : Job.Keeps d init) (hnext : ∀ outcome, Program.Keeps d (next outcome)) :
      Program.Keeps d (.fetch key init next)
  | count {cache : S.Cache} {next : Nat → Program S ρ} (hnext : ∀ n, Program.Keeps d (next n)) :
      Program.Keeps d (.count cache next)

/-- Whoever waits in a stack keeps to the discipline, whatever outcome he gets. -/
def Stack.Keeps (d : Discipline S) : {key : S.Key} → Stack S ρ key → Prop
  | _, .caller next => ∀ outcome, Program.Keeps d (next outcome)
  | _, .computation _ _ next below => (∀ outcome, Job.Keeps d (next outcome)) ∧ below.Keeps d

/-- What a thread does now and later keeps to the discipline. -/
def Activity.Keeps (d : Discipline S) : Activity S ρ → Prop
  | .running p | .departing _ _ p | .releasing _ p => Program.Keeps d p
  | .looking _ _ next | .reading _ _ next => ∀ v, Program.Keeps d (next v)
  | .counting _ _ _ _ next | .tallying _ _ _ _ _ _ next => ∀ n, Program.Keeps d (next n)
  | .wanting _ _ job stack | .entered _ _ job stack | .computing _ _ job stack =>
    Job.Keeps d job ∧ stack.Keeps d
  | .evicting _ _ _ stack | .leaving _ _ _ stack => stack.Keeps d

/-! ## 2. Questions in a run -/

namespace Event

/-- Whether a computation asked the outside world. -/
def isAsked : Event S → Bool
  | .asked .. => true
  | _ => false

/-- A question that a computation for a key asked, and that does work outside. -/
def Tries (d : Discipline S) (key : S.Key) : Event S → Prop
  | .asked _ k q _ => k = key ∧ d.Tries q
  | _ => False

/-- An answer that settled the value of a key. -/
def Settles (d : Discipline S) (key : S.Key) : Event S → Prop
  | .asked _ k q a => k = key ∧ d.Settles k q a
  | _ => False

/-- A question that the computation could ask. -/
def Permitted (d : Discipline S) : Event S → Prop
  | .asked _ k q _ => d.Permits k q
  | _ => True

theorem not_tries_of_not_isAsked {d : Discipline S} {key : S.Key} {e : Event S}
    (h : e.isAsked = false) : ¬ e.Tries d key := by
  cases e with
  | asked => exact absurd h (by simp [isAsked])
  | _ => exact id

theorem not_settles_of_not_isAsked {d : Discipline S} {key : S.Key} {e : Event S}
    (h : e.isAsked = false) : ¬ e.Settles d key := by
  cases e with
  | asked => exact absurd h (by simp [isAsked])
  | _ => exact id

theorem permitted_of_not_isAsked {d : Discipline S} {e : Event S} (h : e.isAsked = false) :
    e.Permitted d := by
  cases e with
  | asked => exact absurd h (by simp [isAsked])
  | _ => exact trivial

end Event

/-- **The invariant of disciplined threads.** -/
structure Orderly (d : Discipline S) (s : State S ρ Unit) : Prop where
  keeps : ∀ t a, s.doing? t = some a → a.Keeps d
  permitted : ∀ e ∈ s.events, e.Permitted d
  /-- A key whose value is settled has it, or is going to get it from a job that is sure. -/
  settled : ∀ e ∈ s.events, ∀ key, e.Settles d key → (∃ slot v, s.value key slot = some v) ∨
    ∃ t slot job stack, s.doing? t = some (.computing key slot job stack) ∧ Sure d job
  /-- Behind an answer that settles a key, no work is done for it. -/
  once : s.events.Pairwise fun later earlier => ∀ key, earlier.Settles d key → ¬ later.Tries d key

/-! ## 3. Every move keeps the discipline -/

section Move

variable {d : Discipline S} {t : Nat} {s u : State S ρ Unit} {a a' : Activity S ρ}

theorem Move.keeps (h : Move t s a a' u) (ha : a.Keeps d) : a'.Keeps d := by
  cases h with
  | ask answer =>
    cases ha with
    | ask _ hnext => exact hnext answer
  | miss =>
    cases ha with
    | get hnext => exact hnext none
  | look =>
    cases ha with
    | get hnext => exact hnext
  | want =>
    cases ha with
    | fetch hinit hnext => exact ⟨hinit, hnext⟩
  | startCount =>
    cases ha with
    | count hnext => exact hnext
  | read => exact ha _
  | endCount => exact ha _
  | inquire answer =>
    obtain ⟨hjob, hstack⟩ := ha
    cases hjob with
    | ask _ _ hnext => exact ⟨hnext answer, hstack⟩
  | descend =>
    obtain ⟨hjob, hstack⟩ := ha
    cases hjob with
    | fetch hinit hnext => exact ⟨hinit, hnext, hstack⟩
  | hit | succeed | fail => exact ha.2
  | returnOutcome => exact ha _
  | resume => exact ⟨ha.1 _, ha.2⟩
  | _ => exact ha

/-- A move adds a question to the events, or nothing that is one. -/
theorem Move.asked (h : Move t s a a' u) :
    (∃ new, u.events = new ++ s.events ∧ ∀ e ∈ new, e.isAsked = false) ∨
    ∃ key slot q next stack answer, a = .computing key slot (.ask q next) stack ∧
      a' = .computing key slot (next answer) stack ∧
      u.events = .asked t key q answer :: s.events := by
  cases h with
  | inquire answer => exact Or.inr ⟨_, _, _, _, _, answer, rfl, rfl, rfl⟩
  | want => exact Or.inl ⟨[], s.slotFor_events _, by simp⟩
  | descend => exact Or.inl ⟨[], s.slotFor_events _, by simp⟩
  | miss | read | endCount | begin | succeed | fail | returnOutcome | resume =>
    exact Or.inl ⟨[_], rfl, by simp [Event.isAsked]⟩
  | _ => exact Or.inl ⟨[], rfl, by simp⟩

/-- A job that is sure goes on to be sure, until its value is in the slot. -/
theorem Move.sure {key : S.Key} {slot : Nat} {job : Job S key} {stack : Stack S ρ key}
    (h : Move t s (.computing key slot job stack) a' u) (hjob : Sure d job) :
    (∃ v, u.value key slot = some v) ∨
      ∃ job', a' = .computing key slot job' stack ∧ Sure d job' := by
  cases h with
  | succeed => exact Or.inl ⟨_, State.setValue_self ..⟩
  | fail => cases hjob
  | inquire answer =>
    cases hjob with
    | ask _ hnext => exact Or.inr ⟨_, rfl, hnext answer⟩
  | descend => cases hjob

/-- What settled a key stays so. -/
theorem Orderly.settled_move (ho : Orderly d s) (hs : Sound s) (ha : s.doing? t = some a)
    (h : Move t s a a' u) {e : Event S} (he : e ∈ s.events) {key : S.Key}
    (hkey : e.Settles d key) : (∃ slot v, (u.become t a').value key slot = some v) ∨
      ∃ t' slot job stack,
        (u.become t a').doing? t' = some (.computing key slot job stack) ∧ Sure d job := by
  rcases ho.settled e he key hkey with ⟨slot, v, hv⟩ | ⟨t', slot, job, stack, hdo, hsure⟩
  · exact Or.inl ⟨slot, v, hs.value_move ha h hv⟩
  · by_cases ht : t' = t
    · subst ht
      obtain rfl := Option.some.inj (ha.symm.trans hdo)
      rcases h.sure hsure with ⟨v, hv⟩ | ⟨job', rfl, hsure'⟩
      · exact Or.inl ⟨slot, v, hv⟩
      · exact Or.inr ⟨t', slot, job', stack, h.doing?_self ha, hsure'⟩
    · exact Or.inr ⟨t', slot, job, stack, (h.doing?_of_ne ht).trans hdo, hsure⟩

/-- **No work is done for a key that is settled**: its value would be in the slot that the thread
has found empty, or the thread would be carrying out a job that is sure. -/
theorem Orderly.not_settled (ho : Orderly d s) (hs : Sound s) {key : S.Key} {slot : Nat}
    {q : S.Query} {next : S.Answer q → Job S key} {stack : Stack S ρ key}
    (ha : s.doing? t = some (.computing key slot (.ask q next) stack)) (hq : d.Tries q)
    {e : Event S} (he : e ∈ s.events) : ¬ e.Settles d key := by
  intro hkey
  have hmem : (key, slot) ∈ (Activity.computing key slot (.ask q next) stack).computations :=
    List.mem_cons_self
  rcases ho.settled e he key hkey with ⟨n, v, hv⟩ | ⟨t', n, job, stack', hdo, hsure⟩
  · have hcur := hs.current_of_computation ha hmem
    obtain rfl : slot = n := Option.some.inj (hcur.symm.trans (hs.filled key n v hv))
    exact absurd (hv.symm.trans (hs.vacant t _ ha _ hmem)) (by simp)
  · have hmem' : (key, n) ∈ (Activity.computing key n job stack').computations :=
      List.mem_cons_self
    obtain rfl := hs.eq_of_computation hdo ha hmem' hmem rfl
    have hsame := Option.some.inj (ha.symm.trans hdo)
    injection hsame with _ _ hjob _
    subst hjob
    cases hsure with
    | ask hno _ => exact hno hq

/-- **Every move keeps disciplined threads in order.** -/
theorem Orderly.move (ho : Orderly d s) (hs : Sound s) (ha : s.doing? t = some a)
    (h : Move t s a a' u) : Orderly d (u.become t a') := by
  have hkeeps : ∀ t' b, (u.become t a').doing? t' = some b → b.Keeps d := by
    intro t' b hb
    rcases h.doing_cases ha hb with ⟨rfl, rfl⟩ | ⟨-, hb⟩
    · exact h.keeps (ho.keeps t' a ha)
    · exact ho.keeps t' b hb
  rcases h.asked with ⟨new, hnew, hno⟩ | ⟨key, slot, q, next, stack, answer, rfl, rfl, hnew⟩
  · refine ⟨hkeeps, fun e he => ?_, fun e he key hkey => ?_, ?_⟩
    · replace he : e ∈ u.events := he
      rw [hnew, List.mem_append] at he
      exact he.elim (fun he => Event.permitted_of_not_isAsked (hno e he)) (ho.permitted e)
    · replace he : e ∈ u.events := he
      rw [hnew, List.mem_append] at he
      rcases he with he | he
      · exact absurd hkey (Event.not_settles_of_not_isAsked (hno e he))
      · exact ho.settled_move hs ha h he hkey
    · show u.events.Pairwise _
      rw [hnew, List.pairwise_append]
      exact ⟨List.pairwise_of_forall_mem_list fun e he _ _ _ _ =>
          Event.not_tries_of_not_isAsked (hno e he), ho.once,
        fun e he _ _ _ _ => Event.not_tries_of_not_isAsked (hno e he)⟩
  · obtain ⟨hjob, -⟩ := ho.keeps t _ ha
    cases hjob with
    | ask hpermit hsure _ =>
      refine ⟨hkeeps, fun e he => ?_, fun e he k hk => ?_, ?_⟩
      · replace he : e ∈ u.events := he
        rw [hnew] at he
        rcases List.mem_cons.mp he with rfl | he
        · exact hpermit
        · exact ho.permitted e he
      · replace he : e ∈ u.events := he
        rw [hnew] at he
        rcases List.mem_cons.mp he with rfl | he
        · obtain ⟨rfl, hsettles⟩ := hk
          exact Or.inr ⟨t, slot, _, stack, h.doing?_self ha, hsure answer hsettles⟩
        · exact ho.settled_move hs ha h he hk
      · show u.events.Pairwise _
        rw [hnew, List.pairwise_cons]
        refine ⟨fun e he k hk htries => ?_, ho.once⟩
        obtain ⟨rfl, hq⟩ := htries
        exact ho.not_settled hs ha hq he hk

end Move

/-! ## 4. Whole runs -/

theorem orderly_start {d : Discipline S} {m : S.Caches} {programs : List (Program S ρ)}
    (h : ∀ p ∈ programs, Program.Keeps d p) (world : σ) :
    Orderly d (State.start m programs world).core where
  keeps := by
    intro t a ha
    obtain ⟨p, hp, rfl⟩ := doing?_start ha
    exact h p hp
  permitted := by
    intro e he
    exact absurd he List.not_mem_nil
  settled := by
    intro e he
    exact absurd he List.not_mem_nil
  once := List.Pairwise.nil

/-- **Threads that keep to a discipline are in order in every state that they reach.** -/
theorem Reaches.orderly {d : Discipline S} {respond : S.Respond σ} {m : S.Caches}
    {programs : List (Program S ρ)} {world : σ} {s : State S ρ σ}
    (hp : ∀ p ∈ programs, Program.Keeps d p)
    (h : State.Reaches respond (.start m programs world) s) : Orderly d s.core :=
  (Reaches.core_induction (P := fun v => Sound v ∧ Orderly d v) h
    ⟨sound_start m programs world, orderly_start hp world⟩
    fun hi ha hm => ⟨hi.1.move ha hm, hi.2.move hi.1 ha hm⟩).2

end PassContext.Machine
