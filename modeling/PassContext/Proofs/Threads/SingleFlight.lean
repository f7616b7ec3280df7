/-
# Single flight

What the calls on a key can see of each other is in the events of a run.  Three facts describe it,
for any number of threads, any programs and any interleaving.

* The computations of a key take turns: between two beginnings there is an end, by the thread that
  began (`TakeTurns`).  A thread is computing the key exactly when it is its turn.
* A key has one value at most: that of the caches at the start, or that of the one computation
  which succeeded.
* Each event keeps to the law of `Follows`.  Once a key has its value, no computation for it
  begins, asks or ends any more, and no look finds nothing.  A call returns that value, or else
  the failure of a computation of its own, which was the last thing it did.

The main statement is `singleFlight`.  It does not ask that computations leave the caches alone:
they may fetch other keys, and while they wait for these their own slot stays locked.
-/
import PassContext.Memo.Race
import PassContext.Proofs.Threads.Soundness

namespace PassContext.Machine

variable {S : Service} {ρ σ : Type}

/-! ## 1. What is said about a run -/

/-- A key has a value: it had it at the start, or a computation for it succeeded. -/
def HasValue (m : S.Caches) (events : List (Event S)) (key : S.Key) (v : S.Value key) : Prop :=
  m.get? key = some v ∨ ∃ t, .ended t key (.ok v) ∈ events

namespace Event

/-- Whether an event is the beginning or the end of a computation for a key. -/
def isComputation (key : S.Key) : Event S → Bool
  | .began _ k | .ended _ k _ => k = key
  | _ => false

/-- Whether an event is part of a call of a thread on a key: that its computation begins or ends,
or that it returns. -/
def isOfCall (t : Nat) (key : S.Key) : Event S → Bool
  | .began t' k | .ended t' k _ | .fetched t' k _ | .found t' k _ => t' = t ∧ k = key
  | _ => false

end Event

/-- The computations of a key take turns.  The thread whose turn it is comes with the events, the
latest first. -/
inductive TakeTurns (key : S.Key) : Option Nat → List (Event S) → Prop
  | start : TakeTurns key none []
  | began {es : List (Event S)} (h : TakeTurns key none es) (t : Nat) :
      TakeTurns key (some t) (.began t key :: es)
  | ended {es : List (Event S)} {t : Nat} (h : TakeTurns key (some t) es)
      (outcome : S.Outcome key) : TakeTurns key none (.ended t key outcome :: es)

/-- The law of an event, given those before it. -/
def Follows (m : S.Caches) (earlier : List (Event S)) : Event S → Prop
  | .began _ key | .asked _ key _ _ | .ended _ key _ | .found _ key none =>
    ∀ v, ¬ HasValue m earlier key v
  | .fetched _ key (.ok v) | .found _ key (some v) => HasValue m earlier key v
  | .fetched t key (.error e) =>
    ∃ rest, earlier.filter (Event.isOfCall t key) = .ended t key (.error e) :: .began t key :: rest
  | .counted .. => True

/-- A thread is computing the value of a key. -/
def State.Computes (s : State S ρ σ) (t : Nat) (key : S.Key) : Prop :=
  ∃ a, s.doing? t = some a ∧ ∃ slot, (key, slot) ∈ a.computations

/-- The computations of all keys are single-flight; `m` is what the caches held at the start. -/
structure SingleFlight (m : S.Caches) (s : State S ρ σ) : Prop where
  turns : ∀ key, ∃ turn, TakeTurns key turn (s.events.filter (Event.isComputation key)) ∧
    ∀ t, turn = some t ↔ s.Computes t key
  one_value : ∀ key v w, HasValue m s.events key v → HasValue m s.events key w → v = w
  lawful : ∀ later e earlier, s.events = later ++ e :: earlier → Follows m earlier e

/-! ## 2. What a move adds to the events -/

theorem hasValue_cons {m : S.Caches} {e : Event S} {es : List (Event S)} {key : S.Key}
    {v : S.Value key} :
    HasValue m (e :: es) key v ↔ HasValue m es key v ∨ ∃ t, e = .ended t key (.ok v) := by
  simp only [HasValue, List.mem_cons, exists_or, or_assoc]
  constructor
  · rintro (h | ⟨t, h⟩ | h)
    · exact Or.inl h
    · exact Or.inr (Or.inr ⟨t, h.symm⟩)
    · exact Or.inr (Or.inl h)
  · rintro (h | h | ⟨t, h⟩)
    · exact Or.inl h
    · exact Or.inr (Or.inr h)
    · exact Or.inr (Or.inl ⟨t, h.symm⟩)

namespace Activity

/-- A call that is ending has no computation of the same key below it. -/
def Apart : Activity S ρ → Prop
  | .evicting key _ _ stack | .leaving key _ _ stack => ∀ r ∈ stack.slots, r.1 ≠ key
  | _ => True

/-- A call on a key is about to return a failure. -/
def Fails (key : S.Key) (e : S.Error) : Activity S ρ → Prop
  | .evicting k _ e' _ | .leaving k _ (.error e') _ => k = key ∧ e' = e
  | _ => False

end Activity

namespace Move

variable {t : Nat} {s u : State S ρ Unit} {a a' : Activity S ρ}

/-- A move adds one event of its own thread, or none. -/
theorem events (h : Move t s a a' u) :
    u.events = s.events ∨
      ∃ e, u.events = e :: s.events ∧ ∀ t' key, t' ≠ t → e.isOfCall t' key = false := by
  cases h with
  | want => exact Or.inl (s.slotFor_events _)
  | descend => exact Or.inl (s.slotFor_events _)
  | miss | read | endCount | begin | succeed | fail | inquire | returnOutcome | resume =>
    refine Or.inr ⟨_, rfl, fun t' key ht => ?_⟩
    simp [Event.isOfCall, Ne.symm ht]
  | _ => exact Or.inl rfl

/-- **What a move does to the computations**: nothing, or the thread begins one, or it ends the
one it began last. -/
theorem computations (h : Move t s a a' u) :
    (a'.computations = a.computations ∧ ∀ key,
      u.events.filter (Event.isComputation key) = s.events.filter (Event.isComputation key)) ∨
    (∃ key slot, a'.computations = (key, slot) :: a.computations ∧
      a'.locked = (key, slot) :: a.computations ∧ u.events = .began t key :: s.events) ∨
    ∃ key slot outcome, a.computations = (key, slot) :: a'.computations ∧
      a.locked = (key, slot) :: a'.computations ∧
      u.events = .ended t key outcome :: s.events := by
  cases h with
  | begin => exact Or.inr (Or.inl ⟨_, _, rfl, rfl, rfl⟩)
  | succeed | fail => exact Or.inr (Or.inr ⟨_, _, _, rfl, rfl, rfl⟩)
  | want => exact Or.inl ⟨rfl, fun _ => by rw [s.slotFor_events]⟩
  | descend => exact Or.inl ⟨rfl, fun _ => by rw [s.slotFor_events]⟩
  | _ => exact Or.inl ⟨rfl, fun _ => rfl⟩

end Move

namespace Sound

variable {s : State S ρ σ} {t : Nat} {a : Activity S ρ}

/-- The slots that a thread has locked are of different keys. -/
theorem key_ne_of_locked_cons (h : Sound s) (ha : s.doing? t = some a) {r : SlotRef S}
    {rest : List (SlotRef S)} (hr : a.locked = r :: rest) : ∀ q ∈ rest, q.1 ≠ r.1 := by
  intro q hq hkey
  have hqc := h.pinned t a ha q (a.locked_subset_pinned (hr ▸ List.mem_cons_of_mem _ hq))
  have hrc := h.pinned t a ha r (a.locked_subset_pinned (hr ▸ List.mem_cons_self))
  rw [hkey, hrc, Option.some.injEq] at hqc
  obtain rfl : q = r := Prod.ext hkey hqc.symm
  exact h.not_mem_of_locked_cons ha hr hq

/-- A key whose slot is empty has no value anywhere. -/
theorem value_eq_none_of_slot (h : Sound s) {key : S.Key} {slot : Nat}
    (hc : s.current key = some slot) (hv : s.value key slot = none) (n : Nat) :
    s.value key n = none := by
  cases hn : s.value key n with
  | none => rfl
  | some v =>
    have hcur := h.filled key n v hn
    rw [hc, Option.some.injEq] at hcur
    subst hcur
    exact absurd (hn.symm.trans hv) (by simp)

/-- A key has one value at most. -/
theorem value_unique (h : Sound s) {key : S.Key} {n n' : Nat} {v w : S.Value key}
    (hv : s.value key n = some v) (hw : s.value key n' = some w) : v = w := by
  have hcur := (h.filled key n v hv).symm.trans (h.filled key n' w hw)
  rw [Option.some.injEq] at hcur
  subst hcur
  exact Option.some.inj (hv.symm.trans hw)

end Sound

/-! ## 3. The events of a run and its state -/

/-- **The invariant that ties the events to the state.** -/
structure Recorded (m : S.Caches) (s : State S ρ σ) : Prop where
  /-- The keys that have a value are those with a value in a slot. -/
  values : ∀ key v, HasValue m s.events key v ↔ ∃ slot, s.value key slot = some v
  turns : ∀ key, ∃ turn, TakeTurns key turn (s.events.filter (Event.isComputation key)) ∧
    ∀ t, turn = some t ↔ s.Computes t key
  lawful : ∀ later e earlier, s.events = later ++ e :: earlier → Follows m earlier e
  /-- The last that a call did which is computing is to begin. -/
  begun : ∀ t a, s.doing? t = some a → ∀ r ∈ a.computations,
    ∃ rest, s.events.filter (Event.isOfCall t r.1) = .began t r.1 :: rest
  /-- The last that a call did which is about to fail is to end its computation. -/
  failing : ∀ t a, s.doing? t = some a → ∀ key e, a.Fails key e →
    ∃ rest, s.events.filter (Event.isOfCall t key) =
      .ended t key (.error e) :: .began t key :: rest
  apart : ∀ t a, s.doing? t = some a → a.Apart

section Move

variable {m : S.Caches} {t : Nat} {s u : State S ρ Unit} {a a' : Activity S ρ}

/-- A key whose slot some thread has found empty has no value. -/
theorem Recorded.no_value (hr : Recorded m s) (hs : Sound s) {key : S.Key} {slot : Nat}
    (hc : s.current key = some slot) (hv : s.value key slot = none) (v : S.Value key) :
    ¬ HasValue m s.events key v := by
  intro hval
  obtain ⟨n, hn⟩ := (hr.values key v).mp hval
  exact absurd (hn.symm.trans (hs.value_eq_none_of_slot hc hv n)) (by simp)

/-- **What a move adds to the events keeps to its law.** -/
theorem Recorded.follows (hr : Recorded m s) (hs : Sound s) (ha : s.doing? t = some a)
    (h : Move t s a a' u) {e : Event S} (he : u.events = e :: s.events) :
    Follows m s.events e := by
  have hcomputing : ∀ {key slot job stack}, a = .computing key slot job stack →
      ∀ v, ¬ HasValue m s.events key v := by
    rintro key slot job stack rfl
    exact hr.no_value hs (hs.pinned t _ ha (key, slot) List.mem_cons_self)
      (hs.vacant t _ ha (key, slot) List.mem_cons_self)
  have hleaving : ∀ {key slot outcome stack}, a = .leaving key slot outcome stack →
      Follows m s.events (.fetched t key outcome) := by
    rintro key slot outcome stack rfl
    cases outcome with
    | ok v => exact (hr.values key v).mpr ⟨slot, hs.delivered t key slot v stack ha⟩
    | error e => exact hr.failing t _ ha key e ⟨rfl, rfl⟩
  cases h with
  | @miss key next hc =>
    obtain rfl := (List.cons.inj he).1
    intro v hval
    obtain ⟨n, hn⟩ := (hr.values key v).mp hval
    exact absurd (hc.symm.trans (hs.filled key n v hn)) (by simp)
  | @read key slot next =>
    obtain rfl := (List.cons.inj he).1
    have hc := hs.pinned t _ ha (key, slot) List.mem_cons_self
    cases hv : s.value key slot with
    | none => exact hr.no_value hs hc hv
    | some v => exact (hr.values key v).mpr ⟨slot, hv⟩
  | @begin key slot init stack hv =>
    obtain rfl := (List.cons.inj he).1
    exact hr.no_value hs (hs.pinned t _ ha (key, slot) List.mem_cons_self) hv
  | endCount =>
    obtain rfl := (List.cons.inj he).1
    exact trivial
  | succeed | fail | inquire =>
    obtain rfl := (List.cons.inj he).1
    exact hcomputing rfl
  | returnOutcome | resume =>
    obtain rfl := (List.cons.inj he).1
    exact hleaving rfl
  | want =>
    rw [s.slotFor_events] at he
    exact absurd he (List.ne_cons_self)
  | descend =>
    rw [s.slotFor_events] at he
    exact absurd he (List.ne_cons_self)
  | _ => exact absurd he (List.ne_cons_self)

theorem Recorded.lawful_move (hr : Recorded m s) (hs : Sound s) (ha : s.doing? t = some a)
    (h : Move t s a a' u) (later : List (Event S)) (e : Event S) (earlier : List (Event S))
    (he : (u.become t a').events = later ++ e :: earlier) : Follows m earlier e := by
  replace he : u.events = later ++ e :: earlier := he
  rcases h.events with hsame | ⟨e', hadd, -⟩
  · rw [hsame] at he
    exact hr.lawful later e earlier he
  · cases later with
    | nil =>
      rw [hadd] at he
      obtain ⟨rfl, rfl⟩ := List.cons.inj he
      exact hr.follows hs ha h hadd
    | cons d later =>
      rw [hadd] at he
      exact hr.lawful later e earlier (List.cons.inj he).2

/-- A fetch that returned a value returned the value of its key. -/
theorem Recorded.hasValue_of_fetched {s : State S ρ σ} (hr : Recorded m s) {key : S.Key}
    {v : S.Value key} (he : .fetched t key (.ok v) ∈ s.events) : HasValue m s.events key v := by
  obtain ⟨later, earlier, hsplit⟩ := List.append_of_mem he
  have hearlier : HasValue m earlier key v := hr.lawful later _ earlier hsplit
  rcases hearlier with hv | ⟨t', hended⟩
  · exact Or.inl hv
  · refine Or.inr ⟨t', ?_⟩
    rw [hsplit]
    exact List.mem_append_right _ (List.mem_cons_of_mem _ hended)

/-- A success is recorded when the value is put into its slot. -/
theorem Recorded.values_move (hr : Recorded m s) (hs : Sound s) (ha : s.doing? t = some a)
    (h : Move t s a a' u) (key : S.Key) (v : S.Value key) :
    HasValue m (u.become t a').events key v ↔
      ∃ slot, (u.become t a').value key slot = some v := by
  show HasValue m u.events key v ↔ ∃ slot, u.value key slot = some v
  have hold := hr.values key v
  cases h with
  | @succeed k n w stack =>
    show HasValue m (.ended t k (.ok w) :: s.events) key v ↔
      ∃ slot, (s.setValue k n w).value key slot = some v
    rw [hasValue_cons, hold]
    constructor
    · rintro (⟨slot, hv⟩ | ⟨t', he⟩)
      · exact ⟨slot, hs.value_move ha .succeed hv⟩
      · cases he
        exact ⟨n, State.setValue_self ..⟩
    · rintro ⟨slot, hv⟩
      by_cases hne : (key, slot) = (k, n)
      · obtain ⟨rfl, rfl⟩ := Prod.mk.inj hne
        rw [s.setValue_self, Option.some.injEq] at hv
        exact Or.inr ⟨t, by rw [hv]⟩
      · rw [State.setValue_of_ne (r := (key, slot)) _ _ hne] at hv
        exact Or.inl ⟨slot, hv⟩
  | want => rw [s.slotFor_events, s.slotFor_value, hold]
  | descend => rw [s.slotFor_events, s.slotFor_value, hold]
  | miss | read | endCount | begin | fail | inquire | returnOutcome | resume =>
    refine (hasValue_cons.trans (or_iff_left ?_)).trans hold
    rintro ⟨t', he⟩
    cases he
  | _ => exact hold

/-- Which keys a thread computes after a move. -/
theorem Move.computes_iff (h : Move t s a a' u) (ha : s.doing? t = some a) {t' : Nat}
    {key : S.Key} : (u.become t a').Computes t' key ↔
      (t' = t ∧ ∃ slot, (key, slot) ∈ a'.computations) ∨ (t' ≠ t ∧ s.Computes t' key) := by
  constructor
  · rintro ⟨b, hb, hslot⟩
    rcases h.doing_cases ha hb with ⟨rfl, rfl⟩ | ⟨hne, hb⟩
    · exact Or.inl ⟨rfl, hslot⟩
    · exact Or.inr ⟨hne, b, hb, hslot⟩
  · rintro (⟨rfl, hslot⟩ | ⟨hne, b, hb, hslot⟩)
    · exact ⟨a', h.doing?_self ha, hslot⟩
    · exact ⟨b, (h.doing?_of_ne hne).trans hb, hslot⟩

/-- As long as a thread's computations of a key stay the same, so does who computes it. -/
theorem Move.computes_iff_of_mem_iff (h : Move t s a a' u) (ha : s.doing? t = some a)
    {key : S.Key} (hmem : ∀ slot, (key, slot) ∈ a'.computations ↔ (key, slot) ∈ a.computations)
    (t' : Nat) : (u.become t a').Computes t' key ↔ s.Computes t' key := by
  rw [h.computes_iff ha]
  simp only [hmem]
  constructor
  · rintro (⟨rfl, hslot⟩ | ⟨-, hc⟩)
    · exact ⟨a, ha, hslot⟩
    · exact hc
  · rintro ⟨b, hb, hslot⟩
    by_cases ht : t' = t
    · subst ht
      obtain rfl := Option.some.inj (ha.symm.trans hb)
      exact Or.inl ⟨rfl, hslot⟩
    · exact Or.inr ⟨ht, b, hb, hslot⟩

/-- **The computations of a key go on taking turns.** -/
theorem Recorded.turns_move (hr : Recorded m s) (hs : Sound s) (ha : s.doing? t = some a)
    (h : Move t s a a' u) (key : S.Key) :
    ∃ turn, TakeTurns key turn ((u.become t a').events.filter (Event.isComputation key)) ∧
      ∀ t', turn = some t' ↔ (u.become t a').Computes t' key := by
  show ∃ turn, TakeTurns key turn (u.events.filter (Event.isComputation key)) ∧ _
  obtain ⟨turn, hturns, hturn⟩ := hr.turns key
  rcases h.computations with ⟨hc, he⟩ | ⟨k, n, hc, hl, he⟩ | ⟨k, n, outcome, hc, hl, he⟩
  · rw [he]
    refine ⟨turn, hturns, fun t' => ?_⟩
    rw [hturn, h.computes_iff_of_mem_iff ha fun slot => by rw [hc]]
  · by_cases hk : k = key
    · subst hk
      have hs' := hs.move ha h
      have hself : (u.become t a').Computes t k :=
        (h.computes_iff ha).mpr (Or.inl ⟨rfl, n, hc ▸ List.mem_cons_self⟩)
      -- no thread can have had the turn: it would compute the key beside `t`
      have hnone : turn = none := by
        cases turn with
        | none => rfl
        | some t' =>
          obtain ⟨b, hb, n', hn'⟩ := (hturn t').mp rfl
          obtain ⟨a₁, ha₁, hmem₁⟩ := hself
          by_cases ht : t' = t
          · subst ht
            obtain rfl := Option.some.inj (ha.symm.trans hb)
            exact (hs'.key_ne_of_locked_cons (h.doing?_self ha) hl _ hn' rfl).elim
          · have hb' : (u.become t a').Computes t' k :=
              (h.computes_iff ha).mpr (Or.inr ⟨ht, b, hb, n', hn'⟩)
            obtain ⟨b₁, hb₁, n₁, hn₁⟩ := hb'
            obtain ⟨n₂, hn₂⟩ := hmem₁
            exact absurd (hs'.eq_of_computation hb₁ ha₁ hn₁ hn₂ rfl) ht
      subst hnone
      rw [he, List.filter_cons_of_pos (by simp [Event.isComputation])]
      refine ⟨some t, hturns.began t, fun t' => ?_⟩
      constructor
      · intro ht
        obtain rfl := Option.some.inj ht
        exact hself
      · rintro ⟨b, hb, n₁, hn₁⟩
        obtain ⟨a₁, ha₁, n₂, hn₂⟩ := hself
        rw [hs'.eq_of_computation hb ha₁ hn₁ hn₂ rfl]
    · rw [he, List.filter_cons_of_neg (by simp [Event.isComputation, hk])]
      refine ⟨turn, hturns, fun t' => ?_⟩
      rw [hturn, h.computes_iff_of_mem_iff ha fun slot => by
        rw [hc, List.mem_cons, Prod.mk.injEq]
        exact or_iff_right fun hkey => hk hkey.1.symm]
  · by_cases hk : k = key
    · subst hk
      have hself : (k, n) ∈ a.computations := hc ▸ List.mem_cons_self
      obtain rfl : turn = some t := (hturn t).mpr ⟨a, ha, n, hself⟩
      rw [he, List.filter_cons_of_pos (by simp [Event.isComputation])]
      refine ⟨none, hturns.ended outcome, fun t' => ?_⟩
      refine iff_of_false (by simp) fun hcomp => ?_
      rcases (h.computes_iff ha).mp hcomp with ⟨-, n', hn'⟩ | ⟨hne, b, hb, n', hn'⟩
      · exact hs.key_ne_of_locked_cons ha hl _ hn' rfl
      · exact hne (hs.eq_of_computation hb ha hn' hself rfl)
    · rw [he, List.filter_cons_of_neg (by simp [Event.isComputation, hk])]
      refine ⟨turn, hturns, fun t' => ?_⟩
      rw [hturn, h.computes_iff_of_mem_iff ha fun slot => by
        rw [hc, List.mem_cons, Prod.mk.injEq]
        exact (or_iff_right fun hkey => hk hkey.1.symm).symm]

/-- What a move adds to the calls of the other threads is nothing. -/
theorem Move.filter_isOfCall (h : Move t s a a' u) {t' : Nat} (ht : t' ≠ t) (key : S.Key) :
    u.events.filter (Event.isOfCall t' key) = s.events.filter (Event.isOfCall t' key) := by
  rcases h.events with hsame | ⟨e, hadd, he⟩
  · rw [hsame]
  · rw [hadd, List.filter_cons_of_neg (by simp [he t' key ht])]

/-- A computation goes on, or it begins now. -/
theorem Recorded.begun_move (hr : Recorded m s) (hs : Sound s) (ha : s.doing? t = some a)
    (h : Move t s a a' u) (t' : Nat) (b : Activity S ρ)
    (hb : (u.become t a').doing? t' = some b) (r : SlotRef S) (hmem : r ∈ b.computations) :
    ∃ rest, (u.become t a').events.filter (Event.isOfCall t' r.1) = .began t' r.1 :: rest := by
  show ∃ rest, u.events.filter (Event.isOfCall t' r.1) = .began t' r.1 :: rest
  rcases h.doing_cases ha hb with ⟨rfl, rfl⟩ | ⟨hne, hb⟩
  · have hold := hr.begun t' a ha r
    -- an event of the same thread is about another key
    have hother : ∀ {e : Event S} {key : S.Key}, r ∈ a.computations → r.1 ≠ key →
        (∀ k, e.isOfCall t' k = true → k = key) →
        ∃ rest, (e :: s.events).filter (Event.isOfCall t' r.1) = .began t' r.1 :: rest := by
      intro e key hin hkey he
      rw [List.filter_cons_of_neg fun hcall => hkey (he _ hcall)]
      exact hold hin
    cases h with
    | @begin key slot init stack hv =>
      rcases List.mem_cons.mp hmem with rfl | hin
      · refine ⟨s.events.filter (Event.isOfCall t' key), ?_⟩
        exact List.filter_cons_of_pos (by simp [Event.isOfCall])
      · exact hother hin (hs.key_ne_of_locked_cons ha rfl r hin)
          fun k hk => by simpa [Event.isOfCall, eq_comm] using hk
    | succeed | fail =>
      exact hother (List.mem_cons_of_mem _ hmem) (hs.key_ne_of_locked_cons ha rfl r hmem)
        fun k hk => by simpa [Event.isOfCall, eq_comm] using hk
    | resume =>
      exact hother hmem (hr.apart t' _ ha r hmem)
        fun k hk => by simpa [Event.isOfCall, eq_comm] using hk
    | want => exact absurd hmem List.not_mem_nil
    | descend =>
      rw [s.slotFor_events]
      exact hold hmem
    | miss | read | endCount | returnOutcome => exact absurd hmem List.not_mem_nil
    | inquire => exact hold hmem
    | _ => exact hold hmem
  · rw [h.filter_isOfCall hne]
    exact hr.begun t' b hb r hmem

/-- A call that is about to fail has just ended its computation. -/
theorem Recorded.failing_move (hr : Recorded m s) (ha : s.doing? t = some a)
    (h : Move t s a a' u) (t' : Nat) (b : Activity S ρ)
    (hb : (u.become t a').doing? t' = some b) (key : S.Key) (e : S.Error)
    (hf : b.Fails key e) :
    ∃ rest, (u.become t a').events.filter (Event.isOfCall t' key) =
      .ended t' key (.error e) :: .began t' key :: rest := by
  show ∃ rest, u.events.filter (Event.isOfCall t' key) = _
  rcases h.doing_cases ha hb with ⟨rfl, rfl⟩ | ⟨hne, hb⟩
  · cases h with
    | @fail k slot e' stack =>
      obtain ⟨rfl, rfl⟩ := hf
      obtain ⟨rest, hrest⟩ := hr.begun t' _ ha (k, slot) List.mem_cons_self
      refine ⟨rest, ?_⟩
      show (Event.ended t' k (.error e') :: s.events).filter (Event.isOfCall t' k) = _
      rw [List.filter_cons_of_pos (by simp [Event.isOfCall]), hrest]
    | evict => exact hr.failing t' _ ha key e hf
    | keep => exact hr.failing t' _ ha key e hf
    | _ => exact absurd hf id
  · rw [h.filter_isOfCall hne]
    exact hr.failing t' b hb key e hf

theorem Recorded.apart_move (hr : Recorded m s) (hs : Sound s) (ha : s.doing? t = some a)
    (h : Move t s a a' u) (t' : Nat) (b : Activity S ρ)
    (hb : (u.become t a').doing? t' = some b) : b.Apart := by
  rcases h.doing_cases ha hb with ⟨rfl, rfl⟩ | ⟨-, hb⟩
  · cases h with
    | hit | succeed | fail => exact hs.key_ne_of_locked_cons ha rfl
    | evict =>
      have hold := hr.apart t' _ ha
      exact hold
    | keep =>
      have hold := hr.apart t' _ ha
      exact hold
    | _ => exact trivial
  · exact hr.apart t' b hb

/-- **Every move keeps the events in line with the state.** -/
theorem Recorded.move (hr : Recorded m s) (hs : Sound s) (ha : s.doing? t = some a)
    (h : Move t s a a' u) : Recorded m (u.become t a') where
  values := hr.values_move hs ha h
  turns := hr.turns_move hs ha h
  lawful := hr.lawful_move hs ha h
  begun := hr.begun_move hs ha h
  failing := hr.failing_move ha h
  apart := hr.apart_move hs ha h

end Move

/-! ## 4. Every run is single-flight -/

theorem recorded_start (m : S.Caches) (programs : List (Program S ρ)) (world : σ) :
    Recorded m (State.start m programs world).core where
  values := by
    intro key v
    constructor
    · rintro (h | ⟨t, h⟩)
      · exact ⟨0, h⟩
      · exact absurd h List.not_mem_nil
    · rintro ⟨slot, h⟩
      simp only [State.core_value, State.start] at h
      split at h
      · exact Or.inl h
      · exact absurd h (by simp)
  turns := by
    intro key
    refine ⟨none, TakeTurns.start, fun t => iff_of_false (by simp) ?_⟩
    rintro ⟨a, ha, slot, hslot⟩
    obtain ⟨p, -, rfl⟩ := doing?_start ha
    exact absurd hslot List.not_mem_nil
  lawful := by
    intro later e earlier h
    have h : [] = later ++ e :: earlier := h
    simp at h
  begun := by
    intro t a ha r hr
    obtain ⟨p, -, rfl⟩ := doing?_start ha
    exact absurd hr List.not_mem_nil
  failing := by
    intro t a ha key e hf
    obtain ⟨p, -, rfl⟩ := doing?_start ha
    exact absurd hf id
  apart := by
    intro t a ha
    obtain ⟨p, -, rfl⟩ := doing?_start ha
    exact trivial

section Run

variable {respond : S.Respond σ} {m : S.Caches} {programs : List (Program S ρ)} {world : σ}
variable {s : State S ρ σ}

/-- **Every state that a run reaches is sound, and its events are in line with it.** -/
theorem Reaches.recorded (h : State.Reaches respond (.start m programs world) s) :
    Sound s.core ∧ Recorded m s.core :=
  Reaches.core_induction (P := fun v => Sound v ∧ Recorded m v) h
    ⟨sound_start m programs world, recorded_start m programs world⟩
    fun hi ha hm => ⟨hi.1.move ha hm, hi.2.move hi.1 ha hm⟩

/-- **The computations of all keys are single-flight**, in every state that threads with any
programs reach by any interleaving of their steps. -/
theorem singleFlight (h : State.Reaches respond (.start m programs world) s) :
    SingleFlight m s := by
  obtain ⟨hs, hr⟩ := Reaches.recorded h
  refine ⟨fun key => ?_, fun key v w hv hw => ?_, hr.lawful⟩
  · obtain ⟨turn, hturns, hturn⟩ := hr.turns key
    refine ⟨turn, hturns, fun t => ?_⟩
    rw [hturn, State.Computes, State.Computes, State.core_doing?]
  · obtain ⟨n, hn⟩ := (hr.values key v).mp hv
    obtain ⟨n', hn'⟩ := (hr.values key w).mp hw
    exact hs.value_unique hn hn'

end Run

/-- Two threads that fetch the same key at once, where the first computation fails. -/
def failingRace : State Memo.textService (Except Unit String) Nat :=
  (State.start .empty (List.replicate 2 (Memo.fetchText "k")) 0).rounds (Memo.numbered 1) 16

/-- One of two racing threads gets the failure of its own computation; the other waits behind it,
computes again in the same slot and gets the value. -/
theorem singleFlight_failingRace :
    State.Reaches (Memo.numbered 1)
        (.start .empty (List.replicate 2 (Memo.fetchText "k")) 0) failingRace ∧
      failingRace.world = 2 ∧ failingRace.results.map Except.toOption = [none, some "v2"] ∧
      SingleFlight .empty failingRace :=
  have h := reaches_rounds 16 (.refl _)
  ⟨h, rfl, rfl, singleFlight h⟩

end PassContext.Machine
