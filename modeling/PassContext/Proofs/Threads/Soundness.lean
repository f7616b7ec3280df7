/-
# All calls on a key share its slot

A failed call takes the slot out of the cache after it unlocked it.  By then others may be waiting
for that slot, or may have filled it, so a new slot beside it would let two computations of the
key run at once.  That this never happens rests on the references: the slot is given up only when
the cache and the failed call are the only ones that refer to it.

The invariant `Sound` says so.  Every reference that a call still acts upon is to the slot that
the key has in its cache (`pinned`), a value is only ever in that slot (`filled`), and a slot that
is being computed is empty (`vacant`).  `Sound.move` keeps it along every move, so it holds in
every state that a run reaches (`Reaches.sound`).
-/
import PassContext.Proofs.Threads.Moves

namespace PassContext.Machine

variable {S : Service} {ρ σ : Type}

/-! ## 1. The slots of an activity -/

namespace Activity

/-- The slots that a thread refers to and will still act upon.  A call that leaves after a failure
only gives its reference up. -/
def pinned : Activity S ρ → List (SlotRef S)
  | .leaving _ _ (.error _) stack => stack.slots
  | a => a.slots

/-- The slots whose values a thread is computing, the innermost first. -/
def computations : Activity S ρ → List (SlotRef S)
  | .computing key slot _ stack => (key, slot) :: stack.slots
  | .wanting _ _ _ stack | .entered _ _ _ stack | .evicting _ _ _ stack | .leaving _ _ _ stack =>
    stack.slots
  | _ => []

theorem pinned_subset_slots (a : Activity S ρ) : a.pinned ⊆ a.slots := by
  intro r hr
  cases a with
  | leaving key slot outcome stack =>
    cases outcome with
    | ok v => exact hr
    | error e => exact List.mem_cons_of_mem _ hr
  | _ => exact hr

/-- A thread still acts upon every slot it has locked. -/
theorem locked_subset_pinned (a : Activity S ρ) : a.locked ⊆ a.pinned := by
  intro r hr
  cases a with
  | leaving key slot outcome stack =>
    cases outcome with
    | ok v => exact List.mem_cons_of_mem _ hr
    | error e => exact hr
  | wanting | evicting => exact List.mem_cons_of_mem _ hr
  | reading | entered | computing => exact hr
  | tallying => exact List.mem_cons.mpr (Or.inl (List.mem_singleton.mp hr))
  | running | looking | departing | counting | releasing => exact absurd hr List.not_mem_nil

/-- A slot stays locked as long as its value is being computed. -/
theorem computations_subset_locked (a : Activity S ρ) : a.computations ⊆ a.locked := by
  intro r hr
  cases a with
  | entered => exact List.mem_cons_of_mem _ hr
  | wanting | evicting | leaving | computing => exact hr
  | reading | tallying | running | looking | departing | counting | releasing =>
    exact absurd hr List.not_mem_nil

end Activity

namespace State

/-! ## 2. What the changes of a move leave alone -/

theorem doing?_become_self {s : State S ρ σ} {t : Nat} {a : Activity S ρ}
    (h : s.doing? t = some a) (b : Activity S ρ) : (s.become t b).doing? t = some b := by
  obtain ⟨th, hth, -⟩ := Option.map_eq_some_iff.mp h
  obtain ⟨hlt, -⟩ := List.getElem?_eq_some_iff.mp hth
  simp [doing?, become, hlt]

theorem doing?_become_of_ne {t t' : Nat} (s : State S ρ σ) (b : Activity S ρ) (h : t' ≠ t) :
    (s.become t b).doing? t' = s.doing? t' := by
  simp [doing?, become, List.getElem?_set_ne h.symm]

theorem setHolder_self (s : State S ρ σ) (key : S.Key) (slot : Nat) (t : Option Nat) :
    (s.setHolder key slot t).holder key slot = t := if_pos ⟨rfl, rfl⟩

theorem setHolder_of_ne (s : State S ρ σ) {key : S.Key} {slot : Nat} (t : Option Nat)
    {r : SlotRef S} (h : r ≠ (key, slot)) :
    (s.setHolder key slot t).holder r.1 r.2 = s.holder r.1 r.2 :=
  if_neg fun e => h (Prod.ext e.1 e.2)

theorem setValue_self (s : State S ρ σ) (key : S.Key) (slot : Nat) (v : S.Value key) :
    (s.setValue key slot v).value key slot = some v := dif_pos ⟨rfl, rfl⟩

theorem setValue_of_ne (s : State S ρ σ) {key : S.Key} {slot : Nat} (v : S.Value key)
    {r : SlotRef S} (h : r ≠ (key, slot)) :
    (s.setValue key slot v).value r.1 r.2 = s.value r.1 r.2 :=
  dif_neg fun e => h (Prod.ext e.1 e.2)

theorem slotFor_value (s : State S ρ σ) (key : S.Key) : (s.slotFor key).2.value = s.value := by
  unfold slotFor
  cases s.current key <;> rfl

theorem slotFor_holder (s : State S ρ σ) (key : S.Key) : (s.slotFor key).2.holder = s.holder := by
  unfold slotFor
  cases s.current key <;> rfl

theorem slotFor_threads (s : State S ρ σ) (key : S.Key) :
    (s.slotFor key).2.threads = s.threads := by
  unfold slotFor
  cases s.current key <;> rfl

theorem slotFor_events (s : State S ρ σ) (key : S.Key) : (s.slotFor key).2.events = s.events := by
  unfold slotFor
  cases s.current key <;> rfl

/-- The slot made or found for a key is its slot from then on. -/
theorem slotFor_current_self (s : State S ρ σ) (key : S.Key) :
    (s.slotFor key).2.current key = some (s.slotFor key).1 := by
  unfold slotFor
  cases h : s.current key with
  | none => exact if_pos rfl
  | some slot => exact h

/-- Making a slot takes no slot away. -/
theorem slotFor_current_of_some {s : State S ρ σ} {k : S.Key} {slot : Nat} (key : S.Key)
    (h : s.current k = some slot) : (s.slotFor key).2.current k = some slot := by
  unfold slotFor
  cases hk : s.current key with
  | some n => exact h
  | none =>
    have hne : k ≠ key := fun e => by simp [← e, h] at hk
    exact (if_neg hne).trans h

/-- The slots that a cache has are the slots of their keys. -/
theorem current_of_mem_slotsOf {s : State S ρ σ} {cache : S.Cache} {r : SlotRef S}
    (h : r ∈ s.slotsOf cache) : s.current r.1 = some r.2 := by
  obtain ⟨key, -, hkey⟩ := List.mem_filterMap.mp h
  obtain ⟨slot, hslot, rfl⟩ := Option.map_eq_some_iff.mp hkey
  exact hslot

end State

namespace Move

variable {t : Nat} {s u : State S ρ Unit} {a a' : Activity S ρ}

theorem threads_eq (h : Move t s a a' u) : u.threads = s.threads := by
  cases h with
  | want => exact s.slotFor_threads _
  | descend => exact s.slotFor_threads _
  | _ => rfl

theorem doing?_self (h : Move t s a a' u) (ha : s.doing? t = some a) :
    (u.become t a').doing? t = some a' := by
  refine State.doing?_become_self (a := a) ?_ _
  rw [State.doing?, h.threads_eq]
  exact ha

/-- After a move of `t`, every other thread does what it did. -/
theorem doing?_of_ne (h : Move t s a a' u) {t' : Nat} (ht : t' ≠ t) :
    (u.become t a').doing? t' = s.doing? t' := by
  rw [State.doing?_become_of_ne _ _ ht, State.doing?, h.threads_eq]
  rfl

theorem doing_cases (h : Move t s a a' u) (ha : s.doing? t = some a) {t' : Nat}
    {b : Activity S ρ} (hb : (u.become t a').doing? t' = some b) :
    (t' = t ∧ b = a') ∨ (t' ≠ t ∧ s.doing? t' = some b) := by
  by_cases ht : t' = t
  · subst ht
    rw [h.doing?_self ha, Option.some.injEq] at hb
    exact Or.inl ⟨rfl, hb.symm⟩
  · rw [h.doing?_of_ne ht] at hb
    exact Or.inr ⟨ht, hb⟩

/-- **What a move does to the locks of slots**: nothing, or it takes one that is free, or it gives
back the one that the thread took last. -/
theorem locks (h : Move t s a a' u) :
    (u.holder = s.holder ∧ a'.locked = a.locked) ∨
    (∃ key slot, s.holder key slot = none ∧ u.holder = (s.setHolder key slot (some t)).holder ∧
      a'.locked = (key, slot) :: a.locked) ∨
    ∃ key slot, u.holder = (s.setHolder key slot none).holder ∧
      a.locked = (key, slot) :: a'.locked := by
  cases h with
  | lockLooking hl | lockCounting hl | enter hl => exact Or.inr (Or.inl ⟨_, _, hl, rfl, rfl⟩)
  | read | tally | hit | succeed | fail => exact Or.inr (Or.inr ⟨_, _, rfl, rfl⟩)
  | want => exact Or.inl ⟨s.slotFor_holder _, rfl⟩
  | descend => exact Or.inl ⟨s.slotFor_holder _, rfl⟩
  | _ => exact Or.inl ⟨rfl, rfl⟩

/-- **What a move does to the values**: nothing, or a computation that succeeded fills its
slot. -/
theorem values (h : Move t s a a' u) :
    u.value = s.value ∨
    ∃ key slot v stack, a = .computing key slot (.finish (.ok v)) stack ∧
      a' = .leaving key slot (.ok v) stack ∧ u.value = (s.setValue key slot v).value := by
  cases h with
  | succeed => exact Or.inr ⟨_, _, _, _, rfl, rfl, rfl⟩
  | want => exact Or.inl (s.slotFor_value _)
  | descend => exact Or.inl (s.slotFor_value _)
  | _ => exact Or.inl rfl

/-- A move takes no slot away, except that a failed call may evict its own. -/
theorem current_of_some (h : Move t s a a' u) {k : S.Key} {n : Nat} (hk : s.current k = some n) :
    u.current k = some n ∨ ∃ e stack, a = .evicting k n e stack ∧ s.Idle k n ∧
      a' = .leaving k n (.error e) stack := by
  cases h with
  | want => exact Or.inl (State.slotFor_current_of_some _ hk)
  | descend => exact Or.inl (State.slotFor_current_of_some _ hk)
  | @evict key slot e stack hidle =>
    by_cases hkey : k = key
    · subst hkey
      obtain rfl : n = slot := Option.some.inj (hk.symm.trans hidle.1.1)
      exact Or.inr ⟨e, stack, rfl, hidle, rfl⟩
    · exact Or.inl ((if_neg hkey).trans hk)
  | _ => exact Or.inl hk

/-- A reference that a move adds is to the slot of its key. -/
theorem pinned_new (h : Move t s a a' u) {r : SlotRef S} (hr : r ∈ a'.pinned) :
    r ∈ a.pinned ∨ u.current r.1 = some r.2 := by
  cases h with
  | look hc =>
    obtain rfl := List.mem_singleton.mp hr
    exact Or.inr hc
  | want =>
    obtain rfl := List.mem_singleton.mp hr
    exact Or.inr (s.slotFor_current_self _)
  | @startCount cache todo next hperm =>
    have hr : r ∈ todo ++ [] := hr
    rw [List.append_nil, hperm.mem_iff] at hr
    exact Or.inr (State.current_of_mem_slotsOf hr)
  | descend =>
    rcases List.mem_cons.mp hr with rfl | hr
    · exact Or.inr (s.slotFor_current_self _)
    · exact Or.inl hr
  | tally =>
    refine Or.inl ?_
    simp only [Activity.pinned, Activity.slots, List.mem_append, List.mem_cons] at hr ⊢
    tauto
  | endCount hperm => exact Or.inl (hperm.mem_iff.mp hr)
  | release => exact Or.inl (List.mem_cons_of_mem _ hr)
  | keep => exact Or.inl (List.mem_cons_of_mem _ hr)
  | evict => exact Or.inl (List.mem_cons_of_mem _ hr)
  | @resume key slot outcome =>
    cases outcome with
    | ok v => exact Or.inl (List.mem_cons_of_mem _ hr)
    | error e => exact Or.inl hr
  | ask | miss | depart | endRelease | returnOutcome => exact absurd hr List.not_mem_nil
  | _ => exact Or.inl hr

/-- A computation that a move begins is of a slot that the thread has just found empty. -/
theorem computations_new (h : Move t s a a' u) {r : SlotRef S} (hr : r ∈ a'.computations) :
    r ∈ a.computations ∨ s.value r.1 r.2 = none := by
  cases h with
  | begin hv =>
    rcases List.mem_cons.mp hr with rfl | hr
    · exact Or.inr hv
    · exact Or.inl hr
  | succeed => exact Or.inl (List.mem_cons_of_mem _ hr)
  | fail => exact Or.inl (List.mem_cons_of_mem _ hr)
  | want => exact absurd hr List.not_mem_nil
  | _ => exact Or.inl hr

end Move

/-! ## 3. Who refers to an idle slot

A slot with two owners is referred to by its cache and by one call.  So when the failed call that
asks is that one, no other thread refers to the slot, and neither do the computations that wait
for the failed one. -/

/-- What is counted at one place of a list counts in its `flatMap`. -/
theorem count_le_count_flatMap {α β : Type} [BEq β] {f : α → List β} {l : List α} {i : Nat}
    {x : α} (h : l[i]? = some x) (b : β) : (f x).count b ≤ (l.flatMap f).count b := by
  rw [List.flatMap_def]
  exact (List.sublist_flatten_of_mem
    (List.mem_map.mpr ⟨x, List.mem_of_getElem? h, rfl⟩)).count_le b

/-- What is counted at two places of a list counts twice in its `flatMap`. -/
theorem add_count_le_count_flatMap {α β : Type} [BEq β] {f : α → List β} {l : List α}
    {i j : Nat} {x y : α} (hij : i < j) (hi : l[i]? = some x) (hj : l[j]? = some y) (b : β) :
    (f x).count b + (f y).count b ≤ (l.flatMap f).count b := by
  have hx : (l.take j)[i]? = some x := by rw [List.getElem?_take_of_lt hij, hi]
  have hy : (l.drop j)[0]? = some y := by rw [List.getElem?_drop, Nat.add_zero, hj]
  calc (f x).count b + (f y).count b
      ≤ ((l.take j).flatMap f).count b + ((l.drop j).flatMap f).count b :=
        Nat.add_le_add (count_le_count_flatMap hx b) (count_le_count_flatMap hy b)
    _ = (l.flatMap f).count b := by
        rw [← List.count_append, ← List.flatMap_append, List.take_append_drop]

namespace State

variable {s : State S ρ σ} {t : Nat} {key : S.Key} {slot : Nat}

theorem threads_of_doing? {a : Activity S ρ} (h : s.doing? t = some a) :
    ∃ th, s.threads[t]? = some th ∧ th.activity = a := Option.map_eq_some_iff.mp h

/-- Exactly one reference to an idle slot is a thread's. -/
theorem Idle.count_eq (h : s.Idle key slot) :
    (s.threads.flatMap fun th => th.activity.slots).count (key, slot) = 1 := by
  have h2 := h.1.2
  rw [owners, if_pos h.1.1] at h2
  omega

/-- **An idle slot is referred to by the failed call alone.** -/
theorem Idle.alone (h : s.Idle key slot) {e : S.Error} {stack : Stack S ρ key}
    (ht : s.doing? t = some (.evicting key slot e stack)) :
    (key, slot) ∉ stack.slots ∧
      ∀ t' b, t' ≠ t → s.doing? t' = some b → (key, slot) ∉ b.slots := by
  obtain ⟨th, hth, hact⟩ := threads_of_doing? ht
  have hown : th.activity.slots.count (key, slot) = stack.slots.count (key, slot) + 1 := by
    rw [hact, Activity.slots, List.count_cons_self]
  constructor
  · intro hmem
    have hpos : 0 < stack.slots.count (key, slot) := List.count_pos_iff.mpr hmem
    have hle := count_le_count_flatMap (f := fun th : Thread S ρ => th.activity.slots) hth
      (key, slot)
    have hone := h.count_eq
    omega
  · intro t' b hne hb hmem
    obtain ⟨th', hth', rfl⟩ := threads_of_doing? hb
    have hpos : 0 < th'.activity.slots.count (key, slot) := List.count_pos_iff.mpr hmem
    have hone := h.count_eq
    rcases Nat.lt_or_gt_of_ne hne with hlt | hlt
    · have hle := add_count_le_count_flatMap (f := fun th : Thread S ρ => th.activity.slots)
        hlt hth' hth (key, slot)
      omega
    · have hle := add_count_le_count_flatMap (f := fun th : Thread S ρ => th.activity.slots)
        hlt hth hth' (key, slot)
      omega

end State

/-! ## 4. The invariant -/

/-- The slots that a thread has locked; none for a thread that there is not. -/
def State.lockedBy (s : State S ρ σ) (t : Nat) : List (SlotRef S) :=
  ((s.doing? t).map Activity.locked).getD []

/-- **The invariant of all runs.** -/
structure Sound (s : State S ρ σ) : Prop where
  /-- The threads know which slots they have locked, and locked each of them once. -/
  locks : ∀ t key slot,
    (s.lockedBy t).count (key, slot) = if s.holder key slot = some t then 1 else 0
  /-- A slot that a call still acts upon is the slot of its key. -/
  pinned : ∀ t a, s.doing? t = some a → ∀ r ∈ a.pinned, s.current r.1 = some r.2
  /-- A slot with a value is the slot of its key. -/
  filled : ∀ key slot v, s.value key slot = some v → s.current key = some slot
  /-- A slot that is being computed is empty. -/
  vacant : ∀ t a, s.doing? t = some a → ∀ r ∈ a.computations, s.value r.1 r.2 = none
  /-- A call that is about to return a value has it from its slot. -/
  delivered : ∀ t key slot v stack, s.doing? t = some (.leaving key slot (.ok v) stack) →
    s.value key slot = some v

namespace Sound

variable {s : State S ρ σ} {t t' : Nat} {a b : Activity S ρ}

theorem holder_of_mem_locked (h : Sound s) (ha : s.doing? t = some a) {r : SlotRef S}
    (hr : r ∈ a.locked) : s.holder r.1 r.2 = some t := by
  have hc := h.locks t r.1 r.2
  rw [State.lockedBy, ha] at hc
  have hpos : 0 < a.locked.count (r.1, r.2) := List.count_pos_iff.mpr hr
  by_contra hne
  rw [if_neg hne] at hc
  exact absurd hc (Nat.pos_iff_ne_zero.mp hpos)

/-- Two threads have not locked the same slot. -/
theorem eq_of_mem_locked (h : Sound s) (ha : s.doing? t = some a) (hb : s.doing? t' = some b)
    {r : SlotRef S} (hra : r ∈ a.locked) (hrb : r ∈ b.locked) : t = t' :=
  Option.some.inj ((h.holder_of_mem_locked ha hra).symm.trans (h.holder_of_mem_locked hb hrb))

/-- A thread has locked each of its slots once. -/
theorem not_mem_of_locked_cons (h : Sound s) (ha : s.doing? t = some a) {r : SlotRef S}
    {rest : List (SlotRef S)} (hr : a.locked = r :: rest) : r ∉ rest := by
  intro hmem
  have hc := h.locks t r.1 r.2
  rw [State.lockedBy, ha] at hc
  have hpos : 0 < rest.count r := List.count_pos_iff.mpr hmem
  have htwo : a.locked.count r = rest.count r + 1 := by rw [hr, List.count_cons_self]
  have hle : a.locked.count r ≤ 1 := by
    refine Nat.le_trans (Nat.le_of_eq hc) ?_
    split <;> omega
  omega

/-- Values that a thread is computing are of slots of their keys. -/
theorem current_of_computation (h : Sound s) (ha : s.doing? t = some a) {r : SlotRef S}
    (hr : r ∈ a.computations) : s.current r.1 = some r.2 :=
  h.pinned t a ha r (a.locked_subset_pinned (a.computations_subset_locked hr))

/-- **Two threads do not compute a value for the same key.** -/
theorem eq_of_computation (h : Sound s) (ha : s.doing? t = some a) (hb : s.doing? t' = some b)
    {q r : SlotRef S} (hq : q ∈ a.computations) (hr : r ∈ b.computations) (hk : q.1 = r.1) :
    t = t' := by
  have hs : q.2 = r.2 := by
    have h1 := h.current_of_computation ha hq
    have h2 := h.current_of_computation hb hr
    rw [hk, h2, Option.some.injEq] at h1
    exact h1.symm
  obtain rfl : q = r := Prod.ext hk hs
  exact h.eq_of_mem_locked ha hb (a.computations_subset_locked hq)
    (b.computations_subset_locked hr)

end Sound

/-! ## 5. Every move keeps the invariant -/

section Move

variable {t : Nat} {s u : State S ρ Unit} {a a' : Activity S ρ}

theorem State.lockedBy_of_doing? {s : State S ρ σ} (h : s.doing? t = some a) :
    s.lockedBy t = a.locked := by rw [lockedBy, h]; rfl

theorem Move.lockedBy_self (h : Move t s a a' u) (ha : s.doing? t = some a) :
    (u.become t a').lockedBy t = a'.locked := State.lockedBy_of_doing? (h.doing?_self ha)

theorem Move.lockedBy_of_ne (h : Move t s a a' u) {t' : Nat} (ht : t' ≠ t) :
    (u.become t a').lockedBy t' = s.lockedBy t' := by
  rw [State.lockedBy, h.doing?_of_ne ht]
  rfl

/-- Locks are kept: a thread takes a lock only when it is free, and gives back only its own. -/
theorem Sound.locks_move (hs : Sound s) (ha : s.doing? t = some a) (h : Move t s a a' u)
    (t' : Nat) (key : S.Key) (slot : Nat) :
    ((u.become t a').lockedBy t').count (key, slot) =
      if (u.become t a').holder key slot = some t' then 1 else 0 := by
  have hold := hs.locks t' key slot
  show _ = if u.holder key slot = some t' then 1 else 0
  rcases h.locks with ⟨hh, hl⟩ | ⟨k, n, hfree, hh, hl⟩ | ⟨k, n, hh, hl⟩
  · rw [hh, ← hold]
    by_cases ht : t' = t
    · subst ht
      rw [h.lockedBy_self ha, State.lockedBy_of_doing? ha, hl]
    · rw [h.lockedBy_of_ne ht]
  · rw [hh]
    by_cases hr : (key, slot) = (k, n)
    · obtain ⟨rfl, rfl⟩ := Prod.mk.inj hr
      rw [State.setHolder_self]
      rw [hfree, if_neg (by simp)] at hold
      by_cases ht : t' = t
      · subst ht
        rw [State.lockedBy_of_doing? ha] at hold
        rw [h.lockedBy_self ha, hl, List.count_cons_self, hold, if_pos rfl]
      · rw [h.lockedBy_of_ne ht, hold, if_neg (by simpa using Ne.symm ht)]
    · rw [State.setHolder_of_ne _ _ hr, ← hold]
      by_cases ht : t' = t
      · subst ht
        rw [h.lockedBy_self ha, State.lockedBy_of_doing? ha, hl,
          List.count_cons_of_ne (Ne.symm hr)]
      · rw [h.lockedBy_of_ne ht]
  · rw [hh]
    by_cases hr : (key, slot) = (k, n)
    · obtain ⟨rfl, rfl⟩ := Prod.mk.inj hr
      rw [State.setHolder_self, if_neg (by simp)]
      by_cases ht : t' = t
      · subst ht
        rw [h.lockedBy_self ha]
        exact List.count_eq_zero.mpr (hs.not_mem_of_locked_cons ha hl)
      · have hown : s.holder key slot = some t :=
          hs.holder_of_mem_locked ha (r := (key, slot)) (hl ▸ List.mem_cons_self)
        rw [h.lockedBy_of_ne ht, hold, hown, if_neg (by simpa using Ne.symm ht)]
    · rw [State.setHolder_of_ne _ _ hr, ← hold]
      by_cases ht : t' = t
      · subst ht
        rw [h.lockedBy_self ha, State.lockedBy_of_doing? ha, hl,
          List.count_cons_of_ne (Ne.symm hr)]
      · rw [h.lockedBy_of_ne ht]

/-- A slot that some call still acts upon stays the slot of its key. -/
theorem Sound.pinned_move (hs : Sound s) (ha : s.doing? t = some a) (h : Move t s a a' u)
    (t' : Nat) (b : Activity S ρ) (hb : (u.become t a').doing? t' = some b) :
    ∀ r ∈ b.pinned, (u.become t a').current r.1 = some r.2 := by
  intro r hr
  show u.current r.1 = some r.2
  rcases h.doing_cases ha hb with ⟨-, rfl⟩ | ⟨hne, hb⟩
  · rcases h.pinned_new hr with hr' | hcur
    · rcases h.current_of_some (hs.pinned t a ha r hr') with hcur | ⟨e, stack, rfl, hidle, rfl⟩
      · exact hcur
      · exact absurd hr (hidle.alone ha).1
    · exact hcur
  · rcases h.current_of_some (hs.pinned t' b hb r hr) with hcur | ⟨e, stack, rfl, hidle, -⟩
    · exact hcur
    · exact absurd (b.pinned_subset_slots hr) ((hidle.alone ha).2 t' b hne hb)

/-- A value stays where it is. -/
theorem Sound.value_move (hs : Sound s) (ha : s.doing? t = some a) (h : Move t s a a' u)
    {key : S.Key} {slot : Nat} {v : S.Value key} (hv : s.value key slot = some v) :
    u.value key slot = some v := by
  rcases h.values with hu | ⟨k, n, w, stack, rfl, -, hu⟩
  · rw [hu, hv]
  · have hne : (key, slot) ≠ (k, n) := by
      intro e
      have hnone := hs.vacant t _ ha (key, slot) (e ▸ List.mem_cons_self)
      exact absurd (hv.symm.trans hnone) (by simp)
    rw [hu, State.setValue_of_ne _ _ hne, hv]

/-- The slot of a value stays the slot of its key: only an empty one is given up. -/
theorem Sound.filled_move (hs : Sound s) (ha : s.doing? t = some a) (h : Move t s a a' u)
    (key : S.Key) (slot : Nat) (v : S.Value key)
    (hv : (u.become t a').value key slot = some v) :
    (u.become t a').current key = some slot := by
  replace hv : u.value key slot = some v := hv
  show u.current key = some slot
  rcases h.values with hu | ⟨k, n, w, stack, rfl, rfl, hu⟩
  · rw [hu] at hv
    rcases h.current_of_some (hs.filled key slot v hv) with hcur | ⟨e, stack, -, hidle, -⟩
    · exact hcur
    · exact absurd hidle.2.2 (by simp [hv])
  · rw [hu] at hv
    by_cases hr : (key, slot) = (k, n)
    · have hcur := hs.pinned_move ha h t _ (h.doing?_self ha) (k, n) List.mem_cons_self
      obtain ⟨rfl, rfl⟩ := Prod.mk.inj hr
      exact hcur
    · rw [State.setValue_of_ne _ _ hr] at hv
      rcases h.current_of_some (hs.filled key slot v hv) with hcur | ⟨e, stack', he, -, -⟩
      · exact hcur
      · exact absurd he (by simp)

/-- A slot stays empty while it is being computed: only the thread that has locked it fills it,
and it ends the computation with that. -/
theorem Sound.vacant_move (hs : Sound s) (ha : s.doing? t = some a) (h : Move t s a a' u)
    (t' : Nat) (b : Activity S ρ) (hb : (u.become t a').doing? t' = some b) :
    ∀ r ∈ b.computations, (u.become t a').value r.1 r.2 = none := by
  intro r hr
  show u.value r.1 r.2 = none
  have hold : s.value r.1 r.2 = none := by
    rcases h.doing_cases ha hb with ⟨-, rfl⟩ | ⟨-, hb⟩
    · rcases h.computations_new hr with hr | hnone
      · exact hs.vacant t a ha r hr
      · exact hnone
    · exact hs.vacant t' b hb r hr
  rcases h.values with hu | ⟨k, n, v, stack, rfl, rfl, hu⟩
  · rw [hu, hold]
  · have hne : r ≠ (k, n) := by
      rintro rfl
      rcases h.doing_cases ha hb with ⟨-, rfl⟩ | ⟨hne, hb⟩
      · exact hs.not_mem_of_locked_cons ha rfl hr
      · exact hne (hs.eq_of_mem_locked hb ha (b.computations_subset_locked hr)
          List.mem_cons_self)
    rw [hu, State.setValue_of_ne _ _ hne, hold]

/-- A value that a call is about to return was in its slot, or is put there as it ends. -/
theorem Sound.delivered_move (hs : Sound s) (ha : s.doing? t = some a) (h : Move t s a a' u)
    (t' : Nat) (key : S.Key) (slot : Nat) (v : S.Value key) (stack : Stack S ρ key)
    (hb : (u.become t a').doing? t' = some (.leaving key slot (.ok v) stack)) :
    (u.become t a').value key slot = some v := by
  show u.value key slot = some v
  rcases h.doing_cases ha hb with ⟨-, rfl⟩ | ⟨-, hb⟩
  · cases h with
    | hit hv => exact hv
    | succeed => exact s.setValue_self key slot v
  · exact hs.value_move ha h (hs.delivered t' key slot v stack hb)

/-- **Every move keeps the invariant.** -/
theorem Sound.move (hs : Sound s) (ha : s.doing? t = some a) (h : Move t s a a' u) :
    Sound (u.become t a') where
  locks := hs.locks_move ha h
  pinned := hs.pinned_move ha h
  filled := hs.filled_move ha h
  vacant := hs.vacant_move ha h
  delivered := hs.delivered_move ha h

end Move

/-! ## 6. Every reachable state is sound -/

/-- A thread that has not begun runs its program. -/
theorem doing?_start {m : S.Caches} {programs : List (Program S ρ)} {world : σ} {t : Nat}
    {a : Activity S ρ} (h : (State.start m programs world).core.doing? t = some a) :
    ∃ p ∈ programs, a = .running p := by
  rw [State.core_doing?] at h
  obtain ⟨th, hth, rfl⟩ := Option.map_eq_some_iff.mp h
  rw [State.start, List.getElem?_map, Option.map_eq_some_iff] at hth
  obtain ⟨p, hp, rfl⟩ := hth
  exact ⟨p, List.mem_of_getElem? hp, rfl⟩

/-- Before the threads begin, the slots are those of the caches as they are. -/
theorem sound_start (m : S.Caches) (programs : List (Program S ρ)) (world : σ) :
    Sound (State.start m programs world).core where
  locks := by
    intro t key slot
    have hnone : (State.start m programs world).core.lockedBy t = [] := by
      rw [State.lockedBy]
      cases hd : (State.start m programs world).core.doing? t with
      | none => rfl
      | some a =>
        obtain ⟨p, -, rfl⟩ := doing?_start hd
        rfl
    rw [hnone, List.count_nil]
    exact (if_neg (by simp [State.start])).symm
  pinned := by
    intro t a ha r hr
    obtain ⟨p, -, rfl⟩ := doing?_start ha
    exact absurd hr List.not_mem_nil
  filled := by
    intro key slot v hv
    simp only [State.core_value, State.core_current, State.start, Memo.get?] at hv ⊢
    split at hv
    · subst slot
      rw [Option.join_eq_some_iff.mp hv]
      rfl
    · simp at hv
  vacant := by
    intro t a ha r hr
    obtain ⟨p, -, rfl⟩ := doing?_start ha
    exact absurd hr List.not_mem_nil
  delivered := by
    intro t key slot v stack ha
    obtain ⟨p, -, h⟩ := doing?_start ha
    exact absurd h (by simp)

/-- **Every state that a run reaches is sound.** -/
theorem Reaches.sound {respond : S.Respond σ} {m : S.Caches} {programs : List (Program S ρ)}
    {world : σ} {s : State S ρ σ} (h : State.Reaches respond (.start m programs world) s) :
    Sound s.core :=
  Reaches.core_induction h (sound_start m programs world) fun hs ha hm => hs.move ha hm

end PassContext.Machine
