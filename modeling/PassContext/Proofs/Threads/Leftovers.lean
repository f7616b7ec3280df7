/-
# What failed computations leave behind

A failed call tests once whether it may take its slot away, and it keeps the slot if anybody else
refers to it.  Nobody comes back to a slot that was kept: if the others give up their references
without a computation that succeeds, the slot stays, although it is empty and no call is in
progress any more.  A caller that waits to look at the key is enough for that
(`slot_left_for_reader`), and two failed calls can do it to each other (`slot_left_behind`).

This is the only way.  As long as a slot is empty, somebody is still going to fill it or to test
it (`Activity.tended`), or else a failed call tested it and kept it, because someone referred to
it besides (`SkippedIn`).  A move of a thread keeps that (`Move.tended`), and so does a run.  So
where no test was skipped, every slot has a value once all calls have returned.
-/
import PassContext.Proofs.Memo.Filled
import PassContext.Proofs.Threads.LockOrder
import PassContext.Proofs.Threads.Schedules
import PassContext.Proofs.Threads.SingleFlight

namespace PassContext.Machine

variable {S : Service} {ρ σ : Type}

/-! ## 1. Slots that are kept -/

namespace State

variable (respond : S.Respond σ)

/-- No thread is in the middle of a call. -/
def quiet (s : State S ρ σ) : Bool :=
  s.threads.all fun th => match th.activity with
    | .running _ => true
    | _ => false

/-- In this step a thread whose computation failed keeps the empty slot, because there are
references to it besides that of the cache and its own. -/
def Skips (s : State S ρ σ) (turn : Turn S) (key : S.Key) (slot : Nat) : Prop :=
  ∃ s' e stack, s.step respond turn = some s' ∧
    s.doing? turn.thread = some (.evicting key slot e stack) ∧
    s'.doing? turn.thread = some (.leaving key slot (.error e) stack) ∧ 2 < s.owners key slot

/-- Somewhere along the schedule a slot is kept. -/
def SkippedIn (s : State S ρ σ) (schedule : List (Turn S)) (key : S.Key) (slot : Nat) : Prop :=
  ∃ earlier turn later u, schedule = earlier ++ turn :: later ∧
    s.follow respond earlier = some u ∧ u.Skips respond turn key slot

variable {respond} {s : State S ρ σ} {schedule : List (Turn S)}

theorem SkippedIn.concat {key : S.Key} {slot : Nat} (h : s.SkippedIn respond schedule key slot)
    (turn : Turn S) : s.SkippedIn respond (schedule ++ [turn]) key slot := by
  obtain ⟨earlier, turn', later, u, rfl, hu, hskips⟩ := h
  exact ⟨earlier, turn', later ++ [turn], u, by simp, hu, hskips⟩

end State

/-! ## 2. Who is still going to see to a slot -/

/-- The slots that a thread is still going to fill, to find filled, or to test. -/
def Activity.tended : Activity S ρ → List (SlotRef S)
  | .wanting key slot _ stack | .entered key slot _ stack | .computing key slot _ stack
  | .evicting key slot _ stack => (key, slot) :: stack.slots
  | .leaving _ _ _ stack => stack.slots
  | _ => []

namespace State

theorem slotFor_current_of_ne {s : State S ρ σ} {k key : S.Key} (h : k ≠ key) :
    (s.slotFor key).2.current k = s.current k := by
  unfold slotFor
  cases s.current key with
  | none => exact if_neg h
  | some n => rfl

theorem setCurrent_of_ne {s : State S ρ σ} {k key : S.Key} (h : k ≠ key) (n : Option Nat) :
    (s.setCurrent key n).current k = s.current k := if_neg h

end State

namespace Move

variable {t : Nat} {s u : State S ρ Unit} {a a' : Activity S ρ} {r : SlotRef S}

/-- **An empty slot was empty before**, or it was made by this move, for a call that wants it. -/
theorem empty_before (h : Move t s a a' u) (hcurrent : u.current r.1 = some r.2)
    (hempty : u.value r.1 r.2 = none) :
    r ∈ a'.tended ∨ s.current r.1 = some r.2 ∧ s.value r.1 r.2 = none := by
  have hvalue : s.value r.1 r.2 = none := by
    rcases h.values with hu | ⟨k, n, v, stack, -, -, hu⟩
    · rw [← hu, hempty]
    · rw [hu] at hempty
      by_cases hr : r = (k, n)
      · subst hr
        exact absurd ((s.setValue_self k n v).symm.trans hempty) (by simp)
      · rwa [State.setValue_of_ne _ _ hr] at hempty
  have hslot {key : S.Key} (hu : (s.slotFor key).2.current r.1 = some r.2) :
      r = (key, (s.slotFor key).1) ∨ s.current r.1 = some r.2 := by
    by_cases hkey : r.1 = key
    · refine .inl (Prod.ext hkey ?_)
      rw [hkey, s.slotFor_current_self] at hu
      exact (Option.some.inj hu).symm
    · exact .inr ((State.slotFor_current_of_ne hkey).symm.trans hu)
  cases h with
  | want =>
    rcases hslot hcurrent with rfl | hcurrent
    · exact .inl List.mem_cons_self
    · exact .inr ⟨hcurrent, hvalue⟩
  | descend =>
    rcases hslot hcurrent with rfl | hcurrent
    · exact .inl List.mem_cons_self
    · exact .inr ⟨hcurrent, hvalue⟩
  | @evict key slot e stack hidle =>
    by_cases hkey : r.1 = key
    · have hnone : (s.setCurrent key none).current r.1 = none := if_pos hkey
      exact absurd (hnone.symm.trans hcurrent) (by simp)
    · exact .inr ⟨(State.setCurrent_of_ne hkey none).symm.trans hcurrent, hvalue⟩
  | _ => exact .inr ⟨hcurrent, hvalue⟩

/-- **Who tends an empty slot goes on to do so**, unless his computation failed, he tested the slot
and he kept it. -/
theorem tended (h : Move t s a a' u) (hr : r ∈ a.tended) (hcurrent : u.current r.1 = some r.2)
    (hempty : u.value r.1 r.2 = none) :
    r ∈ a'.tended ∨ ∃ e stack, a = .evicting r.1 r.2 e stack ∧
      a' = .leaving r.1 r.2 (.error e) stack ∧ ¬ s.Idle r.1 r.2 := by
  cases h with
  | enter | begin | fail | inquire => exact .inl hr
  | descend => exact .inl (List.mem_cons_of_mem _ hr)
  | hit hv =>
    rcases List.mem_cons.mp hr with rfl | hr
    · exact absurd (hv.symm.trans hempty) (by simp)
    · exact .inl hr
  | @succeed key slot v stack =>
    rcases List.mem_cons.mp hr with rfl | hr
    · exact absurd ((s.setValue_self key slot v).symm.trans hempty) (by simp)
    · exact .inl hr
  | @evict key slot e stack =>
    rcases List.mem_cons.mp hr with rfl | hr
    · have hnone : (s.setCurrent key none).current key = none := if_pos rfl
      exact absurd (hnone.symm.trans hcurrent) (by simp)
    · exact .inl hr
  | keep hidle =>
    rcases List.mem_cons.mp hr with rfl | hr
    · exact .inr ⟨_, _, rfl, rfl, hidle⟩
    · exact .inl hr
  | resume => exact .inl hr
  | returnOutcome => exact absurd hr List.not_mem_nil
  | _ => exact absurd hr List.not_mem_nil

end Move

/-! ## 3. Why a slot is kept -/

/-- **An empty slot is kept only for the sake of others**: there are more references to it than
that of its cache and that of the failed call. -/
theorem Sound.two_lt_owners {s : State S ρ σ} (hs : Sound s.core) {t : Nat} {key : S.Key}
    {slot : Nat} {e : S.Error} {stack : Stack S ρ key}
    (ha : s.doing? t = some (.evicting key slot e stack)) (hempty : s.value key slot = none)
    (hidle : ¬ s.Idle key slot) : 2 < s.owners key slot := by
  have ha' : s.core.doing? t = some (.evicting key slot e stack) := (s.core_doing? t).trans ha
  have hcurrent : s.current key = some slot := hs.pinned t _ ha' (key, slot) List.mem_cons_self
  obtain ⟨th, hth, hact⟩ := State.threads_of_doing? ha
  have hown : th.activity.slots.count (key, slot) = stack.slots.count (key, slot) + 1 := by
    rw [hact, Activity.slots, List.count_cons_self]
  have hle := count_le_count_flatMap (f := fun th : Thread S ρ => th.activity.slots) hth (key, slot)
  have howners : s.owners key slot =
      1 + (s.threads.flatMap fun th => th.activity.slots).count (key, slot) := by
    rw [State.owners, if_pos hcurrent]
  by_contra hfew
  have htwo : s.owners key slot = 2 := by omega
  -- With two owners, the slot is kept only if someone has locked it; but whoever has locked it
  -- is a third one.
  cases hholder : s.holder key slot with
  | none => exact hidle ⟨⟨hcurrent, htwo⟩, hholder, by rw [hempty]; rfl⟩
  | some t' =>
    obtain ⟨th', hth', hlocked⟩ := hs.exists_of_holder hholder
    by_cases ht : t' = t
    · subst ht
      obtain rfl : th = th' := Option.some.inj (hth.symm.trans hth')
      rw [hact] at hlocked
      have hpos : 0 < stack.slots.count (key, slot) := List.count_pos_iff.mpr hlocked
      omega
    · have hmem := th'.activity.pinned_subset_slots (th'.activity.locked_subset_pinned hlocked)
      have hpos : 0 < th'.activity.slots.count (key, slot) := List.count_pos_iff.mpr hmem
      rcases Nat.lt_or_gt_of_ne ht with hlt | hlt
      · have hboth := add_count_le_count_flatMap
          (f := fun th : Thread S ρ => th.activity.slots) hlt hth' hth (key, slot)
        omega
      · have hboth := add_count_le_count_flatMap
          (f := fun th : Thread S ρ => th.activity.slots) hlt hth hth' (key, slot)
        omega

/-! ## 4. Along a run -/

section Run

variable {respond : S.Respond σ} {m : S.Caches} {programs : List (Program S ρ)} {world : σ}
variable {schedule : List (Turn S)} {s : State S ρ σ}

/-- At the start no slot is empty, if none of the caches is. -/
theorem value_start_ne_none (hm : m.Filled) {r : SlotRef S}
    (h : (State.start m programs world).current r.1 = some r.2) :
    (State.start m programs world).value r.1 r.2 ≠ none := by
  obtain ⟨value, hvalue, hslot⟩ := Option.map_eq_some_iff.mp h
  rw [hm.slot?_eq, Option.map_eq_some_iff] at hvalue
  obtain ⟨v, hv, -⟩ := hvalue
  show (if r.2 = 0 then m.get? r.1 else none) ≠ none
  rw [if_pos hslot.symm, hv]
  exact Option.some_ne_none v

/-- **An empty slot is tended, or it was kept.** -/
theorem tended_or_skipped (hm : m.Filled)
    (h : (State.start m programs world).follow respond schedule = some s) {r : SlotRef S}
    (hcurrent : s.current r.1 = some r.2) (hempty : s.value r.1 r.2 = none) :
    (∃ t a, s.doing? t = some a ∧ r ∈ a.tended) ∨
      (State.start m programs world).SkippedIn respond schedule r.1 r.2 := by
  induction schedule using List.reverseRecOn generalizing s with
  | nil =>
    obtain rfl : State.start m programs world = s := Option.some.inj h
    exact absurd hempty (value_start_ne_none hm hcurrent)
  | append_singleton schedule turn ih =>
    obtain ⟨u, hu, hstep⟩ := State.follow_concat.mp h
    rcases step_core hstep with hsame | ⟨a, a', w, ha, hmove, hw⟩
    · -- A step that only takes the lock of a cache.
      have hdoing (t' : Nat) : u.doing? t' = s.doing? t' := by
        rw [← u.core_doing?, ← hsame, s.core_doing?]
      rw [← s.core_current, hsame] at hcurrent
      rw [← s.core_value, hsame] at hempty
      rcases ih hu hcurrent hempty with ⟨t', b, hb, hr⟩ | hskipped
      · exact .inl ⟨t', b, (hdoing t').symm.trans hb, hr⟩
      · exact .inr (hskipped.concat turn)
    · have hdoing (t' : Nat) : s.doing? t' = (w.become turn.thread a').doing? t' := by
        rw [← s.core_doing?, hw]
      rw [← s.core_current, hw] at hcurrent
      rw [← s.core_value, hw] at hempty
      rcases hmove.empty_before hcurrent hempty with hr | ⟨hcurrent', hempty'⟩
      · exact .inl ⟨turn.thread, a', (hdoing _).trans (hmove.doing?_self ha), hr⟩
      · rcases ih hu hcurrent' hempty' with ⟨t', b, hb, hr⟩ | hskipped
        · by_cases ht : t' = turn.thread
          · subst ht
            obtain rfl : a = b := Option.some.inj (ha.symm.trans ((u.core_doing? _).trans hb))
            rcases hmove.tended hr hcurrent hempty with hr' | ⟨e, stack, rfl, rfl, hidle⟩
            · exact .inl ⟨turn.thread, a', (hdoing _).trans (hmove.doing?_self ha), hr'⟩
            · refine .inr ⟨schedule, turn, [], u, rfl, hu, s, e, stack, hstep, hb, ?_, ?_⟩
              · exact (hdoing _).trans (hmove.doing?_self ha)
              · have hsound := Reaches.sound (State.reaches_iff_follow.mpr ⟨schedule, hu⟩)
                rw [State.core_idle] at hidle
                exact hsound.two_lt_owners hb hempty' hidle
          · refine .inl ⟨t', b, ?_, hr⟩
            rw [hdoing, hmove.doing?_of_ne ht, u.core_doing?, hb]
        · exact .inr (hskipped.concat turn)

/-- Between calls nobody tends a slot. -/
theorem not_tended_of_quiet (h : s.quiet = true) {t : Nat} {a : Activity S ρ}
    (ha : s.doing? t = some a) : a.tended = [] := by
  obtain ⟨th, hth, rfl⟩ := State.threads_of_doing? ha
  have hrunning := List.all_eq_true.mp h th (List.mem_of_getElem? hth)
  cases hact : th.activity with
  | running p => rfl
  | _ =>
    rw [hact] at hrunning
    exact absurd hrunning (by simp)

variable (respond m programs world schedule s)

/-- What is left when all calls have returned, in a run along a schedule. -/
structure LeftBehind : Prop where
  /-- An empty slot was kept by a failed call, because someone referred to it besides. -/
  skipped : ∀ key slot, s.current key = some slot → s.value key slot = none →
    (State.start m programs world).SkippedIn respond schedule key slot
  /-- If no failed call kept a slot of a key, its slot has a value. -/
  filled : ∀ key,
    (∀ slot, ¬ (State.start m programs world).SkippedIn respond schedule key slot) →
    ∀ slot, s.current key = some slot → ∃ v, s.value key slot = some v
  /-- Then a key whose computations all failed has no slot. -/
  failed : ∀ key,
    (∀ slot, ¬ (State.start m programs world).SkippedIn respond schedule key slot) →
    m.get? key = none → (∀ t outcome, .ended t key outcome ∈ s.events → ∃ e, outcome = .error e) →
    s.current key = none
  /-- If no slot of any key was kept, there are as many slots as values, in each cache. -/
  counts :
    (∀ key slot, ¬ (State.start m programs world).SkippedIn respond schedule key slot) →
    ∀ among, s.caches.slotCount among = s.caches.count among

variable {respond m programs world schedule s}

/-- Where every slot has a value, there are as many slots as values. -/
theorem slotCount_eq_count (h : ∀ key slot, s.current key = some slot →
    ∃ v, s.value key slot = some v) (among : S.Key → Bool) :
    s.caches.slotCount among = s.caches.count among := by
  rw [Memo.slotCount, Memo.count]
  refine congrArg List.length (List.filter_congr fun entry hentry => ?_)
  obtain ⟨key, -, hkey⟩ := List.mem_filterMap.mp hentry
  obtain ⟨slot, hslot, rfl⟩ := Option.map_eq_some_iff.mp hkey
  obtain ⟨v, hv⟩ := h key slot hslot
  rw [hv, Option.isSome_some, Bool.and_true]

/-- **Failed computations leave nothing behind, unless a failed call kept its slot for the sake of
others**: in every run of any threads, once all calls have returned. -/
theorem leftBehind (hm : m.Filled)
    (h : (State.start m programs world).follow respond schedule = some s)
    (hquiet : s.quiet = true) : LeftBehind respond m programs world schedule s := by
  have hskipped (key : S.Key) (slot : Nat) (hcurrent : s.current key = some slot)
      (hempty : s.value key slot = none) :
      (State.start m programs world).SkippedIn respond schedule key slot := by
    rcases tended_or_skipped hm h (r := (key, slot)) hcurrent hempty with
      ⟨t, a, ha, hr⟩ | hskipped
    · rw [not_tended_of_quiet hquiet ha] at hr
      exact absurd hr List.not_mem_nil
    · exact hskipped
  have hfilled (key : S.Key)
      (hnever : ∀ slot, ¬ (State.start m programs world).SkippedIn respond schedule key slot)
      (slot : Nat) (hcurrent : s.current key = some slot) :
      ∃ v, s.value key slot = some v := by
    cases hvalue : s.value key slot with
    | none => exact absurd (hskipped key slot hcurrent hvalue) (hnever slot)
    | some v => exact ⟨v, rfl⟩
  refine ⟨hskipped, hfilled, fun key hnever hnone hfailed => ?_, fun hnever among => ?_⟩
  · cases hcurrent : s.current key with
    | none => rfl
    | some slot =>
      obtain ⟨v, hv⟩ := hfilled key hnever slot hcurrent
      obtain ⟨-, hrecorded⟩ := Reaches.recorded (State.reaches_iff_follow.mpr ⟨schedule, h⟩)
      rcases (hrecorded.values key v).mpr ⟨slot, hv⟩ with hold | ⟨t, hended⟩
      · exact absurd (hold.symm.trans hnone) (by simp)
      · obtain ⟨e, he⟩ := hfailed t _ hended
        exact absurd he (by simp)
  · exact slotCount_eq_count (fun key => hfilled key (hnever key)) among

end Run

/-- A thread that fetches a key alone and fails leaves nothing behind. -/
theorem leftBehind_failedAlone :
    ∃ s, (State.start .empty [Memo.fetchText "k"] 0).follow (Memo.numbered 1)
        (List.replicate 9 (.plain 0)) = some s ∧ s.quiet = true ∧ s.current "k" = none ∧
      LeftBehind (Memo.numbered 1) .empty [Memo.fetchText "k"] 0
        (List.replicate 9 (.plain 0)) s :=
  ⟨_, rfl, rfl, rfl, leftBehind Memo.filled_empty rfl rfl⟩

/-! ## 5. A slot that is kept for others -/

/-- Looks at a key. -/
def lookAtText (key : String) : Program Memo.textService (Except Unit String) :=
  .get key fun value => .result (value.elim (.error ()) .ok)

/-- A thread looks at a key while another one computes its value, ... -/
def lookedAt : List (Turn Memo.textService) := [0, 0, 0, 0, 1, 1].map .plain

/-- ... and reads its slot only when the computation has failed and its caller has tested it. -/
def readLate : List (Turn Memo.textService) := [0, 0, 0, 0, 0, 1, 1, 1].map .plain

/-- **A slot is kept for the sake of a caller that waits for it**, who then finds it empty and
leaves it as it is. -/
theorem slot_left_for_reader :
    ∃ u s, (State.start .empty [Memo.fetchText "k", lookAtText "k"] 0).follow (Memo.numbered 1)
        lookedAt = some u ∧ u.WaitsFor 1 0 ∧
      u.follow (Memo.numbered 1) readLate = some s ∧ u.SkippedIn (Memo.numbered 1) readLate "k" 0 ∧
      s.quiet = true ∧ s.current "k" = some 0 ∧ s.value "k" 0 = none := by
  refine ⟨_, _, rfl, ⟨.slot "k" 0, rfl, rfl⟩, rfl, ?_, rfl, rfl, rfl⟩
  exact ⟨[0, 0, 0].map .plain, .plain 0, [0, 1, 1, 1].map .plain, _, rfl, rfl,
    _, (), _, rfl, rfl, rfl, by decide⟩

/-- Two threads fetch a key, and both fail.  The first one keeps the slot because the second one
waits for it; the second one keeps it because the first one has not given up its reference yet. -/
def twoFailures : List (Turn Memo.textService) :=
  [0, 0, 1, 1, 0, 0, 0, 0, 0, 0, 1, 1, 1, 1, 1, 1, 0, 1].map .plain

/-- **An empty slot can be left behind** when all calls have returned: the slot of a key whose
computations have all failed. -/
theorem slot_left_behind :
    ¬∀ (programs : List (Program Memo.textService (Except Unit String))) (failures : Nat)
      (schedule : List (Turn Memo.textService))
      (s : State Memo.textService (Except Unit String) Nat),
      (State.start .empty programs 0).follow (Memo.numbered failures) schedule = some s →
      s.quiet = true →
      ∀ key slot, s.current key = some slot → ∃ v, s.value key slot = some v := by
  intro hfilled
  obtain ⟨v, hv⟩ := hfilled [Memo.fetchText "k", Memo.fetchText "k"] 2 twoFailures _ rfl rfl "k" 0
    rfl
  have hnone : none = some v := hv
  exact absurd hnone (by simp)

end PassContext.Machine
