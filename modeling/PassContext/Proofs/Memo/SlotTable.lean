/-
# What a table in memory looks like

While one caller takes steps, with computations inside computations, a slot can be in two states
only.  The slot of a key whose computation is in progress is empty, locked and referred to twice,
by the table and by whoever waits; every other slot has a value, is free and is referred to by the
table alone (`Sound`).  So a step can see from a slot whether its key is in progress, and the three
tests before a slot is taken out of the table always come out the same way.

For each change of a table it is said that it keeps this, which values there are then, and what it
is for the table without its memory (`toMemo`).
-/
import Mathlib.Data.List.Nodup
import PassContext.Memo.Slots
import PassContext.Proofs.Memo.Lookup
import PassContext.Proofs.Registry.Entries

namespace PassContext.Memo

variable {κ V : Type}

namespace SlotTable

variable {t : SlotTable κ V} {busy : List (κ × Nat)} {key : κ} {n : Nat}

/-! ## 1. Soundness -/

/-- The slot of a key whose value is being computed. -/
def inProgress : Slot V := ⟨none, true, 2⟩

/-- The slot of a key that has a value. -/
def holding (v : V) : Slot V := ⟨some v, false, 1⟩

/-- A table in memory, while the values of some keys are being computed in the given slots. -/
structure Sound (t : SlotTable κ V) (busy : List (κ × Nat)) : Prop where
  nodup : t.keys.Nodup
  apart : (t.refs.map Prod.snd).Nodup
  computing : ∀ r ∈ busy, r ∈ t.refs ∧ t.slots[r.2]? = some inProgress
  filled : ∀ r ∈ t.refs, r ∉ busy → ∃ v, t.slots[r.2]? = some (holding v)
  distinct : (busy.map Prod.fst).Nodup

theorem sound_empty : Sound (empty : SlotTable κ V) [] :=
  ⟨.nil, .nil, by simp, by simp [empty], .nil⟩

/-- The slots that keys have are in memory. -/
theorem Sound.lt (h : Sound t busy) {r : κ × Nat} (hr : r ∈ t.refs) : r.2 < t.slots.length := by
  by_cases hbusy : r ∈ busy
  · exact (List.getElem?_eq_some_iff.mp (h.computing r hbusy).2).1
  · obtain ⟨v, hv⟩ := h.filled r hr hbusy
    exact (List.getElem?_eq_some_iff.mp hv).1

/-- Two keys have different slots. -/
theorem Sound.eq_of_slot (h : Sound t busy) {r r' : κ × Nat} (hr : r ∈ t.refs) (hr' : r' ∈ t.refs)
    (hslot : r.2 = r'.2) : r = r' :=
  List.inj_on_of_nodup_map h.apart hr hr' hslot

/-- When nothing is being computed, there are as many slots as values. -/
theorem Sound.slotCount_eq_count (h : Sound t []) :
    t.toMemo.slotCount (fun _ => true) = t.toMemo.count (fun _ => true) := by
  have hfull : ∀ s ∈ t.toMemo.slots, s.2.isSome := by
    intro s hs
    obtain ⟨r, hr, rfl⟩ := List.mem_map.mp hs
    obtain ⟨v, hv⟩ := h.filled r hr List.not_mem_nil
    simp [held?, hv, holding]
  rw [slotCount, count]
  exact congrArg List.length (List.filter_congr fun s hs => by simp [hfull s hs])

/-! The slot of the computation that began last. -/

section Last

variable (h : Sound t ((key, n) :: busy))
include h

theorem Sound.head_mem : (key, n) ∈ t.refs := (h.computing _ List.mem_cons_self).1

theorem Sound.head_slot : t.slots[n]? = some inProgress := (h.computing _ List.mem_cons_self).2

theorem Sound.head_not_mem : key ∉ busy.map Prod.fst := (List.nodup_cons.mp h.distinct).1

/-- The slots of other keys are other slots. -/
theorem Sound.slot_ne {r : κ × Nat} (hr : r ∈ t.refs) (hne : r ≠ (key, n)) : r.2 ≠ n :=
  fun hslot => hne (h.eq_of_slot hr h.head_mem hslot)

end Last

section Lookup

variable [DecidableEq κ]

theorem ref?_eq_some_iff (h : Sound t busy) : t.ref? key = some n ↔ (key, n) ∈ t.refs :=
  ⟨mem_of_findEntry?_eq_some, findEntry?_of_mem h.nodup⟩

theorem value?_eq {s : Slot V} (href : t.ref? key = some n) (hs : t.slots[n]? = some s) :
    t.value? key = s.value := by
  rw [value?, href, Option.bind_some, held?, hs, Option.bind_some]

/-- **The three states of a key**: it has no slot, or one that holds a value, or one whose value is
being computed. -/
inductive KeyState (t : SlotTable κ V) (busy : List (κ × Nat)) (key : κ) : Prop
  | absent (href : t.ref? key = none) (hvalue : t.value? key = none)
      (hkey : key ∉ busy.map Prod.fst)
  | filled (n : Nat) (v : V) (href : t.ref? key = some n) (hslot : t.slots[n]? = some (holding v))
      (hvalue : t.value? key = some v) (hkey : key ∉ busy.map Prod.fst)
  | computing (n : Nat) (href : t.ref? key = some n) (hslot : t.slots[n]? = some inProgress)
      (hvalue : t.value? key = none) (hbusy : (key, n) ∈ busy)

theorem Sound.keyState (h : Sound t busy) (key : κ) : KeyState t busy key := by
  have href_of_busy : ∀ m, (key, m) ∈ busy → t.ref? key = some m := fun m hm =>
    (ref?_eq_some_iff h).mpr (h.computing _ hm).1
  cases href : t.ref? key with
  | none =>
    refine .absent href (by rw [value?, href]; rfl) fun hkey => ?_
    obtain ⟨⟨k, m⟩, hm, rfl⟩ := List.mem_map.mp hkey
    exact absurd (href.symm.trans (href_of_busy m hm)) (by simp)
  | some n =>
    by_cases hbusy : (key, n) ∈ busy
    · have hslot := (h.computing _ hbusy).2
      exact .computing n href hslot (value?_eq href hslot) hbusy
    · obtain ⟨v, hslot⟩ := h.filled _ ((ref?_eq_some_iff h).mp href) hbusy
      refine .filled n v href hslot (value?_eq href hslot) fun hkey => ?_
      obtain ⟨⟨k, m⟩, hm, rfl⟩ := List.mem_map.mp hkey
      obtain rfl : n = m := Option.some.inj (href.symm.trans (href_of_busy m hm))
      exact hbusy hm

theorem mem_keys_iff : key ∈ t.keys ↔ ∃ n, t.ref? key = some n := by
  constructor
  · intro hkey
    cases href : t.ref? key with
    | none => exact absurd hkey (not_mem_of_findEntry?_none href)
    | some n => exact ⟨n, rfl⟩
  · rintro ⟨n, href⟩
    exact List.mem_map_of_mem (mem_of_findEntry?_eq_some href)

/-- **The slots are those of the keys that have a value and of the keys in progress.** -/
theorem Sound.mem_keys_iff (h : Sound t busy) :
    key ∈ t.keys ↔ (t.value? key).isSome ∨ key ∈ busy.map Prod.fst := by
  rw [SlotTable.mem_keys_iff]
  cases h.keyState key with
  | absent href hvalue hkey => simp [href, hvalue, hkey]
  | filled n v href hslot hvalue hkey => simp [href, hvalue]
  | computing n href hslot hvalue hbusy =>
    have hkey : key ∈ busy.map Prod.fst := List.mem_map_of_mem hbusy
    simp only [href, hkey, or_true, iff_true]
    exact ⟨n, rfl⟩

/-- A key in progress has no value. -/
theorem Sound.value?_of_busy (h : Sound t busy) (hkey : key ∈ busy.map Prod.fst) :
    t.value? key = none := by
  cases h.keyState key with
  | absent _ _ hkey' => exact absurd hkey hkey'
  | filled _ _ _ _ _ hkey' => exact absurd hkey hkey'
  | computing _ _ _ hvalue _ => exact hvalue

/-- A key without a value that is not in progress has no slot. -/
theorem Sound.ref?_eq_none (h : Sound t busy) (hvalue : t.value? key = none)
    (hkey : key ∉ busy.map Prod.fst) : t.ref? key = none := by
  cases h.keyState key with
  | absent href _ _ => exact href
  | filled _ _ _ _ hvalue' _ => exact absurd (hvalue.symm.trans hvalue') (by simp)
  | computing _ _ _ _ hbusy => exact absurd (List.mem_map_of_mem hbusy) hkey

/-- A slot is referred to by the table, and by whoever waits for its computation. -/
theorem Sound.owners (h : Sound t busy) {r : κ × Nat} (hr : r ∈ t.refs) :
    ∃ s, t.slots[r.2]? = some s ∧ s.owners = 1 + busy.count r := by
  by_cases hbusy : r ∈ busy
  · have hcount : busy.count r = 1 :=
      List.count_eq_one_of_mem (h.distinct.of_map Prod.fst) hbusy
    exact ⟨_, (h.computing r hbusy).2, by rw [hcount]; rfl⟩
  · obtain ⟨v, hv⟩ := h.filled r hr hbusy
    exact ⟨_, hv, by rw [List.count_eq_zero.mpr hbusy]; rfl⟩

end Lookup

/-! ## 2. Changes of one slot -/

theorem modify_modify (t : SlotTable κ V) (n : Nat) (f g : Slot V → Slot V) :
    (t.modify n f).modify n g = t.modify n (g ∘ f) := by
  simp only [modify, List.modify_modify_eq]

theorem slots_modify_self {s : Slot V} (h : t.slots[n]? = some s) (f : Slot V → Slot V) :
    (t.modify n f).slots[n]? = some (f s) := by
  rw [modify, List.getElem?_modify_eq, h]
  rfl

theorem slots_modify_of_ne {m : Nat} (h : m ≠ n) (f : Slot V → Slot V) :
    (t.modify n f).slots[m]? = t.slots[m]? := by
  rw [modify, List.getElem?_modify_ne _ _ h.symm]

/-- A change of the slot of the last computation leaves what the others hold. -/
theorem held?_modify_of_ne (h : Sound t ((key, n) :: busy)) (f : Slot V → Slot V) {r : κ × Nat}
    (hr : r ∈ t.refs) (hne : r ≠ (key, n)) : (t.modify n f).held? r.2 = t.held? r.2 := by
  rw [held?, held?, slots_modify_of_ne (h.slot_ne hr hne)]

/-- A reference that is given back at once changes nothing. -/
theorem release_share (t : SlotTable κ V) (n : Nat) : (t.share n).release n = t := by
  rw [release, share, modify_modify]
  have hid : ((fun s => { s with owners := s.owners - 1 }) ∘
      fun s => { s with owners := s.owners + 1 } : Slot V → Slot V) = id := by
    funext s
    simp
  rw [hid, modify, List.modify_id]

/-- The table when a computation has succeeded. -/
theorem succeed_eq (t : SlotTable κ V) (n : Nat) (v : V) :
    t.succeed n v = t.modify n fun s => ⟨some v, false, s.owners - 1⟩ := by
  rw [succeed, release, unlock, store, modify_modify, modify_modify]
  rfl

/-! ## 3. A computation begins -/

/-- A slot that nobody has locked yet, referred to by the table and by whoever made it. -/
def fresh : Slot V := ⟨none, false, 2⟩

/-- The table when a computation for a key without a slot has begun. -/
def opened (t : SlotTable κ V) (key : κ) : SlotTable κ V :=
  ⟨t.slots ++ [inProgress], t.refs ++ [(key, t.slots.length)]⟩

theorem lock_fresh (t : SlotTable κ V) (key : κ) :
    (⟨t.slots ++ [fresh], t.refs ++ [(key, t.slots.length)]⟩ : SlotTable κ V).lock
      t.slots.length = t.opened key := by
  have hmodify : (t.slots ++ [fresh]).modify t.slots.length
      (fun s => { s with locked := true }) = t.slots ++ [inProgress] := by
    refine List.ext_getElem? fun m => ?_
    rw [List.getElem?_modify]
    rcases Nat.lt_trichotomy m t.slots.length with hm | rfl | hm
    · rw [List.getElem?_append_left hm, List.getElem?_append_left hm]
      simp [Nat.ne_of_gt hm]
    · simp [inProgress, fresh]
    · have hle := Nat.le_of_lt hm
      rw [List.getElem?_append_right hle, List.getElem?_append_right hle]
      simp [Nat.sub_ne_zero_of_lt hm]
  rw [lock, modify, hmodify, opened]

theorem slots_opened_of_lt (hn : n < t.slots.length) : (t.opened key).slots[n]? = t.slots[n]? :=
  List.getElem?_append_left hn

theorem slots_opened_self (t : SlotTable κ V) (key : κ) :
    (t.opened key).slots[t.slots.length]? = some inProgress := by
  rw [opened, List.getElem?_append_right (Nat.le_refl _), Nat.sub_self]
  rfl

variable [DecidableEq κ]

theorem claim_of_none (h : t.ref? key = none) : t.claim key =
    (t.slots.length, ⟨t.slots ++ [fresh], t.refs ++ [(key, t.slots.length)]⟩) := by
  simp only [claim, h, fresh]

theorem claim_of_some (h : t.ref? key = some n) : t.claim key = (n, t.share n) := by
  simp only [claim, h]

theorem Sound.opened (h : Sound t busy) (href : t.ref? key = none) :
    Sound (t.opened key) ((key, t.slots.length) :: busy) := by
  have habsent : key ∉ t.keys := not_mem_of_findEntry?_none href
  have hfresh : ∀ r ∈ t.refs, r.2 ≠ t.slots.length := fun r hr => Nat.ne_of_lt (h.lt hr)
  refine ⟨?_, ?_, ?_, ?_, ?_⟩
  · rw [keys, SlotTable.opened, List.map_append]
    exact h.nodup.append (by simp) (by simpa using habsent)
  · rw [SlotTable.opened, List.map_append]
    refine h.apart.append (by simp) ?_
    simpa using fun k hr => hfresh _ hr rfl
  · intro r hr
    rcases List.mem_cons.mp hr with rfl | hr
    · exact ⟨List.mem_append_right _ List.mem_cons_self, slots_opened_self t key⟩
    · obtain ⟨hmem, hslot⟩ := h.computing r hr
      exact ⟨List.mem_append_left _ hmem, (slots_opened_of_lt (h.lt hmem)).trans hslot⟩
  · intro r hr hbusy
    rw [List.mem_cons, not_or] at hbusy
    rcases List.mem_append.mp hr with hr | hr
    · rw [slots_opened_of_lt (h.lt hr)]
      exact h.filled r hr hbusy.2
    · exact absurd (List.mem_singleton.mp hr) hbusy.1
  · rw [List.map_cons, List.nodup_cons]
    refine ⟨fun hkey => habsent ?_, h.distinct⟩
    rw [h.mem_keys_iff]
    exact Or.inr hkey

/-! ## 4. A computation ends -/

theorem evict_eq (href : t.ref? key = some n) (hslot : t.slots[n]? = some fresh) :
    t.evict key n = { t.release n with refs := t.refs.filter (·.1 ≠ key) } := by
  simp [evict, href, hslot, fresh]

/-- The table when a computation has failed: the tests find that its slot can be taken away. -/
theorem fail_eq (href : t.ref? key = some n) (hslot : t.slots[n]? = some inProgress) :
    t.fail key n =
      { t.modify n fun s => ⟨s.value, false, s.owners - 1 - 1⟩ with
        refs := t.refs.filter (·.1 ≠ key) } := by
  have hfresh : (t.unlock n).slots[n]? = some fresh := slots_modify_self hslot _
  have href' : (t.unlock n).ref? key = some n := href
  rw [fail, evict_eq href' hfresh, release, release, unlock, modify_modify]
  simp only [modify, List.modify_modify_eq]
  rfl

section Ends

variable (h : Sound t ((key, n) :: busy))
include h

theorem Sound.succeed (v : V) : Sound (t.succeed n v) busy := by
  rw [succeed_eq]
  refine ⟨h.nodup, h.apart, fun r hr => ?_, fun r hr hbusy => ?_, (List.nodup_cons.mp h.distinct).2⟩
  · obtain ⟨hmem, hslot⟩ := h.computing r (List.mem_cons_of_mem _ hr)
    have hne : r ≠ (key, n) := by
      rintro rfl
      exact h.head_not_mem (List.mem_map_of_mem hr)
    exact ⟨hmem, (slots_modify_of_ne (h.slot_ne hmem hne) _).trans hslot⟩
  · by_cases hne : r = (key, n)
    · subst hne
      exact ⟨v, slots_modify_self h.head_slot _⟩
    · rw [slots_modify_of_ne (h.slot_ne hr hne)]
      exact h.filled r hr (by simp [hne, hbusy])

theorem Sound.fail : Sound (t.fail key n) busy := by
  rw [fail_eq ((ref?_eq_some_iff h).mpr h.head_mem) h.head_slot]
  have hsub : (t.refs.filter (·.1 ≠ key)).Sublist t.refs := List.filter_sublist
  have hne : ∀ r ∈ t.refs.filter (·.1 ≠ key), r ≠ (key, n) := by
    rintro r hr rfl
    exact absurd (List.mem_filter.mp hr).2 (by simp)
  refine ⟨h.nodup.sublist (hsub.map _), h.apart.sublist (hsub.map _), fun r hr => ?_,
    fun r hr hbusy => ?_, (List.nodup_cons.mp h.distinct).2⟩
  · obtain ⟨hmem, hslot⟩ := h.computing r (List.mem_cons_of_mem _ hr)
    have hkey : r.1 ≠ key := by
      rintro rfl
      exact h.head_not_mem (List.mem_map_of_mem hr)
    have hmem' : r ∈ t.refs.filter (·.1 ≠ key) := List.mem_filter.mpr ⟨hmem, by simpa using hkey⟩
    exact ⟨hmem', (slots_modify_of_ne (h.slot_ne hmem (hne r hmem')) _).trans hslot⟩
  · obtain ⟨v, hv⟩ := h.filled r (hsub.mem hr) (by simp [hne r hr, hbusy])
    exact ⟨v, (slots_modify_of_ne (h.slot_ne (hsub.mem hr) (hne r hr)) _).trans hv⟩

end Ends

/-! ## 5. The table without its memory -/

theorem findSlot?_map (key : κ) (f : Nat → Option V) (refs : List (κ × Nat)) :
    findSlot? (V := fun _ => V) key (refs.map fun r => ⟨r.1, f r.2⟩) =
      Option.map f ( findEntry? key refs) := by
  induction refs with
  | nil => rfl
  | cons r refs ih =>
    rw [List.map_cons]
    by_cases hr : r.1 = key
    · subst hr
      rw [findSlot?_cons_self, findEntry?_cons_of_eq rfl]
      rfl
    · rw [findSlot?_cons_of_ne hr, findEntry?_cons_of_ne hr, ih]

theorem putSlot_map_of_none {f : Nat → Option V} {refs : List (κ × Nat)}
    (href : findEntry? key refs = none) (s : Option V) :
    putSlot (V := fun _ => V) key s (refs.map fun r => ⟨r.1, f r.2⟩) =
      (refs.map fun r => ⟨r.1, f r.2⟩) ++ [⟨key, s⟩] := by
  induction refs with
  | nil => rfl
  | cons r refs ih =>
    by_cases hr : r.1 = key
    · rw [findEntry?_cons_of_eq hr] at href
      exact absurd href (Option.some_ne_none r.2)
    · rw [findEntry?_cons_of_ne hr] at href
      rw [List.map_cons, putSlot, if_neg hr, ih href, List.cons_append]

theorem putSlot_map_of_mem {f g : Nat → Option V} {refs : List (κ × Nat)}
    (hnodup : (refs.map Prod.fst).Nodup) (hmem : (key, n) ∈ refs)
    (hother : ∀ r ∈ refs, r ≠ (key, n) → g r.2 = f r.2) :
    putSlot (V := fun _ => V) key (g n) (refs.map fun r => ⟨r.1, f r.2⟩) =
      refs.map fun r => ⟨r.1, g r.2⟩ := by
  induction refs with
  | nil => exact absurd hmem List.not_mem_nil
  | cons r refs ih =>
    rw [List.map_cons, List.nodup_cons] at hnodup
    rw [List.map_cons, List.map_cons, putSlot]
    have hrest : ∀ r' ∈ refs, r' ≠ (key, n) → g r'.2 = f r'.2 := fun r' hr' =>
      hother r' (List.mem_cons_of_mem _ hr')
    rcases List.mem_cons.mp hmem with rfl | hmem
    · rw [if_pos rfl]
      congr 1
      refine List.map_congr_left fun r' hr' => ?_
      have hne : r' ≠ (key, n) := by
        rintro rfl
        exact hnodup.1 (List.mem_map.mpr ⟨_, hr', rfl⟩)
      rw [hrest r' hr' hne]
    · have hkey : r.1 ≠ key := by
        intro hkey
        exact hnodup.1 (List.mem_map.mpr ⟨_, hmem, hkey.symm⟩)
      rw [if_neg hkey, ih hnodup.2 hmem hrest,
        hother r List.mem_cons_self fun hr => hkey (congrArg Prod.fst hr)]

theorem slot?_toMemo (t : SlotTable κ V) (key : κ) :
    t.toMemo.slot? key = (t.ref? key).map t.held? := findSlot?_map key t.held? t.refs

@[simp] theorem get?_toMemo (t : SlotTable κ V) (key : κ) : t.toMemo.get? key = t.value? key := by
  rw [get?, slot?_toMemo, value?]
  cases t.ref? key <;> rfl

theorem toMemo_opened (h : Sound t busy) (href : t.ref? key = none) :
    (t.opened key).toMemo = t.toMemo.reserve key := by
  have hslot : ¬ (t.toMemo.slot? key).isSome := by
    rw [slot?_toMemo, href]
    exact Bool.false_ne_true
  have hrefs : ∀ r ∈ t.refs, (t.opened key).held? r.2 = t.held? r.2 := fun r hr => by
    rw [held?, held?, slots_opened_of_lt (h.lt hr)]
  have hself : (t.opened key).held? t.slots.length = none := by
    rw [held?, slots_opened_self]
    rfl
  have hput := putSlot_map_of_none (f := t.held?) href none
  rw [reserve, if_neg hslot, toMemo, toMemo, hput]
  congr 1
  rw [opened, List.map_append]
  congr 1
  · exact List.map_congr_left fun r hr => congrArg (Sigma.mk r.1) (hrefs r hr)
  · exact congrArg (fun s => [Sigma.mk key s]) hself

section Ends

variable (h : Sound t ((key, n) :: busy))
include h

theorem toMemo_succeed (v : V) : (t.succeed n v).toMemo = t.toMemo.fill key v := by
  rw [succeed_eq]
  have hself : (t.modify n fun s => ⟨some v, false, s.owners - 1⟩).held? n = some v := by
    rw [held?, slots_modify_self h.head_slot]
    rfl
  have hput := putSlot_map_of_mem h.nodup h.head_mem fun r hr hne =>
    held?_modify_of_ne h (fun s => ⟨some v, false, s.owners - 1⟩) hr hne
  rw [hself] at hput
  exact congrArg Memo.mk hput.symm

theorem toMemo_fail : (t.fail key n).toMemo = t.toMemo.evict key := by
  have href := (ref?_eq_some_iff h).mpr h.head_mem
  have hvalue : ¬ (t.toMemo.get? key).isSome := by
    rw [get?_toMemo, value?_eq href h.head_slot]
    exact Bool.false_ne_true
  rw [Memo.evict, if_neg hvalue, fail_eq href h.head_slot]
  refine congrArg Memo.mk ?_
  rw [toMemo, List.filter_map]
  refine List.map_congr_left fun r hr => ?_
  have hne : r ≠ (key, n) := by
    rintro rfl
    exact absurd (List.mem_filter.mp hr).2 (by simp)
  exact congrArg (Sigma.mk r.1) (held?_modify_of_ne h _ (List.mem_filter.mp hr).1 hne)

end Ends

/-- A slot that is made changes no value. -/
theorem value?_opened (h : Sound t busy) (href : t.ref? key = none) :
    (t.opened key).value? = t.value? := by
  funext other
  rw [← get?_toMemo, toMemo_opened h href, get?_reserve, get?_toMemo]

/-- A computation that succeeds changes the value of its own key. -/
theorem value?_succeed (h : Sound t ((key, n) :: busy)) (v : V) :
    (t.succeed n v).value? = Function.update t.value? key (some v) := by
  funext other
  rw [← get?_toMemo, toMemo_succeed h]
  by_cases hkey : other = key
  · subst hkey
    rw [get?_fill_self, Function.update_self]
  · rw [get?_fill_of_ne _ hkey, get?_toMemo, Function.update_of_ne hkey]

/-- A computation that fails changes no value. -/
theorem value?_fail (h : Sound t ((key, n) :: busy)) : (t.fail key n).value? = t.value? := by
  funext other
  rw [← get?_toMemo, toMemo_fail h, get?_evict, get?_toMemo]

end SlotTable

end PassContext.Memo
