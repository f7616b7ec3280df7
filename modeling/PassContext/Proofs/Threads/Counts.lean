/-
# A count was true at some moment

A count takes the slots of its cache at one moment and reads them one after the other.  Meanwhile
other calls fill slots that it has read already and make slots that it never looks at, so its number
may be that of none of the moments at which it read.

It is still the number of keys that had a value at some moment.  Values are never lost, and a value
is only ever in the slot that its key has in the cache.  So the number is at least that of the
moment when the count begins, and at most that of the moment when it ends (`Tally`).  No step gives
more than one key its value, so no number in between is skipped (`State.exists_between`).
-/
import Mathlib.Data.List.Nodup
import Mathlib.Data.List.Perm.Subperm
import PassContext.Memo.Race
import PassContext.Proofs.Memo.Lookup
import PassContext.Proofs.Threads.Schedules
import PassContext.Proofs.Threads.Soundness

namespace PassContext.Machine

variable {S : Service} {ρ σ : Type}

/-! ## 1. The keys that have a value -/

namespace State

/-- How many keys of a cache have a value. -/
def valueCount (s : State S ρ σ) (cache : S.Cache) : Nat :=
  s.caches.count fun key => S.cacheOf key == cache

/-- Whether the slot of a key holds a value. -/
def holds (s : State S ρ σ) (key : S.Key) : Bool := ((s.current key).bind (s.value key)).isSome

/-- The keys of a cache that have a value. -/
def filledKeys (s : State S ρ σ) (cache : S.Cache) : List S.Key :=
  s.keys.filter fun key => S.cacheOf key == cache && s.holds key

theorem valueCount_eq_length (s : State S ρ σ) (cache : S.Cache) :
    s.valueCount cache = (s.filledKeys cache).length := by
  rw [valueCount, Memo.count, caches, ← List.countP_eq_length_filter, List.countP_filterMap,
    filledKeys, ← List.countP_eq_length_filter]
  refine List.countP_congr fun key _ => ?_
  rw [holds]
  cases s.current key <;> simp

theorem core_valueCount (s : State S ρ σ) (cache : S.Cache) :
    s.core.valueCount cache = s.valueCount cache := rfl

/-- **The keys that have ever had a slot are listed once.** -/
structure Listed (s : State S ρ σ) : Prop where
  nodup : s.keys.Nodup
  mem : ∀ key slot, s.current key = some slot → key ∈ s.keys

end State

variable {s : State S ρ σ} {cache : S.Cache} {key : S.Key}

theorem mem_filledKeys_iff (hs : Sound s) (hl : s.Listed) :
    key ∈ s.filledKeys cache ↔ S.cacheOf key = cache ∧ ∃ slot v, s.value key slot = some v := by
  simp only [State.filledKeys, State.holds, List.mem_filter, Bool.and_eq_true, beq_iff_eq,
    Option.isSome_iff_exists, Option.bind_eq_some_iff]
  constructor
  · rintro ⟨-, hcache, v, slot, -, hv⟩
    exact ⟨hcache, slot, v, hv⟩
  · rintro ⟨hcache, slot, v, hv⟩
    have hcurrent : s.current key = some slot := hs.filled key slot v hv
    exact ⟨hl.mem key slot hcurrent, hcache, v, slot, hcurrent, hv⟩

theorem valueCount_le_of_subset {keys : List S.Key} (hl : s.Listed)
    (h : s.filledKeys cache ⊆ keys) : s.valueCount cache ≤ keys.length := by
  rw [s.valueCount_eq_length]
  exact (List.subperm_of_subset (hl.nodup.filter _) h).length_le

theorem length_le_valueCount {keys : List S.Key} (hkeys : keys.Nodup)
    (h : keys ⊆ s.filledKeys cache) : keys.length ≤ s.valueCount cache := by
  rw [s.valueCount_eq_length]
  exact (List.subperm_of_subset hkeys h).length_le

/-! ## 2. What a move does to the count -/

theorem State.Listed.slotFor (hl : s.Listed) (key : S.Key) : (s.slotFor key).2.Listed := by
  unfold State.slotFor
  cases hc : s.current key with
  | some slot => exact hl
  | none =>
    have hmem (k : S.Key) : k ∈ (if key ∈ s.keys then s.keys else s.keys ++ [key]) ↔
        k ∈ s.keys ∨ k = key := by
      split_ifs with hkey
      · exact ⟨.inl, fun h => h.elim id fun e => e ▸ hkey⟩
      · rw [List.mem_append, List.mem_singleton]
    refine ⟨?_, fun k n hk => (hmem k).mpr ?_⟩
    · show (if key ∈ s.keys then s.keys else s.keys ++ [key]).Nodup
      split_ifs with hkey
      · exact hl.nodup
      · rw [← List.concat_eq_append]
        exact hl.nodup.concat hkey
    · by_cases hkey : k = key
      · exact .inr hkey
      · exact .inl (hl.mem k n ((if_neg hkey).symm.trans hk))

section Move

variable {t : Nat} {s u : State S ρ Unit} {a a' : Activity S ρ}

theorem State.Listed.move (hl : s.Listed) (h : Move t s a a' u) : (u.become t a').Listed := by
  suffices hu : u.Listed from ⟨hu.nodup, hu.mem⟩
  cases h with
  | want => exact hl.slotFor _
  | descend => exact hl.slotFor _
  | @evict key slot e stack hidle =>
    refine ⟨hl.nodup, fun k n hk => ?_⟩
    by_cases hkey : k = key
    · exact absurd ((if_pos hkey).symm.trans hk) (by simp)
    · exact hl.mem k n ((if_neg hkey).symm.trans hk)
  | _ => exact ⟨hl.nodup, hl.mem⟩

/-- **Values are never lost.** -/
theorem Sound.valueCount_mono (hs : Sound s) (hl : s.Listed) (ha : s.doing? t = some a)
    (h : Move t s a a' u) (cache : S.Cache) :
    s.valueCount cache ≤ (u.become t a').valueCount cache := by
  rw [s.valueCount_eq_length]
  refine length_le_valueCount (hl.nodup.filter _) fun key hkey => ?_
  obtain ⟨hcache, slot, v, hv⟩ := (mem_filledKeys_iff hs hl).mp hkey
  exact (mem_filledKeys_iff (hs.move ha h) (hl.move h)).mpr
    ⟨hcache, slot, v, hs.value_move ha h hv⟩

/-- **No move gives more than one key its value.** -/
theorem Sound.valueCount_move_le (hs : Sound s) (hl : s.Listed) (ha : s.doing? t = some a)
    (h : Move t s a a' u) (cache : S.Cache) :
    (u.become t a').valueCount cache ≤ s.valueCount cache + 1 := by
  have hmem : ∀ key, key ∈ (u.become t a').filledKeys cache →
      S.cacheOf key = cache ∧ ∃ slot v, u.value key slot = some v :=
    fun key hkey => (mem_filledKeys_iff (hs.move ha h) (hl.move h)).mp hkey
  rcases h.values with hu | ⟨k, n, w, stack, -, -, hu⟩
  · refine Nat.le_succ_of_le ?_
    rw [s.valueCount_eq_length]
    refine valueCount_le_of_subset (hl.move h) fun key hkey => ?_
    rw [mem_filledKeys_iff hs hl, ← hu]
    exact hmem key hkey
  · have hsub : (u.become t a').filledKeys cache ⊆ k :: s.filledKeys cache := by
      intro key hkey
      obtain ⟨hcache, slot, v, hv⟩ := hmem key hkey
      by_cases hk : key = k
      · exact List.mem_cons.mpr (.inl hk)
      · have hne : (key, slot) ≠ (k, n) := fun e => hk (Prod.mk.inj e).1
        rw [hu, State.setValue_of_ne s w hne] at hv
        exact List.mem_cons_of_mem _ ((mem_filledKeys_iff hs hl).mpr ⟨hcache, slot, v, hv⟩)
    rw [s.valueCount_eq_length]
    exact valueCount_le_of_subset (hl.move h) hsub

end Move

/-! ## 3. A count in progress -/

/-- Whether a slot holds a value. -/
def State.isFilled (s : State S ρ σ) (r : SlotRef S) : Bool := (s.value r.1 r.2).isSome

/-- A count in progress: the cache, the slots that are still to be read, those that were read, and
how many of these held a value. -/
def Activity.tally? : Activity S ρ → Option (S.Cache × List (SlotRef S) × List (SlotRef S) × Nat)
  | .counting cache todo done n _ => some (cache, todo, done, n)
  | .tallying cache key slot todo done n _ => some (cache, (key, slot) :: todo, done, n)
  | _ => none

/-- **What keeps a count between two moments**: it does not fall behind `low`, the number at the
first one, and it has counted nothing that is not there at the second one. -/
structure Tally (s : State S ρ σ) (cache : S.Cache) (low : Nat) (todo done : List (SlotRef S))
    (n : Nat) : Prop where
  apart : ((todo ++ done).map Prod.fst).Nodup
  ofCache : ∀ r ∈ todo ++ done, S.cacheOf r.1 = cache
  low_le : low ≤ n + todo.countP s.isFilled
  le_done : n ≤ done.countP s.isFilled

theorem mem_slotsOf_iff {r : SlotRef S} :
    r ∈ s.slotsOf cache ↔ r.1 ∈ s.keys ∧ S.cacheOf r.1 = cache ∧ s.current r.1 = some r.2 := by
  simp only [State.slotsOf, List.mem_filterMap, List.mem_filter, beq_iff_eq, Option.map_eq_some_iff]
  constructor
  · rintro ⟨key, ⟨hkey, hcache⟩, slot, hslot, rfl⟩
    exact ⟨hkey, hcache, hslot⟩
  · rintro ⟨hkey, hcache, hslot⟩
    exact ⟨r.1, ⟨hkey, hcache⟩, r.2, hslot, rfl⟩

/-- The slots of a cache are of different keys. -/
theorem State.Listed.nodup_slotsOf (hl : s.Listed) (cache : S.Cache) :
    ((s.slotsOf cache).map Prod.fst).Nodup := by
  rw [State.slotsOf, List.map_filterMap]
  refine (hl.nodup.filter _).filterMap fun k k' key hk hk' => ?_
  simp only [Option.map_map, Option.mem_def, Option.map_eq_some_iff] at hk hk'
  obtain ⟨_, _, hkey⟩ := hk
  obtain ⟨_, _, hkey'⟩ := hk'
  exact hkey.trans hkey'.symm

namespace Tally

variable {low n : Nat} {todo done : List (SlotRef S)} {r : SlotRef S}

/-- Where the count begins, all that has a value is among the slots that it takes, in whatever
order it takes them. -/
theorem start (hs : Sound s) (hl : s.Listed) (hlow : low ≤ s.valueCount cache)
    (hperm : todo.Perm (s.slotsOf cache)) : Tally s cache low todo [] 0 where
  apart := by
    rw [List.append_nil, (hperm.map Prod.fst).nodup_iff]
    exact hl.nodup_slotsOf cache
  ofCache r hr := by
    rw [List.append_nil, hperm.mem_iff] at hr
    exact (mem_slotsOf_iff.mp hr).2.1
  low_le := by
    have hsub : s.filledKeys cache ⊆ (todo.filter s.isFilled).map Prod.fst := by
      intro key hkey
      obtain ⟨hcache, slot, v, hv⟩ := (mem_filledKeys_iff hs hl).mp hkey
      have hcurrent := hs.filled key slot v hv
      refine List.mem_map.mpr ⟨(key, slot), List.mem_filter.mpr ⟨hperm.mem_iff.mpr ?_, ?_⟩, rfl⟩
      · exact mem_slotsOf_iff.mpr ⟨hl.mem key slot hcurrent, hcache, hcurrent⟩
      · exact Option.isSome_iff_exists.mpr ⟨v, hv⟩
    have hle := valueCount_le_of_subset hl hsub
    rw [List.length_map, ← List.countP_eq_length_filter] at hle
    omega
  le_done := Nat.zero_le _

/-- A count in progress is not disturbed where no slot loses its value. -/
theorem mono {u : State S ρ σ} (h : Tally s cache low todo done n)
    (hkept : ∀ r, s.isFilled r = true → u.isFilled r = true) :
    Tally u cache low todo done n where
  apart := h.apart
  ofCache := h.ofCache
  low_le := Nat.le_trans h.low_le
    (Nat.add_le_add_left (List.countP_mono_left fun r _ => hkept r) n)
  le_done := Nat.le_trans h.le_done (List.countP_mono_left fun r _ => hkept r)

/-- A slot that is read is counted if it holds a value. -/
theorem read (h : Tally s cache low (r :: todo) done n) :
    Tally s cache low todo (r :: done) (if s.isFilled r then n + 1 else n) := by
  have hperm : (todo ++ r :: done).Perm (r :: todo ++ done) := List.perm_middle
  have hlow := h.low_le
  have hdone := h.le_done
  rw [List.countP_cons] at hlow
  refine ⟨(hperm.map Prod.fst).nodup_iff.mpr h.apart, ?_, ?_, ?_⟩
  · intro q hq
    exact h.ofCache q (hperm.mem_iff.mp hq)
  · split_ifs at hlow ⊢ <;> omega
  · rw [List.countP_cons]
    split_ifs <;> omega

/-- **Where the count ends, all that it counted has a value.** -/
theorem le_valueCount (h : Tally s cache low [] done n) (hs : Sound s) (hl : s.Listed) :
    low ≤ n ∧ n ≤ s.valueCount cache := by
  refine ⟨h.low_le, Nat.le_trans h.le_done ?_⟩
  rw [List.countP_eq_length_filter, ← List.length_map (f := Prod.fst)]
  refine length_le_valueCount ?_ fun key hkey => ?_
  · exact h.apart.sublist (List.filter_sublist.map Prod.fst)
  · obtain ⟨r, hr, rfl⟩ := List.mem_map.mp hkey
    obtain ⟨hdone, hfilled⟩ := List.mem_filter.mp hr
    obtain ⟨v, hv⟩ := Option.isSome_iff_exists.mp hfilled
    exact (mem_filledKeys_iff hs hl).mpr ⟨h.ofCache r hdone, r.2, v, hv⟩

end Tally

/-! ## 4. Every move keeps the count between the two moments -/

/-- The invariant of all states behind one in which `low` keys of the cache have a value and thread
`t` counts nothing. -/
structure CountsFrom (low : Nat) (t : Nat) (cache : S.Cache) (s : State S ρ σ) : Prop where
  sound : Sound s
  listed : s.Listed
  low_le : low ≤ s.valueCount cache
  tally : ∀ a todo done n, s.doing? t = some a → a.tally? = some (cache, todo, done, n) →
    Tally s cache low todo done n

section Move

variable {t t' : Nat} {s u : State S ρ Unit} {a a' : Activity S ρ} {low n : Nat}
  {todo done : List (SlotRef S)}

/-- **What a move does to a count**: nothing, or the count begins, or it reads its next slot. -/
theorem Move.tally_cases (h : Move t s a a' u) (ha' : a'.tally? = some (cache, todo, done, n)) :
    a.tally? = some (cache, todo, done, n) ∨
    (todo.Perm (s.slotsOf cache) ∧ done = [] ∧ n = 0) ∨
    ∃ r read k, a.tally? = some (cache, r :: todo, read, k) ∧ done = r :: read ∧
      n = if s.isFilled r then k + 1 else k := by
  cases h with
  | startCount hperm =>
    obtain ⟨rfl, rfl, rfl, rfl⟩ := by simpa [Activity.tally?] using ha'
    exact .inr (.inl ⟨hperm, rfl, rfl⟩)
  | lockCounting => exact .inl ha'
  | tally =>
    obtain ⟨rfl, rfl, rfl, rfl⟩ := by simpa [Activity.tally?] using ha'
    exact .inr (.inr ⟨_, _, _, rfl, rfl, rfl⟩)
  | _ => exact absurd ha' (by simp [Activity.tally?])

theorem Sound.isFilled_move (hs : Sound s) (ha : s.doing? t = some a) (h : Move t s a a' u)
    (r : SlotRef S) (hr : s.isFilled r = true) : (u.become t a').isFilled r = true := by
  obtain ⟨v, hv⟩ := Option.isSome_iff_exists.mp hr
  exact Option.isSome_iff_exists.mpr ⟨v, hs.value_move ha h hv⟩

/-- **Every move keeps a count between the two moments.** -/
theorem CountsFrom.move (hc : CountsFrom low t cache s) (ha : s.doing? t' = some a)
    (h : Move t' s a a' u) : CountsFrom low t cache (u.become t' a') where
  sound := hc.sound.move ha h
  listed := hc.listed.move h
  low_le := Nat.le_trans hc.low_le (hc.sound.valueCount_mono hc.listed ha h cache)
  tally b todo done n hb htally := by
    have hkept := hc.sound.isFilled_move ha h
    rcases h.doing_cases ha hb with ⟨rfl, rfl⟩ | ⟨-, hb⟩
    · rcases h.tally_cases htally with hold | ⟨hperm, rfl, rfl⟩ | ⟨r, read, k, hold, rfl, rfl⟩
      · exact (hc.tally a todo done n ha hold).mono hkept
      · exact (Tally.start hc.sound hc.listed hc.low_le hperm).mono hkept
      · exact (hc.tally a (r :: todo) read k ha hold).read.mono hkept
    · exact (hc.tally b todo done n hb htally).mono hkept

end Move

/-! ## 5. Every count -/

/-- With its next step a thread returns `n` from a count. -/
def State.Returns (respond : S.Respond σ) (s : State S ρ σ) (t : Nat) (cache : S.Cache)
    (n : Nat) : Prop :=
  ∃ order s', s.step respond ⟨t, order⟩ = some s' ∧ s'.events = .counted t cache n :: s.events

section Run

variable {respond : S.Respond σ} {m : S.Caches} {programs : List (Program S ρ)} {world : σ}
variable {schedule : List (Turn S)} {s s' : State S ρ σ} {turn : Turn S} {t n : Nat}

/-- A count returns when it has read all of its slots. -/
theorem State.Returns.counting (h : s.Returns respond t cache n) :
    ∃ done next, s.core.doing? t = some (.counting cache [] done n next) := by
  obtain ⟨order, s', hstep, hevents⟩ := h
  rcases step_core hstep with hsame | ⟨a, a', u, ha, hmove, hu⟩
  · have hnone : s'.core.events = s.core.events := congrArg State.events hsame
    exact absurd (hnone.symm.trans hevents) List.ne_cons_self
  · have hadd : u.events = .counted t cache n :: s.core.events :=
      (congrArg State.events hu).symm.trans hevents
    cases hmove with
    | endCount =>
      obtain ⟨-, rfl, rfl⟩ := Event.counted.inj (List.cons.inj hadd).1
      exact ⟨_, _, ha⟩
    | want =>
      rw [State.slotFor_events] at hadd
      exact absurd hadd List.ne_cons_self
    | descend =>
      rw [State.slotFor_events] at hadd
      exact absurd hadd List.ne_cons_self
    | miss | read | begin | succeed | fail | inquire | returnOutcome | resume =>
      exact absurd (List.cons.inj hadd).1 (by simp)
    | _ => exact absurd hadd List.ne_cons_self

/-- The first keys are those of the caches. -/
theorem listed_start (hm : m.keys.Nodup) : (State.start m programs world).core.Listed where
  nodup := hm
  mem key slot hslot := by
    obtain ⟨value, hvalue, -⟩ := Option.map_eq_some_iff.mp hslot
    exact Memo.mem_of_findSlot?_eq_some hvalue

theorem Reaches.listed (hm : m.keys.Nodup)
    (h : State.Reaches respond (.start m programs world) s) : s.core.Listed :=
  Reaches.core_induction h (listed_start hm) fun hl _ hmove => hl.move hmove

/-- No step gives more than one key its value. -/
theorem Sound.valueCount_step_le (hs : Sound s.core) (hl : s.core.Listed)
    (h : s.step respond turn = some s') (cache : S.Cache) :
    s'.valueCount cache ≤ s.valueCount cache + 1 := by
  rw [← s'.core_valueCount, ← s.core_valueCount]
  rcases step_core h with hsame | ⟨a, a', u, ha, hmove, hu⟩
  · rw [hsame]
    exact Nat.le_succ _
  · rw [hu]
    exact hs.valueCount_move_le hl ha hmove cache

/-- **A count was true at some moment.**  If a thread is about to count the keys of a cache that
have a value, and it returns a number later in the run, then this was their number in some state in
between.  It may count more than once until then: this is said of each number that it returns. -/
theorem counted_at_some_moment (hm : m.keys.Nodup)
    (h : State.Reaches respond (.start m programs world) s) {next : Nat → Program S ρ}
    (hbegin : s.doing? t = some (.running (.count cache next)))
    (hrun : s.follow respond schedule = some s') (hreturn : s'.Returns respond t cache n) :
    ∃ earlier later u, schedule = earlier ++ later ∧ s.follow respond earlier = some u ∧
      u.valueCount cache = n := by
  have hstart : CountsFrom (s.valueCount cache) t cache s.core := by
    refine ⟨Reaches.sound h, Reaches.listed hm h, Nat.le_refl _, fun a todo done n ha htally => ?_⟩
    obtain rfl := Option.some.inj (ha.symm.trans ((s.core_doing? t).trans hbegin))
    exact absurd htally (by simp [Activity.tally?])
  have hcounts {u : State S ρ σ} (hu : State.Reaches respond s u) :
      CountsFrom (s.valueCount cache) t cache u.core :=
    Reaches.core_induction hu hstart fun hc ha hmove => hc.move ha hmove
  have hend := hcounts (State.reaches_iff_follow.mpr ⟨schedule, hrun⟩)
  obtain ⟨done, next', hcounting⟩ := hreturn.counting
  obtain ⟨hlow, hhigh⟩ :=
    (hend.tally _ _ _ _ hcounting rfl).le_valueCount hend.sound hend.listed
  refine State.exists_between hrun (fun hu hstep => ?_) hlow hhigh
  exact (hcounts hu).sound.valueCount_step_le (hcounts hu).listed hstep cache

end Run

/-! ## 6. A number that was never read -/

/-- Fetches a key, asking for its value. -/
def storeText (key : String) : Program Memo.textService Nat :=
  .fetch key (.ask () fun answer => .finish answer) fun _ => .result 0

/-- A thread counts while three others store values. -/
def countAmongStores : State Memo.textService Nat Nat :=
  .start .empty [.count () .result, storeText "a", storeText "b", storeText "c"] 0

/-- The slots of `a` and `b` are taken when both are empty.  That of `a` is read, all three keys get
their values, and that of `b` is read. -/
def lateStores : List (Turn Memo.textService) :=
  [1, 1, 2, 2, 0, 0, 0, 0, 1, 1, 1, 1, 2, 2, 2, 2, 3, 3, 3, 3, 3, 3, 0, 0].map .plain

/-- One of the slots that are read is filled, but three keys have a value by then: one key had a
value before the second one was filled. -/
theorem counted_at_some_moment_lateStores :
    ∃ s', countAmongStores.follow (Memo.numbered 0) lateStores = some s' ∧
      s'.Returns (Memo.numbered 0) 0 () 1 ∧ countAmongStores.valueCount () = 0 ∧
      s'.valueCount () = 3 ∧
      ∃ earlier later u, lateStores = earlier ++ later ∧
        countAmongStores.follow (Memo.numbered 0) earlier = some u ∧ u.valueCount () = 1 := by
  obtain ⟨s', hrun, hreturn, hcount⟩ :
      ∃ s', countAmongStores.follow (Memo.numbered 0) lateStores = some s' ∧
        s'.Returns (Memo.numbered 0) 0 () 1 ∧ s'.valueCount () = 3 :=
    ⟨_, rfl, ⟨.listed, _, rfl, rfl⟩, rfl⟩
  exact ⟨s', hrun, hreturn, rfl, hcount,
    counted_at_some_moment (m := .empty) List.nodup_nil (.refl _) rfl hrun hreturn⟩

end PassContext.Machine
