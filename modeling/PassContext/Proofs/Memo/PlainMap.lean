/-
# A memo table is a plain map

Steps can be answered on a map from keys to values: a look gives the value of its key; a fetch
gives the value that is there, or the steps of its computation are answered on the map and their
value, if they have one, is put into it.  No step may use a key whose value is being computed
(`onMap`).

A table in memory answers steps as the map does.  In between it has, for every key, a slot exactly
if the key has a value or its value is being computed; so when all is done, the slots can be counted
as the values.  The only way for steps to be stuck is to use a key whose value is being computed.
The main statement is `refinesPlainMap`.
-/
import Mathlib.Logic.Function.Basic
import PassContext.Proofs.Memo.SlotTable

namespace PassContext.Memo

open Point SlotTable

variable {κ V : Type} [DecidableEq κ]

/-! ## 1. Steps on a map -/

/-- What steps come to on a map: their result, the values behind them, and what happened. -/
structure OnMap (κ V ρ : Type) : Type 1 where
  result : ρ
  values : κ → Option V
  events : List (StepEvent κ V)

/-- The same, after something else had happened. -/
def OnMap.after {ρ : Type} (events : List (StepEvent κ V)) (a : OnMap κ V ρ) : OnMap κ V ρ :=
  { a with events := events ++ a.events }

/-- The values after a computation for a key. -/
def stored {ε : Type} (m : κ → Option V) (key : κ) : Except ε V → κ → Option V
  | .ok v => Function.update m key (some v)
  | .error _ => m

/-- Steps on a map, while the values of the keys `busy` are being computed. -/
def Steps.onMap :
    {ρ : Type} → Steps κ V ρ → (busy : List κ) → (κ → Option V) → Option (OnMap κ V ρ)
  | _, .done r, _, m => some ⟨r, m, []⟩
  | _, .get key next, busy, m =>
    if key ∈ busy then none
    else ((next (m key)).onMap busy m).map (.after [.found key (m key)])
  | _, .fetch (ε := ε) key before init next, busy, m =>
    if key ∈ busy then none
    else
      match m key with
      | some v =>
        ((next (.ok v, before)).onMap busy m).map (.after [.fetched (ε := ε) key (.ok v)])
      | none =>
        match init.onMap (key :: busy) m with
        | none => none
        | some a =>
          ((next a.result).onMap busy (stored a.values key a.result.1)).map
            (.after (.began key :: a.events ++ [.ended key a.result.1, .fetched key a.result.1]))

/-! ## 2. The end of a computation -/

/-- A table after a computation for a key. -/
def settled {ε : Type} (m : Memo κ (fun _ => V)) (key : κ) :
    Except ε V → Memo κ (fun _ => V)
  | .ok v => m.fill key v
  | .error _ => m.evict key

section Finish

variable {t : SlotTable κ V} {busy : List (κ × Nat)} {key : κ} {n : Nat} {ε : Type}
variable (h : Sound t ((key, n) :: busy)) (outcome : Except ε V)
include h

theorem SlotTable.Sound.finish : Sound (t.finish key n outcome) busy := by
  cases outcome with
  | ok v => exact h.succeed v
  | error e => exact h.fail

theorem value?_finish : (t.finish key n outcome).value? = stored t.value? key outcome := by
  cases outcome with
  | ok v => exact value?_succeed h v
  | error e => exact value?_fail h

theorem toMemo_finish :
    (t.finish key n outcome).toMemo = settled t.toMemo key outcome := by
  cases outcome with
  | ok v => exact toMemo_succeed h v
  | error e => exact toMemo_fail h

end Finish

section Fetch

variable {ρ ε σ : Type} {m m' : Memo κ (fun _ => V)} {key : κ} {before after : σ}
variable {init : Steps κ V (Except ε V × σ)} {next : Except ε V × σ → Steps κ V ρ}

theorem run_fetch_of_some {v : V} (hvalue : m.get? key = some v) :
    (Steps.fetch key before init next).run m = (next (.ok v, before)).run m := by
  simp only [Steps.run, fetch_of_some hvalue]

theorem run_fetch_of_none {outcome : Except ε V} (hvalue : m.get? key = none)
    (hinit : init.run (m.reserve key) = ((outcome, after), m')) :
    (Steps.fetch key before init next).run m =
      (next (outcome, after)).run (settled m' key outcome) := by
  cases outcome with
  | ok v => simp only [Steps.run, fetch, hvalue, hinit, settled]
  | error e => simp only [Steps.run, fetch, hvalue, hinit, settled]

end Fetch

/-! ## 3. One step -/

section Step

variable {α ρ ε σ : Type} {t : SlotTable κ V} {key : κ} {waiting : Waiting κ V α ρ}
variable {events : List (StepEvent κ V)} {before : σ} {init : Steps κ V (Except ε V × σ)}
variable {look : Option V → Steps κ V ρ} {next : Except ε V × σ → Steps κ V ρ}
variable (h : Sound t waiting.slots)
include h

theorem step_get (hkey : key ∉ waiting.slots.map Prod.fst) :
    (⟨t, .get key look, waiting, events⟩ : Point κ V α).step =
      some ⟨t, look (t.value? key), waiting, events ++ [.found key (t.value? key)]⟩ := by
  cases h.keyState key with
  | absent href hvalue => simp only [step, Point.look, href, hvalue]
  | filled n v href hslot hvalue =>
    have hshared : (t.share n).slots[n]? = some { holding v with owners := 2 } :=
      slots_modify_self hslot _
    simp [step, Point.look, href, hvalue, hshared, holding, release_share]
  | computing n href hslot hvalue hbusy => exact absurd (List.mem_map_of_mem hbusy) hkey

theorem step_get_of_busy (hkey : key ∈ waiting.slots.map Prod.fst) :
    (⟨t, .get key look, waiting, events⟩ : Point κ V α).step = none := by
  cases h.keyState key with
  | absent _ _ hkey' => exact absurd hkey hkey'
  | filled _ _ _ _ _ hkey' => exact absurd hkey hkey'
  | computing n href hslot =>
    have hshared : (t.share n).slots[n]? = some { inProgress with owners := 3 } :=
      slots_modify_self hslot _
    simp [step, Point.look, href, hshared, inProgress]

theorem step_fetch_of_some {v : V} (hvalue : t.value? key = some v) :
    (⟨t, .fetch key before init next, waiting, events⟩ : Point κ V α).step =
      some ⟨t, next (.ok v, before), waiting, events ++ [.fetched (ε := ε) key (.ok v)]⟩ := by
  cases h.keyState key with
  | absent _ hvalue' => exact absurd (hvalue.symm.trans hvalue') (by simp)
  | computing _ _ _ hvalue' => exact absurd (hvalue.symm.trans hvalue') (by simp)
  | filled n w href hslot hvalue' =>
    obtain rfl : v = w := Option.some.inj (hvalue.symm.trans hvalue')
    have hshared : (t.share n).slots[n]? = some { holding v with owners := 2 } :=
      slots_modify_self hslot _
    simp [step, enter, claim_of_some href, hshared, holding, release_share]

theorem step_fetch_of_none (hvalue : t.value? key = none)
    (hkey : key ∉ waiting.slots.map Prod.fst) :
    (⟨t, .fetch key before init next, waiting, events⟩ : Point κ V α).step =
      some ⟨t.opened key, init, .fetch key t.slots.length next waiting,
        events ++ [.began key]⟩ := by
  have href := h.ref?_eq_none hvalue hkey
  have hslot : (t.slots ++ [fresh])[t.slots.length]? = some fresh := by simp
  simp only [step, enter, claim_of_none href, hslot]
  simp [fresh, ← lock_fresh]

theorem step_fetch_of_busy (hkey : key ∈ waiting.slots.map Prod.fst) :
    (⟨t, .fetch key before init next, waiting, events⟩ : Point κ V α).step = none := by
  cases h.keyState key with
  | absent _ _ hkey' => exact absurd hkey hkey'
  | filled _ _ _ _ _ hkey' => exact absurd hkey hkey'
  | computing n href hslot =>
    have hshared : (t.share n).slots[n]? = some { inProgress with owners := 3 } :=
      slots_modify_self hslot _
    simp [step, enter, claim_of_some href, hshared, inProgress]

end Step

/-! ## 4. All steps -/

theorem Point.Reaches.trans {α : Type} {c c' c'' : Point κ V α} (h : Reaches c c')
    (h' : Reaches c' c'') : Reaches c c'' := by
  induction h with
  | refl c => exact h'
  | step hstep _ ih => exact .step hstep (ih h')

/-- **One step keeps a table sound.** -/
theorem sound_of_step {α : Type} {c c' : Point κ V α} (h : Sound c.table c.waiting.slots)
    (hstep : c.step = some c') : Sound c'.table c'.waiting.slots := by
  obtain ⟨t, p, waiting, events⟩ := c
  cases p with
  | done r =>
    cases waiting with
    | caller => exact absurd hstep (by simp [step, handOn])
    | fetch key n next below =>
      obtain rfl := Option.some.inj hstep
      exact h.finish r.1
  | get key next =>
    by_cases hkey : key ∈ waiting.slots.map Prod.fst
    · exact absurd ((step_get_of_busy h hkey).symm.trans hstep) (by simp)
    · obtain rfl := Option.some.inj ((step_get h hkey).symm.trans hstep)
      exact h
  | fetch key before init next =>
    by_cases hkey : key ∈ waiting.slots.map Prod.fst
    · exact absurd ((step_fetch_of_busy h hkey).symm.trans hstep) (by simp)
    · cases hvalue : t.value? key with
      | some v =>
        obtain rfl := Option.some.inj ((step_fetch_of_some h hvalue).symm.trans hstep)
        exact h
      | none =>
        obtain rfl := Option.some.inj ((step_fetch_of_none h hvalue hkey).symm.trans hstep)
        exact h.opened (h.ref?_eq_none hvalue hkey)

theorem sound_of_reaches {α : Type} {c c' : Point κ V α} (hreach : Reaches c c')
    (h : Sound c.table c.waiting.slots) : Sound c'.table c'.waiting.slots := by
  induction hreach with
  | refl c => exact h
  | step hstep _ ih => exact ih (sound_of_step h hstep)

/-- What the run from a point comes to: what the steps come to on a map, or a step that cannot be
taken because it uses a key whose value is being computed. -/
def ComesTo {α ρ : Type} (t : SlotTable κ V) (p : Steps κ V ρ) (waiting : Waiting κ V α ρ) :
    Option (OnMap κ V ρ) → Prop
  | some a => ∀ events, ∃ t',
      Reaches ⟨t, p, waiting, events⟩ ⟨t', .done a.result, waiting, events ++ a.events⟩ ∧
      t'.value? = a.values ∧ p.run t.toMemo = (a.result, t'.toMemo)
  | none => ∀ events, ∃ c, Reaches ⟨t, p, waiting, events⟩ c ∧
      c.step = none ∧ ∃ key ∈ c.busy, c.uses? = some key

namespace ComesTo

variable {α ρ ε σ : Type} {t : SlotTable κ V} {key : κ} {waiting : Waiting κ V α ρ}
variable {p p' : Steps κ V ρ} {before : σ} {init : Steps κ V (Except ε V × σ)}
variable {next : Except ε V × σ → Steps κ V ρ} {o : Option (OnMap κ V ρ)}

/-- A step that leaves the table as it is. -/
theorem of_step {es : List (StepEvent κ V)}
    (hstep : ∀ events, (⟨t, p, waiting, events⟩ : Point κ V α).step =
      some ⟨t, p', waiting, events ++ es⟩)
    (hrun : p.run t.toMemo = p'.run t.toMemo) (h : ComesTo t p' waiting o) :
    ComesTo t p waiting (o.map (.after es)) := by
  cases o with
  | none =>
    intro events
    obtain ⟨c, hreach, hstuck⟩ := h (events ++ es)
    exact ⟨c, .step (hstep events) hreach, hstuck⟩
  | some a =>
    intro events
    obtain ⟨t', hreach, hvalues, hrun'⟩ := h (events ++ es)
    rw [List.append_assoc] at hreach
    exact ⟨t', .step (hstep events) hreach, hvalues, hrun.trans hrun'⟩

/-- A step that cannot be taken. -/
theorem of_busy (hstep : ∀ events, (⟨t, p, waiting, events⟩ : Point κ V α).step = none)
    (huses : ∀ events, (⟨t, p, waiting, events⟩ : Point κ V α).uses? = some key)
    (hkey : key ∈ waiting.slots.map Prod.fst) : ComesTo t p waiting none :=
  fun events => ⟨_, .refl _, hstep events, key, hkey, huses events⟩

section Miss

variable (h : Sound t waiting.slots) (hkey : key ∉ waiting.slots.map Prod.fst)
variable (hvalue : t.value? key = none)
include h hkey hvalue

/-- A computation that is stuck. -/
theorem of_stuck
    (hinit : ComesTo (t.opened key) init (.fetch key t.slots.length next waiting) none) :
    ComesTo t (.fetch key before init next) waiting none := by
  intro events
  obtain ⟨c, hreach, hstuck⟩ := hinit (events ++ [.began key])
  exact ⟨c, .step (step_fetch_of_none h hvalue hkey) hreach, hstuck⟩

/-- A computation that ends, and the steps behind it. -/
theorem of_ended {a : OnMap κ V (Except ε V × σ)}
    (hinit : ComesTo (t.opened key) init (.fetch key t.slots.length next waiting) (some a))
    (hnext : ∀ t', Sound t' waiting.slots → t'.value? = stored a.values key a.result.1 →
      ComesTo t' (next a.result) waiting o) :
    ComesTo t (.fetch key before init next) waiting
      (o.map (.after
        (.began key :: a.events ++ [.ended key a.result.1, .fetched key a.result.1]))) := by
  obtain ⟨⟨outcome, after⟩, values, inner⟩ := a
  have href := h.ref?_eq_none hvalue hkey
  have hopened : Sound (t.opened key) (Waiting.fetch key t.slots.length next waiting).slots :=
    h.opened href
  -- Both cases of `o` begin with the computation; they differ only in how the rest goes on.
  have hthen : ∀ events, ∃ t', Reaches ⟨t, .fetch key before init next, waiting, events⟩
      ⟨t', next (outcome, after), waiting, events ++
        (.began key :: inner ++ [.ended key outcome, .fetched key outcome])⟩ ∧
      ComesTo t' (next (outcome, after)) waiting o ∧
      (Steps.fetch key before init next).run t.toMemo =
        (next (outcome, after)).run t'.toMemo := by
    intro events
    obtain ⟨t', hreach, hvalues, hrun⟩ := hinit (events ++ [.began key])
    have h' : Sound t' ((key, t.slots.length) :: waiting.slots) :=
      sound_of_reaches hreach hopened
    rw [toMemo_opened h href] at hrun
    refine ⟨t'.finish key t.slots.length outcome,
      .step (step_fetch_of_none h hvalue hkey) (hreach.trans ?_), ?_, ?_⟩
    · refine .step rfl ?_
      simp only [List.append_assoc, List.cons_append, List.nil_append]
      exact .refl _
    · exact hnext _ (h'.finish outcome) (by rw [value?_finish h', hvalues])
    · rw [run_fetch_of_none ((get?_toMemo t key).trans hvalue) hrun, ← toMemo_finish h']
  cases o with
  | none =>
    intro events
    obtain ⟨t', hreach, hrest, -⟩ := hthen events
    obtain ⟨c, hreach', hstuck⟩ := hrest _
    exact ⟨c, hreach.trans hreach', hstuck⟩
  | some b =>
    intro events
    obtain ⟨t', hreach, hrest, hrun⟩ := hthen events
    obtain ⟨t'', hreach', hvalues, hrun'⟩ := hrest _
    rw [List.append_assoc] at hreach'
    exact ⟨t'', hreach.trans hreach', hvalues, hrun.trans hrun'⟩

end Miss

end ComesTo

/-- **Steps come to the same in memory as on a map**, whoever waits for their result. -/
theorem comesTo_onMap {α ρ : Type} (p : Steps κ V ρ) :
    ∀ {t : SlotTable κ V} {waiting : Waiting κ V α ρ}, Sound t waiting.slots →
      ComesTo t p waiting (p.onMap (waiting.slots.map Prod.fst) t.value?) := by
  induction p with
  | done r =>
    intro t waiting h events
    exact ⟨t, by rw [List.append_nil]; exact .refl _, rfl, rfl⟩
  | get key next ih =>
    intro t waiting h
    rw [Steps.onMap]
    by_cases hkey : key ∈ waiting.slots.map Prod.fst
    · rw [if_pos hkey]
      exact .of_busy (fun _ => step_get_of_busy h hkey) (fun _ => rfl) hkey
    · rw [if_neg hkey]
      exact .of_step (fun _ => step_get h hkey) (by rw [Steps.run, get?_toMemo]) (ih _ h)
  | fetch key before init next ihInit ihNext =>
    intro t waiting h
    rw [Steps.onMap]
    by_cases hkey : key ∈ waiting.slots.map Prod.fst
    · rw [if_pos hkey]
      exact .of_busy (fun _ => step_fetch_of_busy h hkey) (fun _ => rfl) hkey
    rw [if_neg hkey]
    cases hvalue : t.value? key with
    | some v =>
      exact .of_step (fun _ => step_fetch_of_some h hvalue)
        (run_fetch_of_some ((get?_toMemo t key).trans hvalue)) (ihNext _ h)
    | none =>
      -- The computation is a run of its own with one more caller waiting, whose key is busy.
      have href := h.ref?_eq_none hvalue hkey
      have hinit : ComesTo (t.opened key) init (.fetch key t.slots.length next waiting)
          (init.onMap (key :: waiting.slots.map Prod.fst) (t.opened key).value?) :=
        ihInit (h.opened href)
      rw [value?_opened h href] at hinit
      dsimp only
      split
      · rename_i hstuck
        exact .of_stuck h hkey hvalue (hstuck ▸ hinit)
      · rename_i a hended
        refine .of_ended h hkey hvalue (hended ▸ hinit) fun t' h' hvalues => ?_
        rw [← hvalues]
        exact ihNext _ h'

/-! ## 5. The whole run -/

theorem comesTo_start {α : Type} (p : Steps κ V α) :
    ComesTo .empty p .caller (p.onMap [] fun _ => none) := comesTo_onMap p sound_empty

/-- The steps of a single caller on a table that is empty at first, compared with a plain map. -/
structure RefinesPlainMap {α : Type} (p : Steps κ V α) : Prop where
  /-- If no step uses a key whose value is being computed, all steps are taken: what happens, the
  result and the values behind it are those on the map, the table that runs holds the same, and it
  has as many slots as values. -/
  ends : ∀ a, p.onMap [] (fun _ => none) = some a →
    ∃ t, Reaches (start p) ⟨t, .done a.result, .caller, a.events⟩ ∧ t.value? = a.values ∧
      p.run .empty = (a.result, t.toMemo) ∧
      t.toMemo.slotCount (fun _ => true) = t.toMemo.count (fun _ => true)
  /-- If a step uses such a key, the caller waits for itself. -/
  stuck : p.onMap [] (fun _ => none) = none →
    ∃ c, Reaches (start p) c ∧ c.step = none ∧ ∃ key ∈ c.busy, c.uses? = some key
  /-- At every point the slots are those of the keys that have a value and of the keys whose value
  is being computed, one for each. -/
  slots : ∀ c, Reaches (start p) c → c.table.keys.Nodup ∧ c.busy.Nodup ∧
    ∀ key, (key ∈ c.table.keys ↔ (c.table.value? key).isSome ∨ key ∈ c.busy) ∧
      ¬ ((c.table.value? key).isSome ∧ key ∈ c.busy)
  /-- At every point a slot is referred to by the table and by the fetch that computes its
  value. -/
  owners : ∀ c, Reaches (start p) c → ∀ r ∈ c.table.refs,
    ∃ s, c.table.slots[r.2]? = some s ∧ s.owners = 1 + c.waiting.slots.count r

/-- **A memo table is a plain map for a single caller**, whose computations may use the table
themselves, to any depth. -/
theorem refinesPlainMap {α : Type} (p : Steps κ V α) : RefinesPlainMap p where
  ends a hmap := by
    have hcomes := comesTo_start p
    rw [hmap] at hcomes
    obtain ⟨t, hreach, hvalues, hrun⟩ := hcomes []
    have h : Sound t [] := sound_of_reaches hreach sound_empty
    exact ⟨t, hreach, hvalues, hrun, h.slotCount_eq_count⟩
  stuck hmap := by
    have hcomes := comesTo_start p
    rw [hmap] at hcomes
    exact hcomes []
  slots c hreach := by
    have h : Sound c.table c.waiting.slots := sound_of_reaches hreach sound_empty
    refine ⟨h.nodup, h.distinct, fun key => ⟨h.mem_keys_iff, ?_⟩⟩
    rintro ⟨hvalue, hkey⟩
    rw [h.value?_of_busy hkey] at hvalue
    exact absurd hvalue Bool.false_ne_true
  owners c hreach r hr :=
    (sound_of_reaches (c := start p) hreach sound_empty).owners hr

/-! A computation that fails behind one that succeeded inside it: its own slot is gone, the other
stays. -/

example : (Steps.fetch "outer" () (.fetch (ε := Unit) "inner" () (.done (.ok 7, ())) fun _ =>
      .done (.error "no", ())) fun outcome => .get "inner" fun value => .done (outcome.1, value) :
      Steps String Nat (Except String Nat × Option Nat)).run .empty =
    ((.error "no", some 7), ⟨[⟨"inner", some 7⟩]⟩) := rfl

end PassContext.Memo
