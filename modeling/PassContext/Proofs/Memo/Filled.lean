/-
# No slot stays empty

A caller that runs alone leaves no empty slot behind.  In between there are some, for the keys whose
values are being computed, so it is said of all others (`FilledBut`); a computation that ends fills
its slot or takes it away.
-/
import PassContext.Memo.Job
import PassContext.Proofs.Memo.Lookup

namespace PassContext

namespace Memo

variable {κ : Type} [DecidableEq κ] {V : κ → Type}

/-- No key but `busy` ones has an empty slot. -/
def FilledBut (busy : List κ) (m : Memo κ V) : Prop := ∀ key ∉ busy, m.slot? key ≠ some none

/-- No key has an empty slot. -/
abbrev Filled (m : Memo κ V) : Prop := m.FilledBut []

variable {m m' : Memo κ V} {busy : List κ} {key : κ}

theorem filled_empty : (empty : Memo κ V).Filled := fun _ _ => by simp [slot?, empty, findSlot?]

/-- Where no slot is empty, the slots are given by the values. -/
theorem Filled.slot?_eq (h : m.Filled) (key : κ) : m.slot? key = (m.get? key).map some := by
  rw [get?]
  cases hslot : m.slot? key with
  | none => rfl
  | some value =>
    cases value with
    | none => exact absurd hslot (h key List.not_mem_nil)
    | some v => rfl

theorem FilledBut.reserve (h : m.FilledBut busy) (key : κ) :
    (m.reserve key).FilledBut (key :: busy) := by
  intro key' hkey'
  rw [List.mem_cons, not_or] at hkey'
  unfold Memo.reserve
  split
  · exact h key' hkey'.2
  · rw [slot?, findSlot?_putSlot_of_ne hkey'.1]
    exact h key' hkey'.2

theorem FilledBut.fill (h : m.FilledBut (key :: busy)) (v : V key) :
    (m.fill key v).FilledBut busy := by
  intro key' hbusy
  rw [slot?, Memo.fill]
  by_cases hkey : key' = key
  · subst hkey
    simp [findSlot?_putSlot_self]
  · rw [findSlot?_putSlot_of_ne hkey]
    exact h key' (by simp [hkey, hbusy])

theorem FilledBut.evict (h : m.FilledBut (key :: busy)) : (m.evict key).FilledBut busy := by
  intro key' hbusy
  by_cases hkey : key' = key
  · subst hkey
    unfold Memo.evict
    split
    · rename_i hvalue
      intro hslot
      rw [get?, hslot] at hvalue
      exact absurd hvalue Bool.false_ne_true
    · rw [slot?, findSlot?_filter_self]
      simp
  · have hslot := h key' (by simp [hkey, hbusy])
    unfold Memo.evict
    split
    · exact hslot
    · rwa [slot?, findSlot?_filter_of_ne hkey]

/-- A fetch leaves no empty slot if its computation leaves none but its own. -/
theorem FilledBut.fetch {σ ε : Type} {rest : σ}
    {init : Memo κ V × σ → Except ε (V key) × (Memo κ V × σ)} (h : m.FilledBut busy)
    (hinit : ∀ {m : Memo κ V}, m.FilledBut (key :: busy) →
      (init (m, rest)).2.1.FilledBut (key :: busy)) :
    (fetch key init (m, rest)).2.1.FilledBut busy := by
  cases hkey : m.get? key with
  | some v =>
    rw [fetch_of_some hkey]
    exact h
  | none =>
    have hfilled := hinit (h.reserve key)
    rcases hrun : init (m.reserve key, rest) with ⟨outcome, m', rest'⟩
    rw [hrun] at hfilled
    cases outcome with
    | ok v =>
      rw [fetch_of_ok hkey hrun]
      exact hfilled.fill v
    | error e =>
      rw [fetch_of_error hkey hrun]
      exact hfilled.evict

end Memo

variable {S : Service} {σ ρ : Type} {respond : S.Respond σ}

/-- A job leaves no empty slot. -/
theorem Job.filledBut_run {key : S.Key} (job : Job S key) :
    ∀ {m : S.Caches} {busy : List S.Key} (w : σ), m.FilledBut busy →
      (job.run respond (m, w)).2.1.FilledBut busy := by
  induction job with
  | finish outcome => exact fun w h => h
  | ask q next ih => exact fun w h => ih _ _ h
  | fetch inner init next ihInit ihNext =>
    exact fun w h => ihNext _ _ (h.fetch fun h => ihInit w h)

/-- **A program leaves no empty slot.** -/
theorem Program.filled_run (program : Program S ρ) :
    ∀ {m : S.Caches} (w : σ), m.Filled → (program.run respond (m, w)).2.1.Filled := by
  induction program with
  | result r => exact fun w h => h
  | ask q next ih => exact fun w h => ih _ _ h
  | get key next ih => exact fun w h => ih _ w h
  | fetch key init next ih => exact fun w h => ih _ _ (h.fetch fun h => init.filledBut_run w h)
  | count cache next ih => exact fun w h => ih _ w h

end PassContext
