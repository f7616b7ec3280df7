/-
# Runs along a schedule

That a state is reached says nothing about what it was reached through.  A schedule lists the turns,
one for each step, so it also fixes every state on the way, and "between" has a meaning: the states
between two states of a run are those at the places between them in its schedule.

A number that no step raises by more than one takes on every value between its first and its last
(`exists_between`).
-/
import Mathlib.Data.List.Induction
import PassContext.Proofs.Threads.Moves

namespace PassContext.Machine.State

variable {S : Service} {ρ σ : Type}

/-! ## 1. Schedules -/

/-- The threads take steps in the given turns, if they can. -/
def follow (respond : S.Respond σ) (s : State S ρ σ) (schedule : List (Turn S)) :
    Option (State S ρ σ) :=
  schedule.foldlM (fun s turn => s.step respond turn) s

variable {respond : S.Respond σ} {s s' u v : State S ρ σ} {schedule : List (Turn S)}
  {turn : Turn S}

theorem follow_concat :
    s.follow respond (schedule ++ [turn]) = some s' ↔
      ∃ u, s.follow respond schedule = some u ∧ u.step respond turn = some s' := by
  rw [follow, List.foldlM_append, Option.bind_eq_bind, Option.bind_eq_some_iff]
  simp only [follow, List.foldlM_cons, List.foldlM_nil, Option.bind_eq_bind,
    Option.pure_def, Option.bind_fun_some]

/-- **The states that are reached are those at the end of a schedule.** -/
theorem reaches_iff_follow :
    Reaches respond s s' ↔ ∃ schedule, s.follow respond schedule = some s' := by
  constructor
  · intro h
    induction h with
    | refl => exact ⟨[], rfl⟩
    | @step u v turn _ hstep ih =>
      obtain ⟨schedule, hschedule⟩ := ih
      exact ⟨schedule ++ [turn], follow_concat.mpr ⟨u, hschedule, hstep⟩⟩
  · rintro ⟨schedule, h⟩
    induction schedule using List.reverseRecOn generalizing s' with
    | nil =>
      obtain rfl : s = s' := Option.some.inj h
      exact .refl s
    | append_singleton schedule turn ih =>
      obtain ⟨u, hu, hstep⟩ := follow_concat.mp h
      exact (ih hu).step hstep

/-! ## 2. Values on the way -/

/-- **A number that no step raises by more than one skips no value on the way.** -/
theorem exists_between {f : State S ρ σ → Nat} {n : Nat} (h : s.follow respond schedule = some s')
    (hstep : ∀ {u v turn}, Reaches respond s u → u.step respond turn = some v → f v ≤ f u + 1)
    (hlow : f s ≤ n) (hhigh : n ≤ f s') :
    ∃ earlier later u, schedule = earlier ++ later ∧ s.follow respond earlier = some u ∧
      f u = n := by
  induction schedule using List.reverseRecOn generalizing s' with
  | nil =>
    obtain rfl : s = s' := Option.some.inj h
    exact ⟨[], [], s, rfl, h, Nat.le_antisymm hlow hhigh⟩
  | append_singleton schedule turn ih =>
    by_cases hlast : f s' = n
    · exact ⟨schedule ++ [turn], [], s', (List.append_nil _).symm, h, hlast⟩
    · obtain ⟨u, hu, hut⟩ := follow_concat.mp h
      have hle := hstep (reaches_iff_follow.mpr ⟨schedule, hu⟩) hut
      obtain ⟨earlier, later, w, rfl, hw, hn⟩ := ih hu (by omega)
      exact ⟨earlier, later ++ [turn], w, List.append_assoc .., hw, hn⟩

end PassContext.Machine.State
