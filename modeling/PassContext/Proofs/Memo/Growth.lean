/-
# Caches that only grow

A program that runs alone puts values into caches and never takes one away or replaces it.  What
can be said of the values is that each was right when it was put there, and still is: a `Backing`
says what makes a value right, given the caches and the world, and that more values and a later
world do not change it.

`Grows` is the effect of any part of a run.  Parts that follow each other compose, and a fetch
grows the caches if the computation for its key does and backs the value that it ends with.
-/
import PassContext.Memo.Job
import PassContext.Proofs.Memo.Lookup

namespace PassContext

/-- What makes the values in caches right. -/
structure Backing (S : Service) (σ : Type) where
  /-- The world goes on, and nothing in it is lost. -/
  Later : σ → σ → Prop
  refl : ∀ w, Later w w
  trans : ∀ {w w' w''}, Later w w' → Later w' w'' → Later w w''
  Backs : S.Caches → σ → (key : S.Key) → S.Value key → Prop
  mono : ∀ {m m' : S.Caches} {w w' : σ} {key : S.Key} {v : S.Value key}, Backs m w key v →
    (∀ k u, m.get? k = some u → m'.get? k = some u) → Later w w' → Backs m' w' key v

variable {S : Service} {σ ρ : Type}

/-! ## 1. Growth -/

/-- **Caches and a world that have grown**: the values are kept, and the new ones are backed. -/
structure Grows (b : Backing S σ) (s s' : S.Caches × σ) : Prop where
  kept : ∀ key v, s.1.get? key = some v → s'.1.get? key = some v
  later : b.Later s.2 s'.2
  fresh : ∀ key v, s.1.get? key = none → s'.1.get? key = some v → b.Backs s'.1 s'.2 key v

variable {b : Backing S σ}

namespace Grows

/-- The world goes on, and the caches stay as they are. -/
theorem of_later {m : S.Caches} {w w' : σ} (h : b.Later w w') : Grows b (m, w) (m, w') := by
  refine ⟨fun _ _ hv => hv, h, fun key v hnone hsome => ?_⟩
  exact absurd (hnone.symm.trans hsome) (by simp)

theorem refl (b : Backing S σ) (s : S.Caches × σ) : Grows b s s := of_later (b.refl s.2)

theorem trans {s s' s'' : S.Caches × σ} (h : Grows b s s') (h' : Grows b s' s'') :
    Grows b s s'' := by
  refine ⟨fun key v hv => h'.kept key v (h.kept key v hv), b.trans h.later h'.later,
    fun key v hnone hsome => ?_⟩
  cases hmid : s'.1.get? key with
  | none => exact h'.fresh key v hmid hsome
  | some u =>
    obtain rfl : u = v := Option.some.inj ((h'.kept key u hmid).symm.trans hsome)
    exact b.mono (h.fresh key u hnone hmid) h'.kept h'.later

/-- Only the values of the caches matter, not their slots. -/
theorem congr {m m' m₀ m₁ : S.Caches} {w w' : σ} (h : Grows b (m, w) (m', w'))
    (h₀ : ∀ key, m.get? key = m₀.get? key) (h₁ : ∀ key, m'.get? key = m₁.get? key) :
    Grows b (m₀, w) (m₁, w') := by
  refine ⟨fun key v hv => ?_, h.later, fun key v hnone hsome => ?_⟩
  · exact (h₁ key).symm.trans (h.kept key v ((h₀ key).trans hv))
  · have hbacks := h.fresh key v ((h₀ key).trans hnone) ((h₁ key).trans hsome)
    exact b.mono hbacks (fun k u hu => (h₁ k).symm.trans hu) (b.refl w')

/-- A slot that was empty is filled with a value that is backed. -/
theorem fill {m m' : S.Caches} {w w' : σ} (h : Grows b (m, w) (m', w')) {key : S.Key}
    {v : S.Value key} (hnone : m'.get? key = none) (hv : b.Backs m' w' key v) :
    Grows b (m, w) (m'.fill key v, w') := by
  have hkept : ∀ k u, m'.get? k = some u → (m'.fill key v).get? k = some u := by
    intro k u hu
    have hne : k ≠ key := by
      rintro rfl
      exact absurd (hnone.symm.trans hu) (by simp)
    rw [Memo.get?_fill_of_ne m' hne, hu]
  refine h.trans ⟨hkept, b.refl w', fun k u hno hsome => ?_⟩
  by_cases hk : k = key
  · subst hk
    rw [Memo.get?_fill_self, Option.some.injEq] at hsome
    subst hsome
    exact b.mono hv hkept (b.refl w')
  · rw [Memo.get?_fill_of_ne m' hk] at hsome
    exact absurd (hno.symm.trans hsome) (by simp)

end Grows

/-! ## 2. Computations and fetches -/

/-- A computation for a key without a value lets all else grow, and backs the value that it ends
with. -/
structure Yields (b : Backing S σ) (key : S.Key) (s : S.Caches × σ)
    (r : S.Outcome key × (S.Caches × σ)) : Prop where
  grows : Grows b s r.2
  vacant : r.2.1.get? key = none
  backs : ∀ v, r.1 = .ok v → b.Backs r.2.1 r.2.2 key v

/-- What grew before a computation has grown behind it. -/
theorem Yields.of_grows {key : S.Key} {s s' : S.Caches × σ}
    {r : S.Outcome key × (S.Caches × σ)} (h : Grows b s s') (h' : Yields b key s' r) :
    Yields b key s r := ⟨h.trans h'.grows, h'.vacant, h'.backs⟩

/-- A fetch lets all grow, and the value that it returns is in the cache. -/
structure Fetches (b : Backing S σ) (key : S.Key) (s : S.Caches × σ)
    (r : S.Outcome key × (S.Caches × σ)) : Prop where
  grows : Grows b s r.2
  held : ∀ v, r.1 = .ok v → r.2.1.get? key = some v

/-- **Fetching a key fills its slot with a value that is backed**, if the key has none. -/
theorem fetches_of_yields {key : S.Key} {w : σ}
    {init : S.Caches × σ → S.Outcome key × (S.Caches × σ)} (m : S.Caches)
    (h : ∀ m : S.Caches, m.get? key = none → Yields b key (m, w) (init (m, w))) :
    Fetches b key (m, w) (Memo.fetch key init (m, w)) := by
  cases hkey : m.get? key with
  | some v =>
    rw [Memo.fetch_of_some hkey]
    refine ⟨.refl b (m, w), fun u hu => ?_⟩
    obtain rfl : v = u := Except.ok.inj hu
    exact hkey
  | none =>
    have hreserve : ∀ k, (m.reserve key).get? k = m.get? k := Memo.get?_reserve m key
    have hyields := h (m.reserve key) ((hreserve key).trans hkey)
    rcases hinit : init (m.reserve key, w) with ⟨outcome, m', w'⟩
    rw [hinit] at hyields
    have hgrows : Grows b (m, w) (m', w') := hyields.grows.congr hreserve fun _ => rfl
    cases outcome with
    | ok v =>
      rw [Memo.fetch_of_ok hkey hinit]
      refine ⟨hgrows.fill hyields.vacant (hyields.backs v rfl), fun u hu => ?_⟩
      obtain rfl : v = u := Except.ok.inj hu
      exact Memo.get?_fill_self m' key v
    | error e =>
      rw [Memo.fetch_of_error hkey hinit]
      refine ⟨hgrows.congr (fun _ => rfl) fun k => (Memo.get?_evict m' key k).symm, ?_⟩
      intro u hu
      exact absurd hu (by simp)

/-! ## 3. Programs -/

/-- **A program goes on with an outcome**, in caches and a world that have grown.  What is said of
the outcome holds there. -/
def GoesOn {α : Type} (b : Backing S σ) (respond : S.Respond σ) (program : Program S ρ)
    (next : α → Program S ρ) (post : α → S.Caches × σ → Prop) (s : S.Caches × σ) : Prop :=
  ∃ a s', program.run respond s = (next a).run respond s' ∧ Grows b s s' ∧ post a s'

section GoesOn

variable {α β : Type} {respond : S.Respond σ} {program : Program S ρ} {next : α → Program S ρ}
variable {post : α → S.Caches × σ → Prop} {s : S.Caches × σ}

/-- Nothing happens before the program goes on. -/
theorem GoesOn.here (a : α) (h : post a s) : GoesOn b respond (next a) next post s :=
  ⟨a, s, rfl, .refl b s, h⟩

theorem GoesOn.of_run_eq {program' : Program S ρ}
    (h : program.run respond s = program'.run respond s)
    (h' : GoesOn b respond program' next post s) : GoesOn b respond program next post s := by
  obtain ⟨a, s', hrun, hrest⟩ := h'
  exact ⟨a, s', h.trans hrun, hrest⟩

theorem GoesOn.imp {post' : α → S.Caches × σ → Prop} (h : GoesOn b respond program next post s)
    (himp : ∀ a s', Grows b s s' → post a s' → post' a s') :
    GoesOn b respond program next post' s := by
  obtain ⟨a, s', hrun, hgrows, hpost⟩ := h
  exact ⟨a, s', hrun, hgrows, himp a s' hgrows hpost⟩

/-- Programs that follow each other. -/
theorem GoesOn.bind {next' : β → Program S ρ} {post' : β → S.Caches × σ → Prop}
    (h : GoesOn b respond program next post s)
    (h' : ∀ a s', Grows b s s' → post a s' → GoesOn b respond (next a) next' post' s') :
    GoesOn b respond program next' post' s := by
  obtain ⟨a, s', hrun, hgrows, hpost⟩ := h
  obtain ⟨a', s'', hrun', hgrows', hpost'⟩ := h' a s' hgrows hpost
  exact ⟨a', s'', hrun.trans hrun', hgrows.trans hgrows', hpost'⟩

/-- A program that ends with its outcome lets all grow. -/
theorem GoesOn.of_result {f : α → ρ}
    (h : GoesOn b respond program (fun a => .result (f a)) post s) :
    ∃ a, (program.run respond s).1 = f a ∧ Grows b s (program.run respond s).2 ∧
      post a (program.run respond s).2 := by
  obtain ⟨a, s', hrun, hgrows, hpost⟩ := h
  rw [hrun]
  exact ⟨a, rfl, hgrows, hpost⟩

theorem GoesOn.grows {f : α → ρ}
    (h : GoesOn b respond program (fun a => .result (f a)) post s) :
    Grows b s (program.run respond s).2 := by
  obtain ⟨-, -, hgrows, -⟩ := h.of_result
  exact hgrows

/-- A program that fetches goes on with a value that is in the cache. -/
theorem goesOn_fetch {key : S.Key} {job : Job S key} {next : S.Outcome key → Program S ρ}
    (m : S.Caches) {w : σ}
    (h : ∀ m : S.Caches, m.get? key = none → Yields b key (m, w) (job.run respond (m, w))) :
    GoesOn b respond (.fetch key job next) next
      (fun outcome s' => ∀ v, outcome = .ok v → s'.1.get? key = some v) (m, w) := by
  have hfetches := fetches_of_yields m h
  exact ⟨_, _, rfl, hfetches.grows, hfetches.held⟩

end GoesOn

end PassContext
