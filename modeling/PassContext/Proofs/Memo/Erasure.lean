/-
# What a program sees of the world

A program that runs alone sees of the world only the answers to its questions.  So if a part of a
world answers all questions as the whole does, and changes with it, the program runs on that part
as it runs on the whole: with the same result and in the same caches.
-/
import PassContext.Memo.Job
import PassContext.Proofs.Memo.Lookup

namespace PassContext

variable {S : Service} {σ σ' α ρ : Type} {part : σ → σ'}
variable {respond : S.Respond σ} {respond' : S.Respond σ'}

/-- A result, with only a part of the world that it was reached in. -/
def inPart (part : σ → σ') (r : α × (S.Caches × σ)) : α × (S.Caches × σ') :=
  (r.1, (r.2.1, part r.2.2))

/-- A part of the world answers as the whole does. -/
def AnswersAlike (part : σ → σ') (respond : S.Respond σ) (respond' : S.Respond σ') : Prop :=
  ∀ q w, respond' q (part w) = ((respond q w).1, part (respond q w).2)

theorem fetch_inPart {key : S.Key} {init : S.Caches × σ → S.Outcome key × (S.Caches × σ)}
    {init' : S.Caches × σ' → S.Outcome key × (S.Caches × σ')}
    (h : ∀ m w, init' (m, part w) = inPart part (init (m, w))) (m : S.Caches) (w : σ) :
    Memo.fetch key init' (m, part w) = inPart part (Memo.fetch key init (m, w)) := by
  cases hkey : m.get? key with
  | some v =>
    rw [Memo.fetch_of_some hkey, Memo.fetch_of_some hkey]
    rfl
  | none =>
    have hinit' := h (m.reserve key) w
    rcases hinit : init (m.reserve key, w) with ⟨outcome, m', w'⟩
    rw [hinit] at hinit'
    cases outcome with
    | ok v =>
      rw [Memo.fetch_of_ok hkey hinit, Memo.fetch_of_ok hkey hinit']
      rfl
    | error e =>
      rw [Memo.fetch_of_error hkey hinit, Memo.fetch_of_error hkey hinit']
      rfl

theorem Job.run_inPart (h : AnswersAlike part respond respond') :
    ∀ {key : S.Key} (job : Job S key) (m : S.Caches) (w : σ),
      job.run respond' (m, part w) = inPart part (job.run respond (m, w))
  | _, .finish outcome, m, w => rfl
  | _, .ask q next, m, w => by
    simp only [Job.run, h q w]
    exact Job.run_inPart h (next _) m _
  | _, .fetch inner init next, m, w => by
    have hfetch := fetch_inPart (fun m w => Job.run_inPart h init m w) m w
    simp only [Job.run, hfetch]
    exact Job.run_inPart h (next _) _ _

/-- **A program runs alike on a part of the world that answers alike.** -/
theorem Program.run_inPart (h : AnswersAlike part respond respond') :
    ∀ (program : Program S ρ) (m : S.Caches) (w : σ),
      program.run respond' (m, part w) = inPart part (program.run respond (m, w))
  | .result r, m, w => rfl
  | .ask q next, m, w => by
    simp only [Program.run, h q w]
    exact Program.run_inPart h (next _) m _
  | .get key next, m, w => Program.run_inPart h (next _) m w
  | .fetch key init next, m, w => by
    have hfetch := fetch_inPart (fun m w => Job.run_inPart h init m w) m w
    simp only [Program.run, hfetch]
    exact Program.run_inPart h (next _) _ _
  | .count cache next, m, w => Program.run_inPart h (next _) m w

end PassContext
