/-
# Sorted ranges of code points

A property of characters is given here by the ranges of code points that have it, in increasing
order.  Membership stops at the first range that begins beyond the code point, so a look-up
costs no more than the part of the table below it.
-/

namespace PassContext.Text

/-- Whether `n` lies in one of the ranges, which are given in increasing order. -/
def inRanges : List (Nat × Nat) → Nat → Bool
  | [], _ => false
  | (low, high) :: rest, n => if n < low then false else n ≤ high || inRanges rest n

@[simp] theorem inRanges_nil (n : Nat) : inRanges [] n = false := rfl

theorem inRanges_of_lt {low high : Nat} {rest : List (Nat × Nat)} {n : Nat} (h : n < low) :
    inRanges ((low, high) :: rest) n = false := by simp [inRanges, h]

/-- What is found lies in one of the ranges. -/
theorem exists_mem_of_inRanges {ranges : List (Nat × Nat)} {n : Nat}
    (h : inRanges ranges n = true) : ∃ r ∈ ranges, r.1 ≤ n ∧ n ≤ r.2 := by
  induction ranges with
  | nil => exact absurd h (by simp)
  | cons r rest ih =>
    obtain ⟨low, high⟩ := r
    by_cases hlow : n < low
    · exact absurd h (by simp [inRanges_of_lt hlow])
    · rw [inRanges, if_neg hlow, Bool.or_eq_true, decide_eq_true_iff] at h
      rcases h with hhigh | hrest
      · exact ⟨(low, high), List.mem_cons_self .., Nat.le_of_not_lt hlow, hhigh⟩
      · obtain ⟨r, hr, hbounds⟩ := ih hrest
        exact ⟨r, List.mem_cons_of_mem _ hr, hbounds⟩

end PassContext.Text
