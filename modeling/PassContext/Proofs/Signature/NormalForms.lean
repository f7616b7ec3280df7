/-
# Normal forms of signatures

A text is normal if there is no white space in it and no token that reduction would change.
Normalizing removes white space only once, between its two reductions, and it reduces only once
after that.  This is enough: the second reduction brings no white space in, and no two tokens grow
together in it, so that the tokens of what it leaves are tokens that it kept, or parentheses
(`kept_of_mem_tokens`).
-/
import PassContext.Proofs.Signature.Boundaries

namespace PassContext.Signature

open Text

/-! ## 1. Normal texts -/

/-- A text in which there is nothing to normalize. -/
structure IsNormal (cs : List Char) : Prop where
  noBlank : ∀ c ∈ cs, isBlank c = false
  kept : ∀ t ∈ tokens cs, t ≠ voidWord ∧ t ∉ strippedWords

/-- The words that no normal text has for a token. -/
example : (voidWord :: strippedWords).map String.ofList =
    ["Void", "@autoclosure", "@escaping", "throws", "rethrows"] := rfl

variable {c : Char} {cs t : List Char}

/-! ## 2. What reduction leaves -/

/-- Reduction brings in nothing but parentheses. -/
theorem mem_of_mem_reduceWords (h : c ∈ reduceWords cs) : c ∈ cs ∨ c = '(' ∨ c = ')' := by
  obtain ⟨t, ht, hc⟩ := List.mem_flatMap.mp h
  rw [reduceToken_eq] at hc
  rcases reducedTokens_cases t with ⟨-, hreduced⟩ | ⟨-, hreduced⟩ | ⟨-, -, hreduced⟩ <;>
    rw [hreduced] at hc
  · exact .inr (by simpa using hc)
  · exact absurd hc (by simp)
  · rw [List.flatten_singleton] at hc
    rw [← flatten_tokens cs]
    exact .inl (List.mem_flatten.mpr ⟨t, ht, hc⟩)

theorem isBlank_of_mem_normalForm (h : c ∈ normalForm cs) : isBlank c = false := by
  rcases mem_of_mem_reduceWords h with hmem | rfl | rfl
  · simpa using (List.mem_filter.mp hmem).2
  · decide
  · decide

/-- The tokens of a reduced text would be kept by another reduction. -/
theorem kept_of_mem_tokens (h : t ∈ tokens (reduceWords cs)) :
    t ≠ voidWord ∧ t ∉ strippedWords := by
  rw [tokens_reduceWords] at h
  obtain ⟨u, -, ht⟩ := List.mem_flatMap.mp h
  rcases reducedTokens_cases u with ⟨-, hreduced⟩ | ⟨-, hreduced⟩ | ⟨hvoid, hstripped, hreduced⟩ <;>
    rw [hreduced] at ht
  · obtain rfl | rfl : t = ['('] ∨ t = [')'] := by simpa using ht
    · decide
    · decide
  · exact absurd ht (by simp)
  · obtain rfl := List.mem_singleton.mp ht
    exact ⟨hvoid, hstripped⟩

theorem isNormal_normalForm (cs : List Char) : IsNormal (normalForm cs) :=
  ⟨fun _ hc => isBlank_of_mem_normalForm hc, fun _ ht => kept_of_mem_tokens ht⟩

/-! ## 3. What reduction does not change -/

theorem reduceWords_eq_self (h : ∀ t ∈ tokens cs, t ≠ voidWord ∧ t ∉ strippedWords) :
    reduceWords cs = cs := by
  have hreduce : ∀ t ∈ tokens cs, reduceToken t = id t := by
    intro t ht
    rw [reduceToken, if_neg (h t ht).1, if_neg (h t ht).2, id]
  rw [reduceWords, List.flatMap_def, List.map_congr_left hreduce, List.map_id, flatten_tokens]

theorem IsNormal.normalForm_eq (h : IsNormal cs) : normalForm cs = cs := by
  rw [normalForm, reduceWords_eq_self h.kept, removeBlanks_eq_self h.noBlank,
    reduceWords_eq_self h.kept]

theorem normalForm_eq_self_iff : normalForm cs = cs ↔ IsNormal cs :=
  ⟨fun h => h ▸ isNormal_normalForm cs, IsNormal.normalForm_eq⟩

/-! ## 4. Any signature -/

/-- What is said of the text in which a signature is compared. -/
structure Normalizes (signature : String) : Prop where
  normal : IsNormal (normalize signature).toList
  /-- The normal texts, and no others, are left as they are. -/
  fixed : normalize signature = signature ↔ IsNormal signature.toList
  again : normalize (normalize signature) = normalize signature

theorem normalize_eq_self_iff {s : String} : normalize s = s ↔ IsNormal s.toList := by
  rw [← String.toList_inj, toList_normalize, normalForm_eq_self_iff]

/-- **Normalizing gives normal texts, and leaves exactly those as they are.** -/
theorem normalizes (signature : String) : Normalizes signature := by
  have hnormal : IsNormal (normalize signature).toList := by
    rw [toList_normalize]
    exact isNormal_normalForm signature.toList
  exact ⟨hnormal, normalize_eq_self_iff, normalize_eq_self_iff.mpr hnormal⟩

/-- The pieces of `Vo id` become a word when they meet, and those of `a@escaping@b` do not. -/
example : normalize "(Vo id, a@escaping@b) rethrows" = "((),a@b)" := by cbv

end PassContext.Signature
