/-
# Base names

A base name is a name in which neither labels nor generic parameters begin.  Put in front of any
text it stays whole when that text is cut (`baseName_append_of_isBaseName`).  So a name that begins
with a base name need not have it for its own: its base name may also be longer (`begins_iff`).
-/
import Mathlib.Data.List.TakeWhile
import PassContext.Signature

namespace PassContext.Signature

/-- A name without labels and generic parameters. -/
def IsBaseName (name : String) : Prop := baseName name = name

/-- A name goes on behind another one that it begins with. -/
def Extends (name start : String) : Prop := ∃ c rest, name = start ++ String.singleton c ++ rest

variable {name start : String}

/-- What is behind a base name is cut where it would be cut alone. -/
theorem baseName_append_of_isBaseName (h : IsBaseName start) (rest : String) :
    baseName (start ++ rest) = start ++ baseName rest := by
  have hall : ∀ c ∈ start.toList, (!endsBaseName c) = true := by
    rw [IsBaseName, ← String.toList_inj, toList_baseName] at h
    exact List.takeWhile_eq_self_iff.mp h
  rw [← String.toList_inj, toList_baseName, String.toList_append, String.toList_append,
    toList_baseName, List.takeWhile_append_of_pos hall]

theorem begins_baseName (name : String) : ∃ rest, name = baseName name ++ rest := by
  refine ⟨.ofList (name.toList.dropWhile fun c => !endsBaseName c), ?_⟩
  rw [← String.toList_inj, String.toList_append, toList_baseName, String.toList_ofList,
    List.takeWhile_append_dropWhile]

/-- **A name begins with a base name exactly if its own base name is that one or goes on behind
it.** -/
theorem begins_iff (h : IsBaseName start) :
    (∃ rest, name = start ++ rest) ↔ baseName name = start ∨ Extends (baseName name) start := by
  constructor
  · rintro ⟨rest, rfl⟩
    rw [baseName_append_of_isBaseName h]
    cases hrest : (baseName rest).toList with
    | nil =>
      refine .inl ?_
      rw [String.toList_eq_nil_iff.mp hrest, String.append_empty]
    | cons c cs =>
      refine .inr ⟨c, .ofList cs, ?_⟩
      rw [← String.toList_inj]
      simp [hrest]
  · obtain ⟨labels, hlabels⟩ := begins_baseName name
    rintro (hsame | ⟨c, rest, hrest⟩)
    · exact ⟨labels, by rw [← hsame, ← hlabels]⟩
    · refine ⟨String.singleton c ++ rest ++ labels, ?_⟩
      rw [← String.append_assoc, ← String.append_assoc, ← hrest, ← hlabels]

end PassContext.Signature
