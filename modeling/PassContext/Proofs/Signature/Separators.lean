/-
# Signatures part by part

A character that no word has and that is not white space, such as a parenthesis or a comma,
divides a signature into parts that are normalized each on its own.  It is a token wherever it
stands (`tokens_append_cons`), so no word goes across it in either of the two reductions, and it is
still there for the second one.
-/
import PassContext.Proofs.Signature.Boundaries

namespace PassContext.Signature

open Text

/-! ## 1. One separator -/

/-- A character that divides a signature. -/
structure IsSeparator (c : Char) : Prop where
  notWordChar : isWordChar c = false
  notAt : c ≠ '@'
  notBlank : isBlank c = false

variable {c : Char}

theorem IsSeparator.opensWord_eq (h : IsSeparator c) : opensWord c = false := by
  simp [opensWord, h.notWordChar, h.notAt]

theorem reduceWords_append_cons (h : opensWord c = false) (cs rest : List Char) :
    reduceWords (cs ++ c :: rest) = reduceWords cs ++ c :: reduceWords rest := by
  rw [reduceWords_append cs (breaksWord_cons.mpr (isWordChar_of_opensWord h)),
    reduceWords_cons_other rest h]

theorem removeBlanks_append_cons (h : isBlank c = false) (cs rest : List Char) :
    removeBlanks (cs ++ c :: rest) = removeBlanks cs ++ c :: removeBlanks rest := by
  simp [removeBlanks, h]

/-- **A separator divides the normal form where it divides the text.** -/
theorem IsSeparator.normalForm_append_cons (h : IsSeparator c) (cs rest : List Char) :
    normalForm (cs ++ c :: rest) = normalForm cs ++ c :: normalForm rest := by
  rw [normalForm, reduceWords_append_cons h.opensWord_eq, removeBlanks_append_cons h.notBlank,
    reduceWords_append_cons h.opensWord_eq, normalForm, normalForm]

theorem IsSeparator.normalize_append (h : IsSeparator c) (a b : String) :
    normalize (a ++ String.singleton c ++ b) =
      normalize a ++ String.singleton c ++ normalize b := by
  rw [← String.toList_inj]
  simpa using h.normalForm_append_cons a.toList b.toList

/-! ## 2. Any number of separators -/

/-- A signature from fragments, with the separator in front of each but the first. -/
def assemble (first : String) : List (Char × String) → String
  | [] => first
  | (c, fragment) :: rest => first ++ String.singleton c ++ assemble fragment rest

/-- Fragments with each of them normalized. -/
def normalizeFragments (normal : String → String) (parts : List (Char × String)) :
    List (Char × String) :=
  parts.map fun part => (part.1, normal part.2)

theorem normalize_assemble (first : String) {parts : List (Char × String)}
    (h : ∀ part ∈ parts, IsSeparator part.1) :
    normalize (assemble first parts) =
      assemble (normalize first) (normalizeFragments normalize parts) := by
  induction parts generalizing first with
  | nil => rfl
  | cons part parts ih =>
    obtain ⟨c, fragment⟩ := part
    have hc : IsSeparator c := h (c, fragment) (List.mem_cons_self ..)
    have hrest := ih fragment fun part hpart => h part (List.mem_cons_of_mem _ hpart)
    rw [assemble, hc.normalize_append, hrest]
    rfl

/-- Fragments with the same normal form, behind the same separator. -/
def SameFragment (normal : String → String) (part part' : Char × String) : Prop :=
  part.1 = part'.1 ∧ normal part.2 = normal part'.2

variable {normal : String → String} {parts parts' : List (Char × String)}

theorem normalizeFragments_congr (h : List.Forall₂ (SameFragment normal) parts parts') :
    normalizeFragments normal parts = normalizeFragments normal parts' := by
  induction h with
  | nil => rfl
  | cons hpart _ ih =>
    obtain ⟨hseparator, hfragment⟩ := hpart
    simp only [normalizeFragments, List.map_cons] at ih ⊢
    rw [hseparator, hfragment, ih]

theorem isSeparator_of_sameFragment (h : List.Forall₂ (SameFragment normal) parts parts')
    (hparts : ∀ part ∈ parts, IsSeparator part.1) : ∀ part ∈ parts', IsSeparator part.1 := by
  induction h with
  | nil => exact hparts
  | cons hpart _ ih =>
    rw [List.forall_mem_cons] at hparts ⊢
    exact ⟨hpart.1 ▸ hparts.1, ih hparts.2⟩

/-! ## 3. Any signatures -/

/-- A normal form of signatures that is found part by part. -/
structure Compositional (normal : String → String) : Prop where
  separated : ∀ a c b, IsSeparator c →
    normal (a ++ String.singleton c ++ b) = normal a ++ String.singleton c ++ normal b
  assembled : ∀ first parts, (∀ part ∈ parts, IsSeparator part.1) →
    normal (assemble first parts) = assemble (normal first) (normalizeFragments normal parts)
  /-- Any of the fragments may be replaced by others with the same normal forms. -/
  replaced : ∀ first first' parts parts', (∀ part ∈ parts, IsSeparator part.1) →
    normal first = normal first' → List.Forall₂ (SameFragment normal) parts parts' →
    normal (assemble first parts) = normal (assemble first' parts')

/-- **Signatures are normalized part by part**, between any of their separators. -/
theorem compositional : Compositional normalize where
  separated a c b h := h.normalize_append a b
  assembled first parts h := normalize_assemble first h
  replaced first first' parts parts' h hfirst hparts := by
    rw [normalize_assemble first h,
      normalize_assemble first' (isSeparator_of_sameFragment hparts h),
      hfirst, normalizeFragments_congr hparts]

/-- A half word next to a parenthesis stays on its side. -/
example : normalize "(Vo id)@escaping" = "(" ++ normalize "Vo id" ++ ")" := by cbv

end PassContext.Signature
