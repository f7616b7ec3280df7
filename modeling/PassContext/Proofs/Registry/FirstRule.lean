/-
# The first rule for a call wins

The rules for calls are a list that is searched from the front, and each comparison brings the
names and signatures of both sides to their common form again.  Seen from outside it is a map: what
calls get depends on their key only, and each key keeps the first rule that was ever put under it.

The map is `RuleMap`, with `keep` for what an added rule does to it.  One equation says what adding
a rule does to a search (`find?_add`), and the refinement is an induction on the rules added, from
the last one back.  What is said about later rules, and about other spellings of a call, follows
from the equation and from the key.
-/
import Mathlib.Data.List.Induction
import PassContext.Registry.CallRules

namespace PassContext

open Signature

/-! ## 1. Rules and calls -/

namespace CallRule

/-- A rule is for a call: the base names are the same, and the normal forms of the signatures. -/
def Fits (r : CallRule) (name signature : String) : Prop :=
  baseName r.apiName = baseName name ∧ normalize r.typeSignature = normalize signature

variable {r : CallRule} {name signature : String}

theorem key_eq_callKey_iff : r.key = callKey name signature ↔ r.Fits name signature := by
  rw [key, callKey, callKey, Prod.mk.injEq, Fits]

end CallRule

/-! ## 2. Maps that keep what comes first -/

/-- What is known for each key of calls. -/
abbrev RuleMap : Type := String × String → Option CallRule

namespace RuleMap

def empty : RuleMap := fun _ => none

/-- Keeps a rule under its key, unless there is one already. -/
def keep (m : RuleMap) (r : CallRule) : RuleMap := fun key =>
  match m key with
  | some found => some found
  | none => if r.key = key then some r else none

/-- Keeps rules in the given order. -/
def keepAll (m : RuleMap) (added : List CallRule) : RuleMap := added.foldl keep m

theorem keepAll_concat (m : RuleMap) (added : List CallRule) (r : CallRule) :
    m.keepAll (added ++ [r]) = (m.keepAll added).keep r := by
  rw [keepAll, keepAll, List.foldl_append, List.foldl_cons, List.foldl_nil]

end RuleMap

namespace CallRules

/-! ## 3. Searching -/

/-- The table after rules have been added in the given order. -/
def addAll (ts : CallRules) (added : List CallRule) : CallRules := added.foldl add ts

variable (ts : CallRules) (name signature : String)

theorem addAll_append (added more : List CallRule) :
    ts.addAll (added ++ more) = (ts.addAll added).addAll more :=
  List.foldl_append ..

theorem addAll_concat (added : List CallRule) (r : CallRule) :
    ts.addAll (added ++ [r]) = (ts.addAll added).add r :=
  ts.addAll_append added [r]

@[simp] theorem toList_addAll (added : List CallRule) :
    (ts.addAll added).toList = ts.toList ++ added := by
  induction added using List.reverseRecOn with
  | nil => exact (List.append_nil _).symm
  | append_singleton added r ih => rw [addAll_concat, toList_add, ih, List.append_assoc]

/-- **An added rule is found by the calls that found nothing before.** -/
theorem find?_add (r : CallRule) :
    (ts.add r).find? name signature =
      match ts.find? name signature with
      | some found => some found
      | none => if r.key = callKey name signature then some r else none := by
  simp only [find?, toList_add, List.find?_append]
  cases ts.toList.find? (·.key == callKey name signature) with
  | some found => rfl
  | none => by_cases h : r.key = callKey name signature <;> simp [h]

/-- A rule that is found once is found from then on. -/
theorem find?_addAll_of_some {r : CallRule} (more : List CallRule)
    (h : ts.find? name signature = some r) : (ts.addAll more).find? name signature = some r := by
  induction more using List.reverseRecOn with
  | nil => exact h
  | append_singleton more r' ih => rw [addAll_concat, find?_add, ih]

/-- The answer depends on the key of the call only. -/
theorem find?_congr {name' signature' : String} (hname : baseName name = baseName name')
    (hsignature : normalize signature = normalize signature') :
    ts.find? name signature = ts.find? name' signature' := by
  simp only [find?, callKey, hname, hsignature]

/-! ## 4. Labels and generic parameters -/

/-- What follows the base name in a name: nothing, or labels, or generic parameters. -/
def IsSuffix (suffix : String) : Prop := ∀ c ∈ suffix.toList.head?, endsBaseName c = true

/-- The base name does not depend on labels and generic parameters. -/
theorem baseName_append {suffix : String} (h : IsSuffix suffix) (base : String) :
    baseName (base ++ suffix) = baseName base := by
  refine String.toList_injective ?_
  rw [toList_baseName, toList_baseName, String.toList_append]
  induction base.toList with
  | nil =>
    cases hs : suffix.toList with
    | nil => rfl
    | cons c rest =>
      have hc : endsBaseName c = true := h c (by rw [hs]; rfl)
      rw [List.nil_append, List.takeWhile_cons_of_neg (by simp [hc]), List.takeWhile_nil]
  | cons c base ih =>
    rw [List.cons_append]
    by_cases hc : endsBaseName c = true
    · rw [List.takeWhile_cons_of_neg (by simp [hc]), List.takeWhile_cons_of_neg (by simp [hc])]
    · rw [List.takeWhile_cons_of_pos (by simp [hc]), List.takeWhile_cons_of_pos (by simp [hc]), ih]

/-! ## 5. Any rules in any order -/

/-- What calls get from a table to which rules were added in the given order. -/
structure FirstWins (added : List CallRule) : Prop where
  /-- The table is the map that keeps the first rule under each key. -/
  refines : ∀ name signature, (empty.addAll added).find? name signature =
    RuleMap.empty.keepAll added (baseName name, normalize signature)
  /-- A call gets the rule added first among those that are for it. -/
  found : ∀ name signature r, (empty.addAll added).find? name signature = some r ↔
    ∃ earlier later, added = earlier ++ r :: later ∧ r.Fits name signature ∧
      ∀ r' ∈ earlier, ¬ r'.Fits name signature
  missing : ∀ name signature, (empty.addAll added).find? name signature = none ↔
    ∀ r ∈ added, ¬ r.Fits name signature
  /-- What was found once stays. -/
  stays : ∀ name signature r more, (empty.addAll added).find? name signature = some r →
    (empty.addAll (added ++ more)).find? name signature = some r
  /-- A rule that is added is noticed only by calls that it is for, if they found nothing. -/
  noticed : ∀ name signature r,
    (empty.addAll (added ++ [r])).find? name signature ≠
      (empty.addAll added).find? name signature →
    r.Fits name signature ∧ (empty.addAll added).find? name signature = none ∧
      (empty.addAll (added ++ [r])).find? name signature = some r
  /-- The spelling of a call does not matter. -/
  spelling : ∀ name name' signature signature', baseName name = baseName name' →
    normalize signature = normalize signature' →
    (empty.addAll added).find? name signature = (empty.addAll added).find? name' signature'
  /-- In particular, labels and generic parameters do not. -/
  labels : ∀ base suffix suffix' signature, IsSuffix suffix → IsSuffix suffix' →
    (empty.addAll added).find? (base ++ suffix) signature =
      (empty.addAll added).find? (base ++ suffix') signature

theorem find?_addAll_eq_keepAll (added : List CallRule) :
    (empty.addAll added).find? name signature =
      RuleMap.empty.keepAll added (baseName name, normalize signature) := by
  induction added using List.reverseRecOn with
  | nil => rfl
  | append_singleton added r ih =>
    rw [addAll_concat, find?_add, ih, RuleMap.keepAll_concat]
    rfl

theorem find?_addAll_eq_some_iff (added : List CallRule) (r : CallRule) :
    (empty.addAll added).find? name signature = some r ↔
      ∃ earlier later, added = earlier ++ r :: later ∧ r.Fits name signature ∧
        ∀ r' ∈ earlier, ¬ r'.Fits name signature := by
  simp only [find?, toList_addAll, toList_empty, List.nil_append, List.find?_eq_some_iff_append,
    beq_iff_eq, CallRule.key_eq_callKey_iff, Bool.not_eq_true', beq_eq_false_iff_ne, ne_eq]
  constructor
  · rintro ⟨hfits, earlier, later, hadded, hearlier⟩
    exact ⟨earlier, later, hadded, hfits, hearlier⟩
  · rintro ⟨earlier, later, hadded, hfits, hearlier⟩
    exact ⟨hfits, earlier, later, hadded, hearlier⟩

theorem find?_addAll_eq_none_iff (added : List CallRule) :
    (empty.addAll added).find? name signature = none ↔ ∀ r ∈ added, ¬ r.Fits name signature := by
  simp only [find?, toList_addAll, toList_empty, List.nil_append, List.find?_eq_none, beq_iff_eq,
    CallRule.key_eq_callKey_iff]

/-- A rule changes the answer to a call only if it is for the call and nothing was found. -/
theorem fits_of_find?_add_ne {r : CallRule}
    (h : (ts.add r).find? name signature ≠ ts.find? name signature) :
    r.Fits name signature ∧ ts.find? name signature = none ∧
      (ts.add r).find? name signature = some r := by
  rw [find?_add] at h ⊢
  cases hbefore : ts.find? name signature with
  | some found =>
    rw [hbefore] at h
    exact absurd rfl h
  | none =>
    rw [hbefore] at h
    by_cases hkey : r.key = callKey name signature
    · exact ⟨CallRule.key_eq_callKey_iff.mp hkey, rfl, if_pos hkey⟩
    · exact absurd (if_neg hkey) h

/-- **A table of rules is a map from keys in which the first rule wins**, whatever rules are added
in whatever order. -/
theorem firstWins (added : List CallRule) : FirstWins added where
  refines name signature := find?_addAll_eq_keepAll name signature added
  found name signature r := find?_addAll_eq_some_iff name signature added r
  missing name signature := find?_addAll_eq_none_iff name signature added
  stays name signature r more h := by
    rw [addAll_append]
    exact find?_addAll_of_some _ name signature more h
  noticed name signature r h := by
    rw [addAll_concat] at h ⊢
    exact fits_of_find?_add_ne _ name signature h
  spelling name name' signature signature' hname hsignature :=
    find?_congr _ name signature hname hsignature
  labels base suffix suffix' signature hsuffix hsuffix' := by
    refine find?_congr _ _ signature ?_ rfl
    rw [baseName_append hsuffix, baseName_append hsuffix']

/-- The first of two rules for `index` is found, however the call is spelled. -/
example :
    let r : CallRule := ⟨"index(of:)", "(Int) throws -> Void", "indexOf", []⟩
    let r' : CallRule := ⟨"index<T>", "( Int )->()", "other", []⟩
    (empty.addAll [r, r']).find? "index" "(Int)->()" = some r := by cbv

end CallRules

end PassContext
