/-
# Entries

A list of entries, each a key with a value.  When no key has two entries, an entry is in the list
exactly if it is the one that is found under its key; putting an entry under a new key puts it at
the end, and taking a key away leaves the entries of the others.
-/
import Mathlib.Tactic.Common
import PassContext.Registry.Table

namespace PassContext

variable {κ υ : Type} [DecidableEq κ] {key other : κ} {v : υ}

theorem findEntry?_cons_of_eq {e : κ × υ} (h : e.1 = key) (es : List (κ × υ)) :
    findEntry? key (e :: es) = some e.2 := if_pos h

theorem findEntry?_cons_of_ne {e : κ × υ} (h : e.1 ≠ key) (es : List (κ × υ)) :
    findEntry? key (e :: es) = findEntry? key es := if_neg h

theorem findEntry?_filter_self (key : κ) (es : List (κ × υ)) :
    findEntry? key (es.filter (·.1 ≠ key)) = none := by
  induction es with
  | nil => rfl
  | cons e es ih =>
    by_cases h : e.1 = key
    · rw [List.filter_cons_of_neg (by simp [h]), ih]
    · rw [List.filter_cons_of_pos (by simp [h]), findEntry?_cons_of_ne h, ih]

theorem findEntry?_filter_of_ne (h : other ≠ key) (es : List (κ × υ)) :
    findEntry? other (es.filter (·.1 ≠ key)) = findEntry? other es := by
  induction es with
  | nil => rfl
  | cons e es ih =>
    by_cases he : e.1 = key
    · have hother : e.1 ≠ other := by
        rw [he]
        exact h.symm
      rw [List.filter_cons_of_neg (by simp [he]), findEntry?_cons_of_ne hother, ih]
    · rw [List.filter_cons_of_pos (by simp [he])]
      by_cases hother : e.1 = other
      · rw [findEntry?_cons_of_eq hother, findEntry?_cons_of_eq hother]
      · rw [findEntry?_cons_of_ne hother, findEntry?_cons_of_ne hother, ih]

theorem mem_of_findEntry?_eq_some {es : List (κ × υ)} (h : findEntry? key es = some v) :
    (key, v) ∈ es := by
  induction es with
  | nil => exact absurd h (Option.some_ne_none v).symm
  | cons e es ih =>
    by_cases he : e.1 = key
    · rw [findEntry?_cons_of_eq he, Option.some.injEq] at h
      rw [← he, ← h]
      exact List.mem_cons_self
    · rw [findEntry?_cons_of_ne he] at h
      exact List.mem_cons_of_mem _ (ih h)

theorem findEntry?_of_mem {es : List (κ × υ)} (hnodup : (es.map Prod.fst).Nodup)
    (h : (key, v) ∈ es) : findEntry? key es = some v := by
  induction es with
  | nil => exact absurd h List.not_mem_nil
  | cons e es ih =>
    rw [List.map_cons, List.nodup_cons] at hnodup
    rcases List.mem_cons.mp h with heq | hmem
    · have hkey : e.1 = key := by rw [← heq]
      rw [findEntry?_cons_of_eq hkey, ← heq]
    · have hne : e.1 ≠ key := by
        rintro rfl
        exact hnodup.1 (List.mem_map.mpr ⟨(e.1, v), hmem, rfl⟩)
      rw [findEntry?_cons_of_ne hne, ih hnodup.2 hmem]

theorem not_mem_of_findEntry?_none {es : List (κ × υ)} (h : findEntry? key es = none) :
    key ∉ es.map Prod.fst := by
  induction es with
  | nil => exact List.not_mem_nil
  | cons e es ih =>
    by_cases he : e.1 = key
    · rw [findEntry?_cons_of_eq he] at h
      exact absurd h (Option.some_ne_none e.2)
    · rw [findEntry?_cons_of_ne he] at h
      rw [List.map_cons, List.mem_cons, not_or]
      exact ⟨Ne.symm he, ih h⟩

/-- A key is there exactly if something is found under it. -/
theorem mem_keys_iff {es : List (κ × υ)} : key ∈ es.map Prod.fst ↔ findEntry? key es ≠ none := by
  constructor
  · intro h hnone
    exact not_mem_of_findEntry?_none hnone h
  · intro h
    obtain ⟨v, hv⟩ := Option.ne_none_iff_exists'.mp h
    exact List.mem_map.mpr ⟨_, mem_of_findEntry?_eq_some hv, rfl⟩

/-- Tables with the same keys have the same size. -/
theorem Table.size_congr {υ' : Type} {t : Table κ υ} {t' : Table κ υ'}
    (h : ∀ key, (t.get? key).isSome = (t'.get? key).isSome) : t.size = t'.size := by
  have hperm : t.keys.Perm t'.keys := by
    refine (List.perm_ext_iff_of_nodup t.nodup_keys t'.nodup_keys).mpr fun key => ?_
    rw [keys, keys, mem_keys_iff, mem_keys_iff, ← Option.isSome_iff_ne_none,
      ← Option.isSome_iff_ne_none]
    exact Bool.eq_iff_iff.mp (h key)
  have hlength := hperm.length_eq
  rwa [keys, keys, List.length_map, List.length_map] at hlength

theorem insertEntry_of_not_mem (v : υ) {es : List (κ × υ)} (h : key ∉ es.map Prod.fst) :
    insertEntry key v es = es ++ [(key, v)] := by
  induction es with
  | nil => rfl
  | cons e es ih =>
    rw [List.map_cons, List.mem_cons, not_or] at h
    rw [insertEntry, if_neg (Ne.symm h.1), ih h.2, List.cons_append]

/-- The value of a key is there once more than without the entry of the key. -/
theorem count_snd_filter [DecidableEq υ] {es : List (κ × υ)} (hnodup : (es.map Prod.fst).Nodup)
    (h : findEntry? key es = some v) (u : υ) :
    (es.map Prod.snd).count u =
      ((es.filter (·.1 ≠ key)).map Prod.snd).count u + if v = u then 1 else 0 := by
  induction es with
  | nil => exact absurd h (Option.some_ne_none v).symm
  | cons e es ih =>
    rw [List.map_cons, List.nodup_cons] at hnodup
    by_cases he : e.1 = key
    · have hrest : es.filter (·.1 ≠ key) = es := by
        refine List.filter_eq_self.mpr fun e' he' => ?_
        have hne : e'.1 ≠ key := fun h' => hnodup.1 (by
          rw [he, ← h']
          exact List.mem_map_of_mem he')
        simp [hne]
      rw [findEntry?_cons_of_eq he, Option.some.injEq] at h
      rw [List.filter_cons_of_neg (by simp [he]), hrest, List.map_cons, List.count_cons, h]
      simp
    · rw [findEntry?_cons_of_ne he] at h
      rw [List.filter_cons_of_pos (by simp [he]), List.map_cons, List.map_cons, List.count_cons,
        List.count_cons, ih hnodup.2 h]
      omega

end PassContext
