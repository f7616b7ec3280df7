/-
# What a memo table holds

The operations on slots, seen through `get?`: reserving and evicting change no value, and filling
changes the value of its own key only.
-/
import Mathlib.Tactic.Common
import PassContext.Memo.Basic

namespace PassContext.Memo

variable {κ : Type} [DecidableEq κ] {V : κ → Type}

/-! ## 1. Lists of slots -/

theorem findSlot?_cons_self (key : κ) (s : Option (V key))
    (rest : List ((key : κ) × Option (V key))) : findSlot? key (⟨key, s⟩ :: rest) = some s := by
  rw [findSlot?, dif_pos rfl]

theorem findSlot?_cons_of_ne {k key : κ} (h : k ≠ key) (s : Option (V k))
    (rest : List ((key : κ) × Option (V key))) :
    findSlot? key (⟨k, s⟩ :: rest) = findSlot? key rest := by
  rw [findSlot?, dif_neg h]

theorem findSlot?_putSlot_self (key : κ) (s : Option (V key)) :
    ∀ slots : List ((key : κ) × Option (V key)), findSlot? key (putSlot key s slots) = some s
  | [] => findSlot?_cons_self ..
  | ⟨k, t⟩ :: rest => by
    by_cases hk : k = key
    · rw [putSlot, if_pos hk, findSlot?_cons_self]
    · rw [putSlot, if_neg hk, findSlot?_cons_of_ne hk, findSlot?_putSlot_self key s rest]

theorem findSlot?_putSlot_of_ne {key key' : κ} (h : key' ≠ key) (s : Option (V key)) :
    ∀ slots : List ((key : κ) × Option (V key)),
      findSlot? key' (putSlot key s slots) = findSlot? key' slots
  | [] => findSlot?_cons_of_ne (Ne.symm h) ..
  | ⟨k, t⟩ :: rest => by
    by_cases hk : k = key
    · subst hk
      rw [putSlot, if_pos rfl, findSlot?_cons_of_ne (Ne.symm h), findSlot?_cons_of_ne (Ne.symm h)]
    · rw [putSlot, if_neg hk]
      by_cases hk' : k = key'
      · subst hk'
        rw [findSlot?_cons_self, findSlot?_cons_self]
      · rw [findSlot?_cons_of_ne hk', findSlot?_cons_of_ne hk', findSlot?_putSlot_of_ne h s rest]

theorem mem_of_findSlot?_eq_some {key : κ} {s : Option (V key)} :
    ∀ {slots : List ((key : κ) × Option (V key))}, findSlot? key slots = some s →
      key ∈ slots.map (·.1)
  | [], h => absurd h (by simp [findSlot?])
  | ⟨k, t⟩ :: rest, h => by
    by_cases hk : k = key
    · exact List.mem_cons.mpr (.inl hk.symm)
    · rw [findSlot?_cons_of_ne hk] at h
      exact List.mem_cons_of_mem _ (mem_of_findSlot?_eq_some h)

theorem findSlot?_filter_self (key : κ) :
    ∀ slots : List ((key : κ) × Option (V key)), findSlot? key (slots.filter (·.1 ≠ key)) = none
  | [] => rfl
  | ⟨k, t⟩ :: rest => by
    by_cases hk : k = key
    · rw [List.filter_cons_of_neg (by simp [hk]), findSlot?_filter_self key rest]
    · rw [List.filter_cons_of_pos (by simp [hk]), findSlot?_cons_of_ne hk,
        findSlot?_filter_self key rest]

theorem findSlot?_filter_of_ne {key key' : κ} (h : key' ≠ key) :
    ∀ slots : List ((key : κ) × Option (V key)),
      findSlot? key' (slots.filter (·.1 ≠ key)) = findSlot? key' slots
  | [] => rfl
  | ⟨k, t⟩ :: rest => by
    by_cases hk : k = key
    · subst hk
      rw [List.filter_cons_of_neg (by simp), findSlot?_cons_of_ne (Ne.symm h),
        findSlot?_filter_of_ne h rest]
    · rw [List.filter_cons_of_pos (by simp [hk])]
      by_cases hk' : k = key'
      · subst hk'
        rw [findSlot?_cons_self, findSlot?_cons_self]
      · rw [findSlot?_cons_of_ne hk', findSlot?_cons_of_ne hk', findSlot?_filter_of_ne h rest]

/-! ## 2. Values -/

variable (m : Memo κ V) (key : κ)

@[simp] theorem get?_empty (key : κ) : (empty : Memo κ V).get? key = none := rfl

/-- A reserved slot is empty. -/
@[simp] theorem get?_reserve (key' : κ) : (m.reserve key).get? key' = m.get? key' := by
  unfold reserve
  split
  · rfl
  · rename_i hslot
    by_cases hkey : key' = key
    · subst hkey
      rw [Option.not_isSome_iff_eq_none] at hslot
      rw [get?, get?, hslot, slot?, findSlot?_putSlot_self]
      rfl
    · rw [get?, get?, slot?, slot?, findSlot?_putSlot_of_ne hkey]

/-- Only an empty slot is taken away. -/
@[simp] theorem get?_evict (key' : κ) : (m.evict key).get? key' = m.get? key' := by
  unfold evict
  split
  · rfl
  · rename_i hvalue
    by_cases hkey : key' = key
    · subst hkey
      rw [Option.not_isSome_iff_eq_none] at hvalue
      rw [hvalue, get?, slot?, findSlot?_filter_self]
      rfl
    · rw [get?, get?, slot?, slot?, findSlot?_filter_of_ne hkey]

@[simp] theorem get?_fill_self (v : V key) : (m.fill key v).get? key = some v := by
  rw [get?, slot?, fill, findSlot?_putSlot_self]
  rfl

theorem get?_fill_of_ne {key key' : κ} (h : key' ≠ key) (v : V key) :
    (m.fill key v).get? key' = m.get? key' := by
  rw [get?, get?, slot?, slot?, fill, findSlot?_putSlot_of_ne h]

/-! ## 3. Fetching -/

variable {m key} {m' : Memo κ V} {σ ε : Type} {rest rest' : σ}
variable {init : Memo κ V × σ → Except ε (V key) × (Memo κ V × σ)}

/-- A key that has a value gives it. -/
theorem fetch_of_some {v : V key} (h : m.get? key = some v) :
    fetch key init (m, rest) = (.ok v, (m, rest)) := by
  unfold fetch
  rw [h]

/-- A key without a value gets the one that is computed. -/
theorem fetch_of_ok {v : V key} (h : m.get? key = none)
    (hinit : init (m.reserve key, rest) = (.ok v, (m', rest'))) :
    fetch key init (m, rest) = (.ok v, (m'.fill key v, rest')) := by
  simp only [fetch, h, hinit]

/-- A computation that fails leaves the key without a value. -/
theorem fetch_of_error {e : ε} (h : m.get? key = none)
    (hinit : init (m.reserve key, rest) = (.error e, (m', rest'))) :
    fetch key init (m, rest) = (.error e, (m'.evict key, rest')) := by
  simp only [fetch, h, hinit]

/-- What a computation gives is the value of its key, and the others stay as it left them. -/
theorem exists_fetch_eq {outcome : Except ε (V key)} (h : m.get? key = none)
    (hinit : init (m.reserve key, rest) = (outcome, (m', rest'))) (h' : m'.get? key = none) :
    ∃ m'', fetch key init (m, rest) = (outcome, (m'', rest')) ∧
      m''.get? key = outcome.toOption ∧ ∀ key' ≠ key, m''.get? key' = m'.get? key' := by
  cases outcome with
  | ok v =>
    exact ⟨_, fetch_of_ok h hinit, get?_fill_self .., fun key' hne => get?_fill_of_ne m' hne v⟩
  | error e =>
    exact ⟨_, fetch_of_error h hinit, (get?_evict m' key key).trans h',
      fun key' _ => get?_evict m' key key'⟩

/-- A computation that leaves the table alone changes no value but that of its key. -/
theorem get?_fetch_of_ne {key' : κ} (h : key' ≠ key)
    (hinit : (init (m.reserve key, rest)).2.1 = m.reserve key) :
    (fetch key init (m, rest)).2.1.get? key' = m.get? key' := by
  cases hkey : m.get? key with
  | some v => rw [fetch_of_some hkey]
  | none =>
    rcases hrun : init (m.reserve key, rest) with ⟨outcome, m', rest'⟩
    obtain rfl : m' = m.reserve key := by
      rw [hrun] at hinit
      exact hinit
    cases outcome with
    | ok v =>
      rw [fetch_of_ok hkey hrun]
      exact (get?_fill_of_ne _ h v).trans (get?_reserve m key key')
    | error e =>
      rw [fetch_of_error hkey hrun]
      exact (get?_evict _ key key').trans (get?_reserve m key key')

end PassContext.Memo
