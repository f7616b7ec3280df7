/-
# Tables

A finite map as a list of entries, in the order in which the keys first came.  No key has two
entries; a new value for a key takes the place of the old one.
-/

namespace PassContext

variable {κ υ : Type} [DecidableEq κ]

/-- Puts a value under a key: in place of the key's entry, or behind all entries. -/
def insertEntry (key : κ) (value : υ) : List (κ × υ) → List (κ × υ)
  | [] => [(key, value)]
  | (k, v) :: rest => if k = key then (key, value) :: rest else (k, v) :: insertEntry key value rest

/-- The value under a key. -/
def findEntry? (key : κ) : List (κ × υ) → Option υ
  | [] => none
  | (k, v) :: rest => if k = key then some v else findEntry? key rest

theorem map_fst_insertEntry (key : κ) (value : υ) (es : List (κ × υ)) :
    (insertEntry key value es).map Prod.fst =
      if key ∈ es.map Prod.fst then es.map Prod.fst else es.map Prod.fst ++ [key] := by
  induction es with
  | nil => simp [insertEntry]
  | cons e es ih =>
    obtain ⟨k, v⟩ := e
    by_cases h : k = key
    · simp [insertEntry, h]
    · have h' : ¬ key = k := fun e => h e.symm
      simp only [insertEntry, h, if_false, List.map_cons, ih, List.mem_cons, h', false_or]
      split <;> simp

theorem findEntry?_insertEntry (key other : κ) (value : υ) (es : List (κ × υ)) :
    findEntry? other (insertEntry key value es) =
      if key = other then some value else findEntry? other es := by
  induction es with
  | nil => simp [insertEntry, findEntry?]
  | cons e es ih =>
    obtain ⟨k, v⟩ := e
    by_cases h : k = key
    · subst h
      by_cases h' : k = other <;> simp [insertEntry, findEntry?, h']
    · by_cases h' : k = other
      · subst h'
        have : ¬ key = k := fun e => h e.symm
        simp [insertEntry, findEntry?, h, this]
      · simp [insertEntry, findEntry?, h, h', ih]

/-- A finite map whose entries keep the order in which their keys came. -/
structure Table (κ υ : Type) where
  entries : List (κ × υ)
  nodup : (entries.map Prod.fst).Nodup

namespace Table

def empty : Table κ υ := ⟨[], .nil⟩

def insert (t : Table κ υ) (key : κ) (value : υ) : Table κ υ :=
  ⟨insertEntry key value t.entries, by
    rw [map_fst_insertEntry]
    split
    · exact t.nodup
    · rename_i h
      rw [List.nodup_append]
      refine ⟨t.nodup, List.nodup_cons.mpr ⟨List.not_mem_nil, .nil⟩, ?_⟩
      intro a ha b hb
      rw [List.mem_singleton] at hb
      exact fun e => h (hb ▸ e ▸ ha)⟩

def get? (t : Table κ υ) (key : κ) : Option υ := findEntry? key t.entries

def keys (t : Table κ υ) : List κ := t.entries.map Prod.fst

def size (t : Table κ υ) : Nat := t.entries.length

omit [DecidableEq κ] in
theorem nodup_keys (t : Table κ υ) : t.keys.Nodup := t.nodup

@[simp] theorem get?_empty (key : κ) : (empty : Table κ υ).get? key = none := rfl

omit [DecidableEq κ] in
@[simp] theorem keys_empty : (empty : Table κ υ).keys = [] := rfl

theorem get?_insert (t : Table κ υ) (key other : κ) (value : υ) :
    (t.insert key value).get? other = if key = other then some value else t.get? other :=
  findEntry?_insertEntry key other value t.entries

end Table

end PassContext
