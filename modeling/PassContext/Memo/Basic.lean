/-
# Memo tables

A memo table gives every key its value by computing it at most once.  A key that is asked for gets
a slot.  While its value is being computed the slot is empty; a computation that succeeds fills
it, and one that fails gives the slot up, so that the next request tries again.

A computation may use the table itself, for other keys.  It is a function of the table and of
whatever else it reads and changes, and what it changed stays changed when it fails.
-/

namespace PassContext

/-- A memo table: the slots of keys, each empty or with the value of its key. -/
structure Memo (κ : Type) (V : κ → Type) where
  slots : List ((key : κ) × Option (V key))

namespace Memo

variable {κ : Type} [DecidableEq κ] {V : κ → Type}

def empty : Memo κ V := ⟨[]⟩

/-! ## 1. Slots -/

/-- The slot of a key in a list of slots. -/
def findSlot? (key : κ) : List ((key : κ) × Option (V key)) → Option (Option (V key))
  | [] => none
  | ⟨k, s⟩ :: rest => if h : k = key then some (h ▸ s) else findSlot? key rest

/-- Sets the slot of a key in a list of slots. -/
def putSlot (key : κ) (s : Option (V key)) :
    List ((key : κ) × Option (V key)) → List ((key : κ) × Option (V key))
  | [] => [⟨key, s⟩]
  | ⟨k, t⟩ :: rest => if k = key then ⟨key, s⟩ :: rest else ⟨k, t⟩ :: putSlot key s rest

/-- The slot of a key, if it has one. -/
def slot? (m : Memo κ V) (key : κ) : Option (Option (V key)) := findSlot? key m.slots

/-- The value of a key, if it has been computed. -/
def get? (m : Memo κ V) (key : κ) : Option (V key) := (m.slot? key).join

/-- Gives a key a slot, unless it has one. -/
def reserve (m : Memo κ V) (key : κ) : Memo κ V :=
  if (m.slot? key).isSome then m else ⟨putSlot key none m.slots⟩

/-- Fills the slot of a key. -/
def fill (m : Memo κ V) (key : κ) (value : V key) : Memo κ V :=
  ⟨putSlot key (some value) m.slots⟩

/-- Takes the slot of a key away, if it is empty. -/
def evict (m : Memo κ V) (key : κ) : Memo κ V :=
  if (m.get? key).isSome then m else ⟨m.slots.filter (·.1 ≠ key)⟩

/-- The keys that have a slot. -/
def keys (m : Memo κ V) : List κ := m.slots.map (·.1)

/-- How many of the keys `among` have a slot. -/
def slotCount (m : Memo κ V) (among : κ → Bool) : Nat := (m.slots.filter (among ·.1)).length

/-- How many of the keys `among` have a value. -/
def count (m : Memo κ V) (among : κ → Bool) : Nat :=
  (m.slots.filter fun s => among s.1 && s.2.isSome).length

/-! ## 2. Computing a value once -/

/-- The value of a key, computed by `init` if the key has none.  The state is the table with
whatever else computations use. -/
def fetch {σ ε : Type} (key : κ)
    (init : Memo κ V × σ → Except ε (V key) × (Memo κ V × σ)) (s : Memo κ V × σ) :
    Except ε (V key) × (Memo κ V × σ) :=
  match s.1.get? key with
  | some value => (.ok value, s)
  | none =>
    match init (s.1.reserve key, s.2) with
    | (.ok value, (m, rest)) => (.ok value, (m.fill key value, rest))
    | (.error e, (m, rest)) => (.error e, (m.evict key, rest))

/-- A table as it is shown for inspection: how many slots there are. -/
def shown (slots : Nat) : String := "OnceMap \x7b keys: " ++ toString slots ++ " \x7d"

end Memo

end PassContext
