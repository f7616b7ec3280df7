/-
# A memo table in memory

In memory, the slot of a key is an object of its own.  The table refers to it, and so does every
call that works with it; a slot counts its references, and it is locked while its value is read or
computed.  A failed call takes the slot out of the table only if it is the slot that the key still
has, if nobody but the table and the call refers to it, and if it is free and empty.

Here one caller takes steps.  A look and a fetch that finds a value lock the slot only as long as
the step takes; while a computation runs, its slot stays locked, and whoever waits for it keeps a
reference.  A step on a locked slot cannot be taken, because the caller would wait for itself.
-/
import PassContext.Memo.Steps
import PassContext.Registry.Table

namespace PassContext.Memo

variable {κ V : Type}

/-! ## 1. Slots -/

/-- A slot in memory. -/
structure Slot (V : Type) where
  value : Option V
  locked : Bool
  owners : Nat

/-- A table in memory: all slots that were made, and the slot that each key has by its number. -/
structure SlotTable (κ V : Type) where
  slots : List (Slot V)
  refs : List (κ × Nat)

namespace SlotTable

def empty : SlotTable κ V := ⟨[], []⟩

variable (t : SlotTable κ V)

/-- The keys that have a slot. -/
def keys : List κ := t.refs.map Prod.fst

def modify (n : Nat) (f : Slot V → Slot V) : SlotTable κ V :=
  { t with slots := t.slots.modify n f }

def share (n : Nat) : SlotTable κ V := t.modify n fun s => { s with owners := s.owners + 1 }

def release (n : Nat) : SlotTable κ V := t.modify n fun s => { s with owners := s.owners - 1 }

def lock (n : Nat) : SlotTable κ V := t.modify n fun s => { s with locked := true }

def unlock (n : Nat) : SlotTable κ V := t.modify n fun s => { s with locked := false }

def store (n : Nat) (value : V) : SlotTable κ V :=
  t.modify n fun s => { s with value := some value }

/-- The value in a slot. -/
def held? (n : Nat) : Option V := (t.slots[n]?).bind Slot.value

/-- The table without what only memory knows of it. -/
def toMemo : Memo κ (fun _ => V) := ⟨t.refs.map fun r => ⟨r.1, t.held? r.2⟩⟩

/-- A computation succeeded: its value is stored, the slot unlocked and the reference given up. -/
def succeed (n : Nat) (value : V) : SlotTable κ V := ((t.store n value).unlock n).release n

variable [DecidableEq κ] (key : κ) (n : Nat)

/-- The slot of a key. -/
def ref? : Option Nat := findEntry? key t.refs

/-- The value of a key. -/
def value? : Option V := (t.ref? key).bind t.held?

/-- A reference to the slot of a key, which is made if there is none. -/
def claim : Nat × SlotTable κ V :=
  match t.ref? key with
  | some n => (n, t.share n)
  | none => (t.slots.length, ⟨t.slots ++ [⟨none, false, 2⟩], t.refs ++ [(key, t.slots.length)]⟩)

/-- Takes a slot out of the table after a failure, if it is still the one of its key, if nobody
else refers to it, and if it is free and empty. -/
def evict : SlotTable κ V :=
  match t.ref? key, t.slots[n]? with
  | some current, some s =>
    if current = n ∧ s.owners = 2 ∧ s.locked = false ∧ s.value.isNone then
      { t.release n with refs := t.refs.filter (·.1 ≠ key) }
    else t
  | _, _ => t

/-- A computation failed: the slot is unlocked and taken out of the table, and the reference given
up. -/
def fail : SlotTable κ V := ((t.unlock n).evict key n).release n

/-- A computation ended. -/
def finish {ε : Type} : Except ε V → SlotTable κ V
  | .ok value => t.succeed n value
  | .error _ => t.fail key n

end SlotTable

/-! ## 2. A run -/

/-- Something that happened. -/
inductive StepEvent (κ V : Type) : Type 1
  /-- A look at a key was answered. -/
  | found (key : κ) (value : Option V)
  /-- A computation for a key began. -/
  | began (key : κ)
  | ended {ε : Type} (key : κ) (outcome : Except ε V)
  /-- A fetch was answered. -/
  | fetched {ε : Type} (key : κ) (outcome : Except ε V)

/-- Who waits for a result: the caller of all, or a fetch that keeps the slot of its key locked and
goes on with the outcome. -/
inductive Waiting (κ V α : Type) : Type → Type 1
  | caller : Waiting κ V α α
  | fetch {ρ ε σ : Type} (key : κ) (slot : Nat) (next : Except ε V × σ → Steps κ V ρ)
      (below : Waiting κ V α ρ) : Waiting κ V α (Except ε V × σ)

/-- The slots of the computations in progress, the innermost first. -/
def Waiting.slots {α : Type} : {ρ : Type} → Waiting κ V α ρ → List (κ × Nat)
  | _, .caller => []
  | _, .fetch key slot _ below => (key, slot) :: below.slots

/-- A point of a run: the table, the steps that are still to be taken, who waits for their result,
and what has happened. -/
structure Point (κ V α : Type) : Type 1 where
  {ρ : Type}
  table : SlotTable κ V
  steps : Steps κ V ρ
  waiting : Waiting κ V α ρ
  events : List (StepEvent κ V)

namespace Point

variable {α : Type}

/-- Steps that have not begun, on an empty table. -/
def start (steps : Steps κ V α) : Point κ V α := ⟨.empty, steps, .caller, []⟩

/-- The keys whose values are being computed. -/
def busy (c : Point κ V α) : List κ := c.waiting.slots.map Prod.fst

/-- The key that the next step uses. -/
def uses? (c : Point κ V α) : Option κ :=
  match c.steps with
  | .done _ => none
  | .get key _ | .fetch key _ _ _ => some key

variable [DecidableEq κ]

/-- A result is handed to whoever waits for it. -/
def handOn (table : SlotTable κ V) (events : List (StepEvent κ V)) :
    {ρ : Type} → Waiting κ V α ρ → ρ → Option (Point κ V α)
  | _, .caller, _ => none
  | _, .fetch key slot next below, (outcome, after) =>
    some ⟨table.finish key slot outcome, next (outcome, after), below,
      events ++ [.ended key outcome, .fetched key outcome]⟩

/-- Looks at a slot, unless it is locked. -/
def look {ρ : Type} (table : SlotTable κ V) (key : κ) (next : Option V → Steps κ V ρ)
    (waiting : Waiting κ V α ρ) (events : List (StepEvent κ V)) : Option (Point κ V α) :=
  match table.ref? key with
  | none => some ⟨table, next none, waiting, events ++ [.found key none]⟩
  | some n =>
    match (table.share n).slots[n]? with
    | none => none
    | some s =>
      if s.locked then none
      else some ⟨(table.share n).release n, next s.value, waiting, events ++ [.found key s.value]⟩

/-- Fetches the value of a key from its slot, unless it is locked; if there is none, the computation
begins. -/
def enter {ρ ε σ : Type} (table : SlotTable κ V) (key : κ) (before : σ)
    (init : Steps κ V (Except ε V × σ)) (next : Except ε V × σ → Steps κ V ρ)
    (waiting : Waiting κ V α ρ) (events : List (StepEvent κ V)) : Option (Point κ V α) :=
  let (n, table) := table.claim key
  match table.slots[n]? with
  | none => none
  | some s =>
    if s.locked then none
    else
      match s.value with
      | some v =>
        some ⟨table.release n, next (.ok v, before), waiting,
          events ++ [.fetched (ε := ε) key (.ok v)]⟩
      | none =>
        some ⟨table.lock n, init, .fetch key n next waiting, events ++ [.began key]⟩

/-- The next point, if there is one. -/
def step (c : Point κ V α) : Option (Point κ V α) :=
  match c.steps, c.waiting with
  | .done r, waiting => handOn c.table c.events waiting r
  | .get key next, waiting => look c.table key next waiting c.events
  | .fetch key before init next, waiting =>
    enter c.table key before init next waiting c.events

/-- One point is reached from another by steps. -/
inductive Reaches : Point κ V α → Point κ V α → Prop
  | refl (c : Point κ V α) : Reaches c c
  | step {c c' c'' : Point κ V α} (h : c.step = some c') (h' : Reaches c' c'') : Reaches c c''

end Point

end PassContext.Memo
