/-
# Lists shared between stores and snapshots

A list of templates can be large, and most runs never add to the one they start from.  So stores
and snapshots refer to cells, and a cell counts its owners.  Taking a snapshot and starting a
store from one share the cell.  Adding puts the item into the cell when the store is its only
owner, and otherwise moves the store to a fresh cell of its own.

Cells are never taken away from the memory: a cell without owners is garbage that nothing reads.
-/
import PassContext.Registry.Table

namespace PassContext

/-- A list in memory, and how many stores and snapshots refer to it. -/
structure Cell (α : Type) where
  items : List α
  owners : Nat

/-- Who may refer to a cell. -/
inductive Owner
  | store (name : String)
  | snapshot (name : String)
deriving DecidableEq, Repr

/-- Named stores and snapshots over cells. -/
structure SharedLists (α : Type) where
  cells : List (Cell α)
  /-- Which cell each owner refers to. -/
  refs : List (Owner × Nat)

namespace SharedLists

variable {α : Type}

def empty : SharedLists α := ⟨[], []⟩

/-- The number of the cell that an owner refers to. -/
def ref? (m : SharedLists α) (o : Owner) : Option Nat := findEntry? o m.refs

/-- The cell that an owner refers to. -/
def cell? (m : SharedLists α) (o : Owner) : Option (Cell α) := (m.ref? o).bind (m.cells[·]?)

/-- What an owner reads. -/
def read? (m : SharedLists α) (o : Owner) : Option (List α) := (m.cell? o).map Cell.items

/-- Changes a cell. -/
def modifyCell (m : SharedLists α) (id : Nat) (f : Cell α → Cell α) : SharedLists α :=
  { m with cells := m.cells.modify id f }

/-- An owner gives up its cell. -/
def drop (m : SharedLists α) (o : Owner) : SharedLists α :=
  match m.ref? o with
  | none => m
  | some id =>
    { m.modifyCell id (fun c => { c with owners := c.owners - 1 }) with
      refs := m.refs.filter (·.1 ≠ o) }

/-- An owner becomes one of the owners of a cell, and gives up the cell it had. -/
def point (m : SharedLists α) (o : Owner) (id : Nat) : SharedLists α :=
  let m := (m.modifyCell id fun c => { c with owners := c.owners + 1 }).drop o
  { m with refs := insertEntry o id m.refs }

/-- An owner becomes the only owner of a fresh cell, and gives up the cell it had. -/
def pointFresh (m : SharedLists α) (o : Owner) (items : List α) : SharedLists α :=
  let m := m.drop o
  { cells := m.cells ++ [⟨items, 1⟩], refs := insertEntry o m.cells.length m.refs }

/-- A store that reads as the empty list. -/
def new (m : SharedLists α) (store : String) : SharedLists α := m.pointFresh (.store store) []

/-- The store of a name, which is created empty when it is first used. -/
def ensure (m : SharedLists α) (store : String) : SharedLists α :=
  if (m.ref? (.store store)).isSome then m else m.new store

/-- Keeps what a store reads at the moment under the name of a snapshot. -/
def hold (m : SharedLists α) (snapshot store : String) : SharedLists α :=
  match m.ref? (.store store) with
  | none => m
  | some id => m.point (.snapshot snapshot) id

/-- Starts a store from a snapshot. -/
def startFrom (m : SharedLists α) (store snapshot : String) : SharedLists α :=
  match m.ref? (.snapshot snapshot) with
  | none => m
  | some id => m.point (.store store) id

/-- Puts an item in front of what a store reads. -/
def add (m : SharedLists α) (store : String) (x : α) : SharedLists α :=
  match m.ref? (.store store) with
  | none => m
  | some id =>
    match m.cells[id]? with
    | none => m
    | some c =>
      if c.owners = 1 then m.modifyCell id fun c => { c with items := x :: c.items }
      else m.pointFresh (.store store) (x :: c.items)

end SharedLists

end PassContext
