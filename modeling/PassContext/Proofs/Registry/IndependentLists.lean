/-
# Shared lists are independent values

Stores and snapshots share cells, and a store writes into a cell that others once read.  None of
this can be seen: whatever is done, in whatever order, every owner reads what it would read if each
had a list of its own that nobody else can reach (`Reads`).

So what an owner reads is told by the past of that owner alone.  It was started or taken by some
operation, with the list that was read there at that time, and it was neither started anew nor
dropped since (`Undisturbed`); on top of that list are the items added to it since then.  One
operation is looked at once, as a refinement (`read?_apply`); all about the past is said of the
values only.
-/
import Mathlib.Data.List.Induction
import PassContext.Proofs.Registry.OwnerCounts

namespace PassContext

namespace SharedLists

variable {α : Type}

/-! ## 1. Operations -/

/-- What is done with stores and snapshots. -/
inductive Operation (α : Type)
  | new (store : String)
  | startFrom (store snapshot : String)
  | add (store : String) (x : α)
  | hold (snapshot store : String)
  | drop (o : Owner)

def apply (m : SharedLists α) : Operation α → SharedLists α
  | .new store => m.new store
  | .startFrom store snapshot => m.startFrom store snapshot
  | .add store x => m.add store x
  | .hold snapshot store => m.hold snapshot store
  | .drop o => m.drop o

def applyAll (m : SharedLists α) (ops : List (Operation α)) : SharedLists α := ops.foldl apply m

/-- The memory after operations in the given order. -/
def after (ops : List (Operation α)) : SharedLists α := empty.applyAll ops

/-- What starts the store of a run: the snapshot of a base is taken, the store is made from it, and
the snapshot is given up. -/
def startRun (held base run : String) : List (Operation α) :=
  [.hold held base, .startFrom run held, .drop (.snapshot held)]

theorem after_append (ops more : List (Operation α)) :
    after (ops ++ more) = (after ops).applyAll more := List.foldl_append ..

theorem after_concat (ops : List (Operation α)) (op : Operation α) :
    after (ops ++ [op]) = (after ops).apply op := after_append ops [op]

/-! ## 2. Lists as values -/

/-- What each owner reads. -/
abbrev Reads (α : Type) : Type := Owner → Option (List α)

namespace Reads

def empty : Reads α := fun _ => none

def set (r : Reads α) (o : Owner) (l : Option (List α)) : Reads α :=
  fun o' => if o' = o then l else r o'

/-- What an operation does when every owner has a list of its own. -/
def apply (r : Reads α) : Operation α → Reads α
  | .new store => r.set (.store store) (some [])
  | .startFrom store snapshot =>
    match r (.snapshot snapshot) with
    | none => r
    | some l => r.set (.store store) (some l)
  | .add store x => r.set (.store store) ((r (.store store)).map (x :: ·))
  | .hold snapshot store =>
    match r (.store store) with
    | none => r
    | some l => r.set (.snapshot snapshot) (some l)
  | .drop o => r.set o none

def applyAll (r : Reads α) (ops : List (Operation α)) : Reads α := ops.foldl apply r

variable (r : Reads α)

theorem applyAll_concat (ops : List (Operation α)) (op : Operation α) :
    r.applyAll (ops ++ [op]) = (r.applyAll ops).apply op := by
  rw [applyAll, applyAll, List.foldl_append, List.foldl_cons, List.foldl_nil]

@[simp] theorem set_self (o : Owner) (l : Option (List α)) : r.set o l o = l := if_pos rfl

theorem set_of_ne {o o' : Owner} (h : o' ≠ o) (l : Option (List α)) : r.set o l o' = r o' :=
  if_neg h

end Reads

/-! ## 3. One operation -/

section Refinement

variable {m : SharedLists α}

/-- An owner without a cell reads nothing, and one with a cell reads its items. -/
theorem Counted.read?_cases (h : Counted [] m) (o : Owner) :
    m.ref? o = none ∧ m.read? o = none ∨
      ∃ id l, m.ref? o = some id ∧ id < m.cells.length ∧ m.items? id = some l ∧
        m.read? o = some l := by
  cases ho : m.ref? o with
  | none => exact Or.inl ⟨rfl, by rw [read?_eq, ho]; rfl⟩
  | some id =>
    obtain ⟨l, hl⟩ := exists_items? (h.lt_of_ref? ho)
    refine Or.inr ⟨id, l, rfl, h.lt_of_ref? ho, hl, ?_⟩
    rw [read?_eq, ho, Option.bind_some, hl]

/-- An operation keeps the counts right. -/
theorem Counted.apply (h : Counted [] m) (op : Operation α) : Counted [] (m.apply op) := by
  cases op with
  | new store => exact h.pointFresh _ []
  | add store x => exact h.add store x
  | drop o => exact h.drop o
  | startFrom store snapshot =>
    rcases h.read?_cases (.snapshot snapshot) with ⟨ho, -⟩ | ⟨id, l, ho, hid, -, -⟩
    · simp only [SharedLists.apply, startFrom, ho]
      exact h
    · simp only [SharedLists.apply, startFrom, ho]
      exact h.point _ hid
  | hold snapshot store =>
    rcases h.read?_cases (.store store) with ⟨ho, -⟩ | ⟨id, l, ho, hid, -, -⟩
    · simp only [SharedLists.apply, SharedLists.hold, ho]
      exact h
    · simp only [SharedLists.apply, SharedLists.hold, ho]
      exact h.point _ hid

/-- An owner that is pointed at a cell reads its items; all others read what they read before. -/
theorem read?_point {o : Owner} {id : Nat} {l : List α} (hl : m.items? id = some l) :
    (m.point o id).read? = Reads.set m.read? o (some l) := by
  funext o'
  by_cases hne : o' = o
  · subst hne
    rw [read?_point_self, hl, Reads.set_self]
  · rw [read?_point_of_ne hne, Reads.set_of_ne _ hne]

/-- **One operation on shared lists does what it does on values.** -/
theorem read?_apply (h : Counted [] m) (op : Operation α) :
    (m.apply op).read? = Reads.apply m.read? op := by
  cases op with
  | new store =>
    funext o
    by_cases hne : o = .store store
    · subst hne
      rw [SharedLists.apply, SharedLists.new, read?_pointFresh_self, Reads.apply, Reads.set_self]
    · rw [SharedLists.apply, SharedLists.new, read?_pointFresh_of_ne h hne, Reads.apply,
        Reads.set_of_ne _ hne]
  | startFrom store snapshot =>
    rcases h.read?_cases (.snapshot snapshot) with ⟨ho, hread⟩ | ⟨id, l, ho, -, hl, hread⟩
    · simp only [SharedLists.apply, startFrom, ho, Reads.apply, hread]
    · simp only [SharedLists.apply, startFrom, ho, Reads.apply, hread]
      exact read?_point hl
  | hold snapshot store =>
    rcases h.read?_cases (.store store) with ⟨ho, hread⟩ | ⟨id, l, ho, -, hl, hread⟩
    · simp only [SharedLists.apply, SharedLists.hold, ho, Reads.apply, hread]
    · simp only [SharedLists.apply, SharedLists.hold, ho, Reads.apply, hread]
      exact read?_point hl
  | add store x =>
    funext o
    by_cases hne : o = .store store
    · subst hne
      rw [SharedLists.apply, read?_add_self, Reads.apply, Reads.set_self]
    · rw [SharedLists.apply, read?_add_of_ne h hne, Reads.apply, Reads.set_of_ne _ hne]
  | drop o' =>
    funext o
    by_cases hne : o = o'
    · subst hne
      rw [SharedLists.apply, read?_drop_self, Reads.apply, Reads.set_self]
    · rw [SharedLists.apply, read?_drop_of_ne hne, Reads.apply, Reads.set_of_ne _ hne]

end Refinement

/-! ## 4. Any operations -/

theorem counted_after (ops : List (Operation α)) : Counted [] (after ops) := by
  induction ops using List.reverseRecOn with
  | nil => exact counted_empty
  | append_singleton ops op ih =>
    rw [after_concat]
    exact ih.apply op

/-- **Shared lists refine lists as values.** -/
theorem read?_after (ops : List (Operation α)) :
    (after ops).read? = Reads.empty.applyAll ops := by
  induction ops using List.reverseRecOn with
  | nil => rfl
  | append_singleton ops op ih =>
    rw [after_concat, read?_apply (counted_after ops), ih, Reads.applyAll_concat]

/-! ## 5. The past of an owner -/

namespace Operation

/-- The list with which an operation starts a store or takes a snapshot, if it does: the empty one,
or the one that is read at that time. -/
def start? (r : Reads α) (o : Owner) : Operation α → Option (List α)
  | .new store => if o = .store store then some [] else none
  | .startFrom store snapshot => if o = .store store then r (.snapshot snapshot) else none
  | .hold snapshot store => if o = .snapshot snapshot then r (.store store) else none
  | .add .. | .drop _ => none

/-- The item that an operation adds for an owner. -/
def item? (o : Owner) : Operation α → Option α
  | .add store x => if o = .store store then some x else none
  | _ => none

/-- An operation neither starts an owner anew nor drops it. -/
def Leaves (r : Reads α) (o : Owner) (op : Operation α) : Prop :=
  op.start? r o = none ∧ op ≠ .drop o

end Operation

/-- The items that operations add for an owner, the newest first. -/
def added (o : Owner) (ops : List (Operation α)) : List α := (ops.filterMap (·.item? o)).reverse

/-- No operation starts an owner anew or drops it. -/
def Undisturbed (o : Owner) : Reads α → List (Operation α) → Prop
  | _, [] => True
  | r, op :: ops => op.Leaves r o ∧ Undisturbed o (r.apply op) ops

theorem added_append (o : Owner) (ops more : List (Operation α)) :
    added o (ops ++ more) = added o more ++ added o ops := by
  rw [added, List.filterMap_append, List.reverse_append]
  rfl

theorem added_singleton (o : Owner) (op : Operation α) : added o [op] = (op.item? o).toList := by
  cases h : op.item? o <;> simp [added, h]

/-- Nothing is added to a snapshot. -/
theorem added_snapshot (name : String) (ops : List (Operation α)) :
    added (.snapshot name) ops = [] := by
  have hnone : ∀ op ∈ ops, op.item? (.snapshot name) = none := by
    intro op _
    cases op <;> simp [Operation.item?]
  rw [added, List.filterMap_eq_nil_iff.mpr hnone, List.reverse_nil]

namespace Reads

variable {r : Reads α} {o : Owner} {op : Operation α} {l : List α}

theorem apply_of_start (h : op.start? r o = some l) : r.apply op o = some l := by
  cases op with
  | new store =>
    obtain ⟨rfl, rfl⟩ := by simpa [Operation.start?] using h
    exact set_self ..
  | startFrom store snapshot =>
    obtain ⟨rfl, hread⟩ := by simpa [Operation.start?] using h
    simp only [apply, hread]
    exact set_self ..
  | hold snapshot store =>
    obtain ⟨rfl, hread⟩ := by simpa [Operation.start?] using h
    simp only [apply, hread]
    exact set_self ..
  | add store x => exact absurd h (by simp [Operation.start?])
  | drop o' => exact absurd h (by simp [Operation.start?])

/-- An owner that is left alone reads the same, with the item that was added for it in front. -/
theorem apply_of_leaves (h : op.Leaves r o) :
    r.apply op o = (r o).map ((op.item? o).toList ++ ·) := by
  obtain ⟨hstart, hdrop⟩ := h
  have hsame : (r o).map (([] : List α) ++ ·) = r o := by cases r o <;> rfl
  cases op with
  | new store =>
    have hne : o ≠ .store store := by simpa [Operation.start?] using hstart
    exact (set_of_ne r hne _).trans hsame.symm
  | startFrom store snapshot =>
    refine Eq.trans ?_ hsame.symm
    cases hread : r (.snapshot snapshot) with
    | none => simp only [apply, hread]
    | some l =>
      have hne : o ≠ .store store := by simpa [Operation.start?, hread] using hstart
      simp only [apply, hread]
      exact set_of_ne r hne _
  | hold snapshot store =>
    refine Eq.trans ?_ hsame.symm
    cases hread : r (.store store) with
    | none => simp only [apply, hread]
    | some l =>
      have hne : o ≠ .snapshot snapshot := by simpa [Operation.start?, hread] using hstart
      simp only [apply, hread]
      exact set_of_ne r hne _
  | add store x =>
    by_cases hne : o = .store store
    · subst hne
      simp [apply, Operation.item?]
    · rw [Operation.item?, if_neg hne]
      exact (set_of_ne r hne _).trans hsame.symm
  | drop o' =>
    have hne : o ≠ o' := fun h' => hdrop (by rw [h'])
    exact (set_of_ne r hne _).trans hsame.symm

/-- **What an owner reads while it is left alone.** -/
theorem applyAll_of_undisturbed {ops : List (Operation α)} (h : Undisturbed o r ops)
    (hread : r o = some l) : r.applyAll ops o = some (added o ops ++ l) := by
  induction ops generalizing r l with
  | nil => exact hread
  | cons op ops ih =>
    have hstep : r.apply op o = some ((op.item? o).toList ++ l) := by
      rw [apply_of_leaves h.1, hread]
      rfl
    have hsplit : added o (op :: ops) = added o ops ++ (op.item? o).toList := by
      rw [← added_singleton]
      exact added_append o [op] ops
    rw [hsplit, List.append_assoc]
    exact ih h.2 hstep

theorem undisturbed_concat {ops : List (Operation α)} (h : Undisturbed o r ops)
    (h' : op.Leaves (r.applyAll ops) o) : Undisturbed o r (ops ++ [op]) := by
  induction ops generalizing r with
  | nil => exact ⟨h', trivial⟩
  | cons op' ops ih => exact ⟨h.1, ih h.2 h'⟩

/-- **What an owner reads goes back to an operation that started it**, and to the items that were
added since. -/
theorem applyAll_eq_some_iff {ops : List (Operation α)} :
    empty.applyAll ops o = some l ↔ ∃ earlier op later base,
      ops = earlier ++ op :: later ∧ op.start? (empty.applyAll earlier) o = some base ∧
        Undisturbed o (empty.applyAll (earlier ++ [op])) later ∧ l = added o later ++ base := by
  constructor
  · intro h
    -- From the last operation back, to the first that is found to start the owner.
    induction ops using List.reverseRecOn generalizing l with
    | nil => exact absurd h (by simp [applyAll, empty])
    | append_singleton ops op ih =>
      rw [applyAll_concat] at h
      cases hstart : op.start? (empty.applyAll ops) o with
      | some base =>
        obtain rfl : base = l := Option.some.inj ((apply_of_start hstart).symm.trans h)
        exact ⟨ops, op, [], base, rfl, hstart, trivial, rfl⟩
      | none =>
        by_cases hdrop : op = .drop o
        · subst hdrop
          exact absurd h (by simp [apply])
        · have hleaves : op.Leaves (empty.applyAll ops) o := ⟨hstart, hdrop⟩
          rw [apply_of_leaves hleaves, Option.map_eq_some_iff] at h
          obtain ⟨l', hl', rfl⟩ := h
          obtain ⟨earlier, op', later, base, rfl, hstart', hrest, rfl⟩ := ih hl'
          refine ⟨earlier, op', later ++ [op], base, by simp, hstart', ?_, ?_⟩
          · refine undisturbed_concat hrest ?_
            have hsplit : empty.applyAll (earlier ++ op' :: later) =
                (empty.applyAll (earlier ++ [op'])).applyAll later := by
              rw [List.append_cons]
              exact List.foldl_append ..
            rwa [← hsplit]
          · rw [added_append, added_singleton, List.append_assoc]
  · rintro ⟨earlier, op, later, base, rfl, hstart, hrest, rfl⟩
    have hbase : empty.applyAll (earlier ++ [op]) o = some base := by
      rw [applyAll_concat]
      exact apply_of_start hstart
    have hread := applyAll_of_undisturbed hrest hbase
    rw [List.append_cons]
    exact (congrFun (List.foldl_append ..) o).trans hread

end Reads

/-! ## 6. Independence -/

/-- What can be said of shared lists after operations in the given order. -/
structure Independent (ops : List (Operation α)) : Prop where
  /-- Every owner reads what it would read if it had a list of its own. -/
  values : (after ops).read? = Reads.empty.applyAll ops
  /-- A store reads the items added to it since it was started, the newest first, and then the list
  that it was started from, as that was read at the time. -/
  stores : ∀ store l, (after ops).read? (.store store) = some l ↔ ∃ earlier op later base,
    ops = earlier ++ op :: later ∧ op.start? (after earlier).read? (.store store) = some base ∧
      Undisturbed (.store store) (after (earlier ++ [op])).read? later ∧
      l = added (.store store) later ++ base
  /-- A snapshot reads what its store read when it was taken. -/
  snapshots : ∀ name l, (after ops).read? (.snapshot name) = some l ↔ ∃ earlier store later,
    ops = earlier ++ .hold name store :: later ∧ (after earlier).read? (.store store) = some l ∧
      Undisturbed (.snapshot name) (after (earlier ++ [.hold name store])).read? later
  /-- What is added to a store is seen there, and nowhere else. -/
  adds : ∀ store x, (after (ops ++ [.add store x])).read? (.store store) =
    ((after ops).read? (.store store)).map (x :: ·)
  apart : ∀ store x o, o ≠ .store store →
    (after (ops ++ [.add store x])).read? o = (after ops).read? o
  /-- A run starts with what its base reads, which goes on without it; later it has its own items
  on top of that. -/
  runs : ∀ held base run l, (after ops).read? (.store base) = some l →
    (∀ o, o ≠ .store run → o ≠ .snapshot held →
      (after (ops ++ startRun held base run)).read? o = (after ops).read? o) ∧
    ∀ later, Undisturbed (.store run) (after (ops ++ startRun held base run)).read? later →
      (after (ops ++ startRun held base run ++ later)).read? (.store run) =
        some (added (.store run) later ++ l)
  /-- The count of a cell is the number of stores and snapshots that refer to it. -/
  counts : ((after ops).refs.map Prod.fst).Nodup ∧
    ∀ id c, (after ops).cells[id]? = some c → c.owners = ((after ops).refs.map Prod.snd).count id

section Independent

variable {ops : List (Operation α)}

theorem read?_eq_some_iff {o : Owner} {l : List α} :
    (after ops).read? o = some l ↔ ∃ earlier op later base,
      ops = earlier ++ op :: later ∧ op.start? (after earlier).read? o = some base ∧
        Undisturbed o (after (earlier ++ [op])).read? later ∧ l = added o later ++ base := by
  simp only [read?_after]
  exact Reads.applyAll_eq_some_iff

/-- Only `hold` takes a snapshot. -/
theorem start?_snapshot_eq_some_iff {r : Reads α} {name : String} {op : Operation α}
    {l : List α} : op.start? r (.snapshot name) = some l ↔
      ∃ store, op = .hold name store ∧ r (.store store) = some l := by
  cases op with
  | hold snapshot store => by_cases h : name = snapshot <;> simp [Operation.start?, h, Ne.symm]
  | _ => simp [Operation.start?]

/-- What is read after a run was started. -/
theorem Reads.applyAll_startRun {r : Reads α} {held base run : String} {l : List α}
    (h : r (.store base) = some l) :
    r.applyAll (startRun held base run) =
      ((r.set (.snapshot held) (some l)).set (.store run) (some l)).set (.snapshot held) none := by
  simp only [startRun, applyAll, List.foldl_cons, List.foldl_nil, apply, h, set_self]

theorem read?_after_append (more : List (Operation α)) :
    (after (ops ++ more)).read? = Reads.applyAll (after ops).read? more := by
  rw [read?_after, read?_after]
  exact List.foldl_append ..

/-- **Shared lists behave like independent values**, whatever is done with stores and snapshots,
in whatever order. -/
theorem independent (ops : List (Operation α)) : Independent ops where
  values := read?_after ops
  stores store l := read?_eq_some_iff
  snapshots name l := by
    rw [read?_eq_some_iff]
    constructor
    · rintro ⟨earlier, op, later, base, hops, hstart, hrest, rfl⟩
      obtain ⟨store, rfl, hread⟩ := start?_snapshot_eq_some_iff.mp hstart
      rw [added_snapshot]
      exact ⟨earlier, store, later, hops, hread, hrest⟩
    · rintro ⟨earlier, store, later, hops, hread, hrest⟩
      refine ⟨earlier, .hold name store, later, l, hops, ?_, hrest, ?_⟩
      · exact start?_snapshot_eq_some_iff.mpr ⟨store, rfl, hread⟩
      · rw [added_snapshot, List.nil_append]
  adds store x := by
    rw [after_concat]
    exact read?_add_self (after ops) store x
  apart store x o hne := by
    rw [after_concat]
    exact read?_add_of_ne (counted_after ops) hne x
  runs held base run l h := by
    have hstarted : (after (ops ++ startRun held base run)).read? = _ :=
      (read?_after_append _).trans (Reads.applyAll_startRun h)
    refine ⟨fun o hrun hheld => ?_, fun later hlater => ?_⟩
    · rw [hstarted, Reads.set_of_ne _ hheld, Reads.set_of_ne _ hrun, Reads.set_of_ne _ hheld]
    · have hread : (after (ops ++ startRun held base run)).read? (.store run) = some l := by
        rw [hstarted, Reads.set_of_ne _ (by simp), Reads.set_self]
      rw [read?_after_append]
      exact Reads.applyAll_of_undisturbed hlater hread
  counts := by
    have hcounted := counted_after ops
    refine ⟨hcounted.nodup, fun id c hc => ?_⟩
    rw [hcounted.owners id c hc, List.append_nil]

/-- Two runs of one base: neither sees what the other adds, and the base sees neither. -/
example :
    let ops : List (Operation Nat) := [.new "base", .add "base" 1] ++
      startRun "held" "base" "run" ++ startRun "held" "base" "other" ++
      [.add "run" 2, .add "base" 3, .add "run" 4]
    (after ops).read? (.store "run") = some [4, 2, 1] ∧
      (after ops).read? (.store "other") = some [1] ∧
      (after ops).read? (.store "base") = some [3, 1] := by decide

end Independent

end SharedLists

end PassContext
