/-
# The owners of a cell

A store may write into its cell only if nobody else reads it, and all that tells it so is a number
in the cell.  `Counted` says that the numbers are right: the count of a cell is how often owners
refer to it.  A reference may also be in the hands of a caller, between the moment at which the
count goes up and the one at which an owner gets it; such references are `held`.

Every operation is made of four small changes: a cell gets one more owner, an owner gives up its
cell, a fresh cell is made, and a reference that is held becomes the one of an owner.  For each of
them it is said how it keeps the counts, and what it does to what owners read.
-/
import Mathlib.Data.List.Nodup
import PassContext.Proofs.Registry.Entries
import PassContext.Registry.SharedLists

namespace PassContext

namespace SharedLists

variable {α : Type} {m : SharedLists α} {held : List Nat} {o o' : Owner} {id : Nat}

/-! ## 1. Counts -/

/-- **The counts are right**: keys are owners once, owners refer to cells, and the count of a cell
is how often it is referred to, by owners and by references that are held. -/
structure Counted (held : List Nat) (m : SharedLists α) : Prop where
  nodup : (m.refs.map Prod.fst).Nodup
  bounds : ∀ id ∈ m.refs.map Prod.snd ++ held, id < m.cells.length
  owners : ∀ id c, m.cells[id]? = some c → c.owners = (m.refs.map Prod.snd ++ held).count id

theorem counted_empty : Counted [] (empty : SharedLists α) :=
  ⟨.nil, by simp [empty], by simp [empty]⟩

@[simp] theorem refs_modifyCell (m : SharedLists α) (id : Nat) (f : Cell α → Cell α) :
    (m.modifyCell id f).refs = m.refs := rfl

@[simp] theorem length_modifyCell (m : SharedLists α) (id : Nat) (f : Cell α → Cell α) :
    (m.modifyCell id f).cells.length = m.cells.length := List.length_modify ..

/-- The cell that an owner refers to is there. -/
theorem Counted.lt_of_ref? (h : Counted held m) (ho : m.ref? o = some id) :
    id < m.cells.length := by
  refine h.bounds id (List.mem_append_left _ ?_)
  exact List.mem_map.mpr ⟨(o, id), mem_of_findEntry?_eq_some ho, rfl⟩

/-- A cell gets one more owner, whose reference is held. -/
theorem Counted.share (h : Counted held m) (hid : id < m.cells.length) :
    Counted (id :: held) (m.modifyCell id fun c => { c with owners := c.owners + 1 }) := by
  refine ⟨h.nodup, fun id' hid' => ?_, fun id' c hc => ?_⟩
  · rw [length_modifyCell]
    rw [refs_modifyCell, List.mem_append, List.mem_cons] at hid'
    rcases hid' with hid' | rfl | hid'
    · exact h.bounds id' (List.mem_append_left _ hid')
    · exact hid
    · exact h.bounds id' (List.mem_append_right _ hid')
  · rw [modifyCell, List.getElem?_modify] at hc
    obtain ⟨c', hc', rfl⟩ := Option.map_eq_some_iff.mp hc
    have howners := h.owners id' c' hc'
    rw [List.count_append] at howners
    rw [refs_modifyCell, List.count_append, List.count_cons]
    by_cases hid' : id = id'
    · simp only [hid', if_true, beq_self_eq_true]
      omega
    · simp [hid', howners]

/-- A fresh cell has one owner, whose reference is held. -/
theorem Counted.push (h : Counted held m) (items : List α) :
    Counted (m.cells.length :: held) ⟨m.cells ++ [⟨items, 1⟩], m.refs⟩ := by
  have hfresh : (m.refs.map Prod.snd ++ held).count m.cells.length = 0 :=
    List.count_eq_zero.mpr fun hmem => absurd (h.bounds _ hmem) (Nat.lt_irrefl _)
  rw [List.count_append] at hfresh
  refine ⟨h.nodup, fun id hid => ?_, fun id c hc => ?_⟩
  · rw [List.length_append, List.length_singleton]
    rw [List.mem_append, List.mem_cons] at hid
    rcases hid with hid | rfl | hid
    · exact Nat.lt_succ_of_lt (h.bounds id (List.mem_append_left _ hid))
    · exact Nat.lt_succ_self _
    · exact Nat.lt_succ_of_lt (h.bounds id (List.mem_append_right _ hid))
  · rw [List.count_append, List.count_cons]
    by_cases hid : id < m.cells.length
    · rw [List.getElem?_append_left hid] at hc
      have howners := h.owners id c hc
      rw [List.count_append] at howners
      have hne : m.cells.length ≠ id := Nat.ne_of_gt hid
      simp [howners, hne]
    · rw [List.getElem?_append_right (Nat.le_of_not_lt hid), List.getElem?_singleton] at hc
      obtain rfl : id = m.cells.length := by
        split at hc
        · omega
        · exact absurd hc (by simp)
      rw [if_pos (Nat.sub_self _), Option.some.injEq] at hc
      rw [← hc]
      simp only [beq_self_eq_true, if_true]
      omega

/-- A reference that is held becomes the one of an owner that has none. -/
theorem Counted.give (h : Counted (id :: held) m) (ho : m.ref? o = none) :
    Counted held { m with refs := insertEntry o id m.refs } := by
  have hmem := not_mem_of_findEntry?_none ho
  have hperm : ((m.refs ++ [(o, id)]).map Prod.snd ++ held).Perm
      (m.refs.map Prod.snd ++ id :: held) := by simp
  rw [insertEntry_of_not_mem id hmem]
  refine ⟨?_, fun id' hid' => h.bounds id' (hperm.mem_iff.mp hid'), fun id' c hc => ?_⟩
  · rw [List.map_append]
    exact h.nodup.append (by simp) (by simpa using hmem)
  · rw [h.owners id' c hc, hperm.count_eq]

theorem Counted.drop (h : Counted held m) (o : Owner) : Counted held (m.drop o) := by
  unfold SharedLists.drop
  split
  · exact h
  · rename_i id ho
    have hcount := count_snd_filter h.nodup ho
    refine ⟨h.nodup.sublist (List.filter_sublist.map _), fun id' hid' => ?_, fun id' c hc => ?_⟩
    · rw [length_modifyCell]
      refine h.bounds id' ?_
      rw [List.mem_append] at hid' ⊢
      exact hid'.imp_left fun hmem => (List.filter_sublist.map _).mem hmem
    · simp only [modifyCell, List.getElem?_modify] at hc
      obtain ⟨c', hc', rfl⟩ := Option.map_eq_some_iff.mp hc
      have howners := h.owners id' c' hc'
      rw [List.count_append, hcount id'] at howners
      rw [List.count_append]
      by_cases hid' : id = id'
      · simp only [hid', if_true] at howners ⊢
        omega
      · simp only [hid', if_false] at howners ⊢
        omega

/-! ## 2. What owners read -/

theorem ref?_drop_self (m : SharedLists α) (o : Owner) : (m.drop o).ref? o = none := by
  unfold SharedLists.drop
  split
  · assumption
  · exact findEntry?_filter_self o m.refs

theorem ref?_drop_of_ne (h : o' ≠ o) : (m.drop o).ref? o' = m.ref? o' := by
  unfold SharedLists.drop
  split
  · rfl
  · exact findEntry?_filter_of_ne h m.refs

/-- The items of a cell. -/
def items? (m : SharedLists α) (id : Nat) : Option (List α) := (m.cells[id]?).map Cell.items

theorem read?_eq (m : SharedLists α) (o : Owner) : m.read? o = (m.ref? o).bind m.items? := by
  rw [read?, cell?, Option.map_bind]
  rfl

theorem exists_items? (hid : id < m.cells.length) : ∃ items, m.items? id = some items :=
  ⟨_, congrArg (Option.map Cell.items) (List.getElem?_eq_getElem hid)⟩

/-- The items of cells do not change with the counts. -/
theorem items?_modifyOwners (m : SharedLists α) (id : Nat) (f : Nat → Nat) (id' : Nat) :
    (m.modifyCell id fun c => { c with owners := f c.owners }).items? id' = m.items? id' := by
  rw [items?, items?, modifyCell, List.getElem?_modify]
  cases m.cells[id']? with
  | none => rfl
  | some c => by_cases hid : id = id' <;> simp [hid]

theorem items?_drop (m : SharedLists α) (o : Owner) (id : Nat) :
    (m.drop o).items? id = m.items? id := by
  unfold SharedLists.drop
  split
  · rfl
  · rename_i id' _
    exact items?_modifyOwners m id' (· - 1) id

theorem read?_drop_self (m : SharedLists α) (o : Owner) : (m.drop o).read? o = none := by
  rw [read?_eq, ref?_drop_self]
  rfl

theorem read?_drop_of_ne (h : o' ≠ o) : (m.drop o).read? o' = m.read? o' := by
  rw [read?_eq, read?_eq, ref?_drop_of_ne h]
  exact congrArg _ (funext (m.items?_drop o))

theorem read?_give_self (m : SharedLists α) (o : Owner) (id : Nat) :
    ({ m with refs := insertEntry o id m.refs } : SharedLists α).read? o = m.items? id := by
  rw [read?_eq, ref?, findEntry?_insertEntry, if_pos rfl]
  rfl

theorem read?_give_of_ne (m : SharedLists α) (id : Nat) (h : o' ≠ o) :
    ({ m with refs := insertEntry o id m.refs } : SharedLists α).read? o' = m.read? o' := by
  rw [read?_eq, read?_eq, ref?, findEntry?_insertEntry, if_neg h.symm]
  rfl

/-- A fresh cell is read by nobody yet. -/
theorem read?_push (h : Counted held m) (c : Cell α) (o : Owner) :
    (⟨m.cells ++ [c], m.refs⟩ : SharedLists α).read? o = m.read? o := by
  have href : (⟨m.cells ++ [c], m.refs⟩ : SharedLists α).ref? o = m.ref? o := rfl
  rw [read?_eq, read?_eq, href]
  cases ho : m.ref? o with
  | none => rfl
  | some id =>
    exact congrArg (Option.map Cell.items) (List.getElem?_append_left (h.lt_of_ref? ho))

/-! ## 3. Moving an owner to another cell -/

theorem Counted.point (h : Counted held m) (o : Owner) (hid : id < m.cells.length) :
    Counted held (m.point o id) :=
  ((h.share hid).drop o).give (ref?_drop_self _ o)

theorem Counted.pointFresh (h : Counted held m) (o : Owner) (items : List α) :
    Counted held (m.pointFresh o items) :=
  ((h.drop o).push items).give (ref?_drop_self m o)

theorem read?_point_self (m : SharedLists α) (o : Owner) (id : Nat) :
    (m.point o id).read? o = m.items? id := by
  rw [SharedLists.point, read?_give_self, items?_drop]
  exact items?_modifyOwners m id (· + 1) id

theorem read?_point_of_ne (h : o' ≠ o) : (m.point o id).read? o' = m.read? o' := by
  rw [SharedLists.point, read?_give_of_ne _ _ h, read?_drop_of_ne h, read?_eq, read?_eq]
  exact congrArg _ (funext (items?_modifyOwners m id (· + 1)))

theorem read?_pointFresh_self (m : SharedLists α) (o : Owner) (items : List α) :
    (m.pointFresh o items).read? o = some items := by
  have hgive := read?_give_self ⟨(m.drop o).cells ++ [⟨items, 1⟩], (m.drop o).refs⟩ o
    (m.drop o).cells.length
  refine hgive.trans ?_
  simp [items?]

theorem read?_pointFresh_of_ne (h : Counted held m) (hne : o' ≠ o) (items : List α) :
    (m.pointFresh o items).read? o' = m.read? o' := by
  have hgive := read?_give_of_ne ⟨(m.drop o).cells ++ [⟨items, 1⟩], (m.drop o).refs⟩
    (m.drop o).cells.length hne
  refine hgive.trans ?_
  rw [read?_push (h.drop o), read?_drop_of_ne hne]

/-! ## 4. Writing into a cell -/

/-- **The only owner of a cell is alone**: nobody else refers to it. -/
theorem Counted.ref?_ne (h : Counted held m) {c : Cell α} (ho : m.ref? o = some id)
    (hc : m.cells[id]? = some c) (howners : c.owners = 1) (hne : o' ≠ o) :
    m.ref? o' ≠ some id := by
  intro ho'
  have hcount := h.owners id c hc
  rw [howners, List.count_append, count_snd_filter h.nodup ho, if_pos rfl] at hcount
  have hzero : ((m.refs.filter (·.1 ≠ o)).map Prod.snd).count id = 0 := by omega
  have hmem : (o', id) ∈ m.refs.filter (·.1 ≠ o) := by
    refine mem_of_findEntry?_eq_some ?_
    rw [findEntry?_filter_of_ne hne]
    exact ho'
  exact List.count_eq_zero.mp hzero (List.mem_map.mpr ⟨_, hmem, rfl⟩)

/-- A change of the items of a cell leaves the counts alone. -/
theorem Counted.modifyItems (h : Counted held m) (id : Nat) (f : List α → List α) :
    Counted held (m.modifyCell id fun c => { c with items := f c.items }) := by
  refine ⟨h.nodup, fun id' hid' => ?_, fun id' c hc => ?_⟩
  · rw [length_modifyCell]
    exact h.bounds id' hid'
  · rw [modifyCell, List.getElem?_modify] at hc
    obtain ⟨c', hc', rfl⟩ := Option.map_eq_some_iff.mp hc
    have howners := h.owners id' c' hc'
    by_cases hid' : id = id' <;> simp [hid', howners]

theorem items?_modifyItems_self (m : SharedLists α) (id : Nat) (f : List α → List α) :
    (m.modifyCell id fun c => { c with items := f c.items }).items? id = (m.items? id).map f := by
  rw [items?, items?, modifyCell, List.getElem?_modify_eq]
  cases m.cells[id]? <;> rfl

theorem items?_modifyItems_of_ne {id' : Nat} (h : id' ≠ id) (f : List α → List α) :
    (m.modifyCell id fun c => { c with items := f c.items }).items? id' = m.items? id' := by
  rw [items?, items?, modifyCell, List.getElem?_modify_ne _ _ h.symm]

variable {store : String}

theorem Counted.add (h : Counted held m) (store : String) (x : α) :
    Counted held (m.add store x) := by
  unfold SharedLists.add
  split
  · exact h
  · split
    · exact h
    · split
      · exact h.modifyItems _ (x :: ·)
      · exact h.pointFresh _ _

/-- What a store reads after an item was added to it. -/
theorem read?_add_self (m : SharedLists α) (store : String) (x : α) :
    (m.add store x).read? (.store store) = (m.read? (.store store)).map (x :: ·) := by
  rw [read?_eq m]
  unfold SharedLists.add
  cases ho : m.ref? (.store store) with
  | none =>
    rw [read?_eq, ho]
    rfl
  | some id =>
    simp only [Option.bind_some]
    cases hc : m.cells[id]? with
    | none => simp [read?_eq, ho, items?, hc]
    | some c =>
      simp only
      split
      · have href : (m.modifyCell id fun c => { c with items := x :: c.items }).ref?
            (.store store) = some id := ho
        rw [read?_eq, href, Option.bind_some]
        exact items?_modifyItems_self m id (x :: ·)
      · rw [read?_pointFresh_self, items?, hc]
        rfl

/-- **An item that is added to a store is seen by no other owner.** -/
theorem read?_add_of_ne (h : Counted held m) (hne : o ≠ .store store) (x : α) :
    (m.add store x).read? o = m.read? o := by
  unfold SharedLists.add
  cases ho : m.ref? (.store store) with
  | none => rfl
  | some id =>
    simp only
    cases hc : m.cells[id]? with
    | none => rfl
    | some c =>
      simp only
      split
      · rename_i howners
        have href : (m.modifyCell id fun c => { c with items := x :: c.items }).ref? o =
            m.ref? o := rfl
        rw [read?_eq, read?_eq, href]
        cases ho' : m.ref? o with
        | none => rfl
        | some id' =>
          have hid : id' ≠ id := by
            rintro rfl
            exact h.ref?_ne ho hc howners hne ho'
          exact items?_modifyItems_of_ne hid (x :: ·)
      · exact read?_pointFresh_of_ne h hne _

end SharedLists

end PassContext
