/-
# Chains of member accesses

A front end may nest the chain `a.b.c` on either side.  What the chain finally names is found by
going to the right only, while the leaves of an expression are its operands on both sides.  One
equation connects the two: where the descent ends is the last leaf (`getLast?_leaves`).  So the
descent cannot tell how a chain was associated (`Chains.leaves_eq`).

The descent itself is also given as a relation, `Names`, which says where it goes and where it stops
without running it.
-/
import Mathlib.Data.List.Basic
import PassContext.Syntax.Expr

namespace PassContext.Expr

/-! ## 1. The descent -/

/-- `e.Names d`: going from `e` to the right operand of each member access ends at `d`, which is no
member access. -/
inductive Names : Expr → Expr → Prop
  | itself {e : Expr} (h : ∀ l r, e ≠ .memberAccess l r) : Names e e
  | right {l r d : Expr} (h : Names r d) : Names (.memberAccess l r) d

theorem finalMember_of_ne {e : Expr} (h : ∀ l r, e ≠ .memberAccess l r) : e.finalMember = e := by
  rw [finalMember]
  exact h

/-- The descent stops only where it cannot go on. -/
theorem finalMember_ne (e : Expr) : ∀ l r, e.finalMember ≠ .memberAccess l r := by
  fun_induction finalMember e with
  | case1 _ right ih => exact ih
  | case2 e h => exact h

/-- **What an expression finally names is where the descent ends**, and nothing else. -/
theorem names_iff {e d : Expr} : e.Names d ↔ e.finalMember = d := by
  constructor
  · intro h
    induction h with
    | itself h => exact finalMember_of_ne h
    | right _ ih => rw [finalMember_memberAccess, ih]
  · rintro rfl
    fun_induction finalMember e with
    | case1 _ right ih => exact .right ih
    | case2 e h => exact .itself h

theorem finalMember_finalMember (e : Expr) : e.finalMember.finalMember = e.finalMember :=
  finalMember_of_ne e.finalMember_ne

/-! ## 2. The leaves -/

/-- **The descent ends at the last leaf.** -/
theorem getLast?_leaves (e : Expr) : e.leaves.getLast? = some e.finalMember := by
  fun_induction leaves e with
  | case1 left right _ ihr =>
    rw [finalMember_memberAccess, List.getLast?_append, ihr, Option.some_or]
  | case2 e h => rw [finalMember_of_ne h, List.getLast?_singleton]

theorem finalMember_congr {e d : Expr} (h : e.leaves = d.leaves) :
    e.finalMember = d.finalMember := by
  have hlast : some e.finalMember = some d.finalMember := by
    rw [← getLast?_leaves, ← getLast?_leaves, h]
  exact Option.some.inj hlast

/-! ## 3. Association -/

/-- `Chains operands e`: joining the operands by member accesses, in their order and with some
association, gives `e`. -/
inductive Chains : List Expr → Expr → Prop
  | operand (e : Expr) : Chains [e] e
  | access {xs ys : List Expr} {l r : Expr} (hl : Chains xs l) (hr : Chains ys r) :
      Chains (xs ++ ys) (.memberAccess l r)

/-- The leaves of a chain are those of its operands, however it is associated. -/
theorem Chains.leaves_eq {operands : List Expr} {e : Expr} (h : Chains operands e) :
    e.leaves = operands.flatMap leaves := by
  induction h with
  | operand e => rw [List.flatMap_singleton]
  | access _ _ ihl ihr => rw [leaves_memberAccess, ihl, ihr, List.flatMap_append]

end PassContext.Expr
