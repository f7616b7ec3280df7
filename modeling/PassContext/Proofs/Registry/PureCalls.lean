/-
# Which calls are pure

A call is looked at only through what its callee finally names, and the registry only through the
set of base names and types that were recorded (`isPure_recordAll_iff`).  Everything else about a
call or a recording makes no difference: left operands, arguments and result types, the order of the
recordings, their parameters.  The way in which the callee's member chain is associated makes none
either, because what it finally names is its last leaf.

The recorded names are compared with identifiers as they stand at the call, by their first
characters.  A base name ends before the labels, but the comparison does not look where the name of
the callee ends.  So a reference fits if its own base name is a recorded one, and also if it goes on
behind it (`begins_iff`): where `f` is recorded, `foo` of the same type is taken for pure
(`pure_of_other_name`).
-/
import PassContext.Proofs.Signature.BaseNames
import PassContext.Proofs.Syntax.MemberChains
import PassContext.Registry.PureFunctions

namespace PassContext

/-! ## 1. What is recorded -/

/-- What is recorded of a declaration. -/
def FunctionDecl.pureFunction (d : FunctionDecl) : PureFunction := ⟨d.baseName, d.functionType⟩

/-- A reference fits a declaration: its identifier begins with the base name, and its type is the
same text. -/
def FunctionDecl.Fits (d : FunctionDecl) (r : DeclReference) : Prop :=
  (∃ rest, r.identifier = d.baseName ++ rest) ∧ r.typeName = d.functionType

theorem beginsWith_iff {s start : String} :
    beginsWith s start = true ↔ ∃ rest, s = start ++ rest := by
  rw [beginsWith, List.isPrefixOf_iff_prefix]
  constructor
  · rintro ⟨rest, hrest⟩
    exact ⟨.ofList rest, by rw [← String.toList_inj, ← hrest]; simp⟩
  · rintro ⟨rest, rfl⟩
    exact ⟨rest.toList, by simp⟩

namespace PureFunctions

/-- Records declarations in the given order. -/
def recordAll (fs : PureFunctions) (ds : List FunctionDecl) : PureFunctions := ds.foldl record fs

variable {fs : PureFunctions} {ds ds' : List FunctionDecl} {call call' : CallExpr}

theorem toList_recordAll (fs : PureFunctions) (ds : List FunctionDecl) :
    (fs.recordAll ds).toList = fs.toList ++ ds.map FunctionDecl.pureFunction := by
  induction ds generalizing fs with
  | nil => exact (List.append_nil _).symm
  | cons d ds ih =>
    show ((fs.record d).recordAll ds).toList = _
    rw [ih, toList_record, List.append_assoc]
    rfl

theorem fits_iff {d : FunctionDecl} {r : DeclReference} :
    fits d.pureFunction r = true ↔ d.Fits r := by
  rw [fits, Bool.and_eq_true, beginsWith_iff, beq_iff_eq]
  rfl

/-! ## 2. What an answer depends on -/

theorem isPure_iff :
    fs.isPure call = true ↔
      ∃ r, call.function.Names (.declReference r) ∧ ∃ f ∈ fs.toList, fits f r = true := by
  simp only [Expr.names_iff, isPure]
  cases call.function.finalMember with
  | declReference r => simp [Expr.declReference?]
  | _ => simp [Expr.declReference?]

/-- **A call is pure exactly if its callee finally names a reference that fits a recorded
declaration.** -/
theorem isPure_recordAll_iff :
    (empty.recordAll ds).isPure call = true ↔
      ∃ r, call.function.Names (.declReference r) ∧ ∃ d ∈ ds, d.Fits r := by
  rw [isPure_iff]
  refine exists_congr fun r => and_congr_right fun _ => ?_
  rw [toList_recordAll, toList_empty, List.nil_append]
  simp only [List.mem_map, exists_exists_and_eq_and, fits_iff]

/-- Nothing but what the callee finally names matters in a call. -/
theorem isPure_congr (h : call.function.finalMember = call'.function.finalMember) :
    fs.isPure call = fs.isPure call' := by
  rw [isPure, isPure, h]

/-- More recordings leave no call less pure. -/
theorem isPure_mono {fs' : PureFunctions} (hsub : fs.toList ⊆ fs'.toList)
    (h : fs.isPure call = true) : fs'.isPure call = true := by
  rw [isPure_iff] at h ⊢
  obtain ⟨r, hr, f, hf, hfits⟩ := h
  exact ⟨r, hr, f, hsub hf, hfits⟩

/-- Nothing but the set of what is recorded matters in a registry. -/
theorem isPure_congr_of_mem_iff {fs' : PureFunctions}
    (h : ∀ f, f ∈ fs.toList ↔ f ∈ fs'.toList) : fs.isPure call = fs'.isPure call :=
  Bool.eq_iff_iff.mpr
    ⟨isPure_mono fun f hf => (h f).mp hf, isPure_mono fun f hf => (h f).mpr hf⟩

/-- What the answers of a registry depend on, after recordings in the given order. -/
structure DependsOnRecorded (ds : List FunctionDecl) : Prop where
  pure_iff : ∀ call, (empty.recordAll ds).isPure call = true ↔
    ∃ r, call.function.Names (.declReference r) ∧ ∃ d ∈ ds, d.Fits r
  /-- Not on the order of the recordings, how often one was made, or what else is declared. -/
  sameRecords : ∀ ds',
    (∀ f, f ∈ ds.map FunctionDecl.pureFunction ↔ f ∈ ds'.map FunctionDecl.pureFunction) →
    ∀ call, (empty.recordAll ds).isPure call = (empty.recordAll ds').isPure call
  /-- Not on the left operands, the arguments or the result type of a call. -/
  sameCallee : ∀ call call' e, call.function.Names e → call'.function.Names e →
    (empty.recordAll ds).isPure call = (empty.recordAll ds).isPure call'
  moreRecords : ∀ more call, (empty.recordAll ds).isPure call = true →
    (empty.recordAll (ds ++ more)).isPure call = true

/-- **The answers depend on what the callee finally names and on what was recorded**, for all
recordings and all calls. -/
theorem dependsOnRecorded (ds : List FunctionDecl) : DependsOnRecorded ds where
  pure_iff _ := isPure_recordAll_iff
  sameRecords ds' hsame call := by
    refine isPure_congr_of_mem_iff fun f => ?_
    rw [toList_recordAll, toList_recordAll]
    exact hsame f
  sameCallee call call' e hcall hcall' := by
    refine isPure_congr ?_
    rw [Expr.names_iff.mp hcall, Expr.names_iff.mp hcall']
  moreRecords more call hpure := by
    refine isPure_mono ?_ hpure
    rw [toList_recordAll, toList_recordAll, List.map_append, ← List.append_assoc]
    exact List.subset_append_left _ _

end PureFunctions

/-! ## 3. How the callee is associated -/

/-- What an expression finally names does not depend on how its member chains are associated. -/
structure Expr.NamesLastLeaf (e : Expr) : Prop where
  last : e.leaves.getLast? = some e.finalMember
  noAccess : ∀ l r, e.finalMember ≠ .memberAccess l r
  fixed : e.finalMember.finalMember = e.finalMember
  sameLeaves : ∀ d : Expr, d.leaves = e.leaves → d.finalMember = e.finalMember
  /-- Chains of the same operands have the same leaves. -/
  sameOperands : ∀ operands d, Expr.Chains operands e → Expr.Chains operands d →
    Expr.leaves d = e.leaves
  /-- In every registry, calls through either are pure or not alike. -/
  samePurity : ∀ d : Expr, d.leaves = e.leaves →
    ∀ (fs : PureFunctions) arguments arguments' type type',
      fs.isPure ⟨d, arguments, type⟩ = fs.isPure ⟨e, arguments', type'⟩

/-- **An expression finally names its last leaf**, for member chains of any length and with any
association. -/
theorem Expr.namesLastLeaf (e : Expr) : e.NamesLastLeaf where
  last := e.getLast?_leaves
  noAccess := e.finalMember_ne
  fixed := e.finalMember_finalMember
  sameLeaves _ hleaves := finalMember_congr hleaves
  sameOperands _ _ he hd := hd.leaves_eq.trans he.leaves_eq.symm
  samePurity _ hleaves _ _ _ _ _ := PureFunctions.isPure_congr (finalMember_congr hleaves)

/-- The chain `a.b.f` with either association. -/
example (a b f : Expr) :
    Expr.Chains [a, b, f] (.memberAccess (.memberAccess a b) f) ∧
      Expr.Chains [a, b, f] (.memberAccess a (.memberAccess b f)) :=
  ⟨.access (.access (.operand a) (.operand b)) (.operand f),
    .access (.operand a) (.access (.operand b) (.operand f))⟩

/-! ## 4. Names that begin with a recorded one -/

namespace PureFunctions

open Signature

variable {ds : List FunctionDecl}

/-- **A call is pure exactly if the base name of its callee begins with a recorded one** of the same
type: it is the recorded name, or it goes on behind it. -/
theorem pureByBeginning (h : ∀ d ∈ ds, IsBaseName d.baseName) (call : CallExpr) :
    (empty.recordAll ds).isPure call = true ↔
      ∃ r, call.function.Names (.declReference r) ∧ ∃ d ∈ ds, r.typeName = d.functionType ∧
        (baseName r.identifier = d.baseName ∨ Extends (baseName r.identifier) d.baseName) := by
  rw [isPure_recordAll_iff]
  refine exists_congr fun r => and_congr_right fun _ => exists_congr fun d =>
    and_congr_right fun hd => ?_
  rw [FunctionDecl.Fits, begins_iff (h d hd), and_comm]

/-- The function `f` from integers to integers. -/
def recordedF : FunctionDecl := .named "f" "(Int) -> Int" "Int"

/-- A call of a function of the same type, as a member of `a`. -/
def callOn (identifier : String) : CallExpr :=
  ⟨.memberAccess (.reference "a" "A") (.reference identifier "(Int) -> Int"), [], "Int"⟩

theorem isBaseName_recordedF : ∀ d ∈ [recordedF], IsBaseName d.baseName := by
  intro d hd
  obtain rfl := List.mem_singleton.mp hd
  show baseName "f" = "f"
  cbv

/-- Where `f` is recorded, a call of `foo(_:)` is pure, because its base name goes on behind `f`. -/
theorem pureByBeginning_foo :
    (∀ d ∈ [recordedF], IsBaseName d.baseName) ∧
      (empty.recordAll [recordedF]).isPure (callOn "foo(_:)") = true ∧
      ∃ r, (callOn "foo(_:)").function.Names (.declReference r) ∧ ∃ d ∈ [recordedF],
        r.typeName = d.functionType ∧
          (baseName r.identifier = d.baseName ∨ Extends (baseName r.identifier) d.baseName) :=
  ⟨isBaseName_recordedF, rfl, (pureByBeginning isBaseName_recordedF (callOn "foo(_:)")).mp rfl⟩

/-- **A call may be pure though its callee was not recorded**: its name only begins with the name of
a function that was. -/
theorem pure_of_other_name :
    ¬∀ (ds : List FunctionDecl) (call : CallExpr), (∀ d ∈ ds, IsBaseName d.baseName) →
      (empty.recordAll ds).isPure call = true →
      ∃ r, call.function.Names (.declReference r) ∧
        ∃ d ∈ ds, baseName r.identifier = d.baseName ∧ r.typeName = d.functionType := by
  intro hrecorded
  obtain ⟨r, hr, d, hd, hname, -⟩ :=
    hrecorded [recordedF] (callOn "foo(_:)") isBaseName_recordedF rfl
  obtain rfl := List.mem_singleton.mp hd
  obtain rfl : (⟨"foo(_:)", "(Int) -> Int"⟩ : DeclReference) = r :=
    Expr.declReference.inj (Expr.names_iff.mp hr)
  have hfoo : baseName "foo(_:)" = "foo" := by cbv
  exact absurd (hfoo.symm.trans hname) (by decide)

end PureFunctions

end PassContext
