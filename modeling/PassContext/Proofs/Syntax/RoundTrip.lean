/-
# Nodes written and read back

Every node is written as a value that fits its shape (`LawfulCodec.fits`), and taken back from
that value (`LawfulCodec.ofJson?_toJson`).  Reading a value that fits can only fail for its depth,
so a node that is written and read back is the same, unless its text nests too deep.
-/
import Mathlib.Data.List.Forall2
import PassContext.Proofs.Syntax.Fits
import PassContext.Syntax.Codec

namespace PassContext

/-- A codec that writes values of its shape and takes each of them back. -/
class LawfulCodec (α : Type) [Codec α] : Prop where
  fits : ∀ x : α, Fits (Codec.shape α) (Codec.toJson x)
  ofJson?_toJson : ∀ x : α, Codec.ofJson? (Codec.toJson x) = some x

/-! ## 1. Texts, lists and leaves -/

theorem fits_optionalText (s : Option String) : Fits .optionalText (optionalText s) := by
  cases s with
  | none => exact .noText
  | some s => exact .someText s

theorem ofOptionalText?_optionalText (s : Option String) :
    ofOptionalText? (optionalText s) = some s := by
  cases s <;> rfl

theorem fits_texts (ss : List String) : Fits (.list .text) (.array (ss.map .string)) := by
  refine .list .text _ fun j hj => ?_
  obtain ⟨s, -, rfl⟩ := List.mem_map.mp hj
  exact .text s

theorem ofTexts?_map (ss : List String) : ofTexts? (ss.map .string) = some ss := by
  induction ss with
  | nil => rfl
  | cons s ss ih => simp [ofTexts?, ih]

instance {α : Type} [Codec α] [LawfulCodec α] : LawfulCodec (List α) where
  fits xs := by
    refine .list _ _ fun j hj => ?_
    obtain ⟨x, -, rfl⟩ := List.mem_map.mp hj
    exact LawfulCodec.fits x
  ofJson?_toJson xs := by
    show (xs.map Codec.toJson).mapM Codec.ofJson? = some xs
    induction xs with
    | nil => rfl
    | cons x xs ih =>
      rw [List.map_cons, List.mapM_cons, LawfulCodec.ofJson?_toJson x, ih]
      rfl

instance : LawfulCodec Literal where
  fits l := by
    cases l with
    | int n =>
      have hmin := n.le_toInt
      have hmax := n.toInt_lt
      refine .literal .int .integer _ rfl (.integer _ ?_ ?_)
      · simp only [Json.maxNegative]
        omega
      · simp only [maxInt64]
        omega
    | bool b => exact .literal .bool .flag _ rfl (.flag b)
    | string s => exact .literal .string .text _ rfl (.text s)
    | nil => exact .nilLiteral .nil rfl
  ofJson?_toJson l := by
    cases l with
    | int n =>
      show some (Literal.int (.ofInt n.toInt)) = some (.int n)
      rw [Int64.ofInt_toInt]
    | bool | string | nil => rfl

/-! ## 2. Expressions -/

/-- An object fits if each of its members does. -/
theorem fits_object {r : Record} {js : List Json}
    (h : List.Forall₂ (fun f j => Fits f.shape j) r.fields js) :
    Fits (.record r) (r.object js) := by
  obtain ⟨hlength, hzip⟩ := List.forall₂_iff_zip.mp h
  exact .record r js hlength.symm fun p hp => hzip hp

instance : LawfulCodec DeclReference where
  fits _ := fits_object (.cons (.text _) (.cons (.text _) .nil))
  ofJson?_toJson _ := rfl

mutual

theorem Expr.fits_toJson : ∀ e : Expr, Fits .expr e.toJson
  | .declReference r => .expr .declReference _ (LawfulCodec.fits r)
  | .memberAccess l r =>
    .expr .memberAccess _ (fits_object (.cons l.fits_toJson (.cons r.fits_toJson .nil)))
  | .call c => .expr .call _ c.fits_toJson
  | .closure ps t => .expr .closure _ (fits_object (.cons (fits_texts ps) (.cons (.text t) .nil)))
  | .literal v => .expr .literal _ (LawfulCodec.fits v)
  | .literalCode code => .expr .literalCode _ (.text code)
  | .placeholder n t =>
    .expr .placeholder _ (fits_object (.cons (.text n) (.cons (.text t) .nil)))

theorem CallExpr.fits_toJson : ∀ c : CallExpr, Fits (.record .call) c.toJson
  | ⟨f, as, t⟩ =>
    fits_object (.cons f.fits_toJson (.cons (.list _ _ (LabeledExpr.fits_listToJson as))
      (.cons (.text t) .nil)))

theorem LabeledExpr.fits_toJson : ∀ a : LabeledExpr, Fits (.record .labeledExpr) a.toJson
  | ⟨label, e⟩ => fits_object (.cons (fits_optionalText label) (.cons e.fits_toJson .nil))

theorem LabeledExpr.fits_listToJson : ∀ (as : List LabeledExpr),
    ∀ j ∈ LabeledExpr.listToJson as, Fits (.record .labeledExpr) j
  | [], j, hj => absurd hj List.not_mem_nil
  | a :: as, j, hj => by
    rcases List.mem_cons.mp hj with rfl | hj
    · exact a.fits_toJson
    · exact LabeledExpr.fits_listToJson as j hj

end

mutual

theorem Expr.ofJson?_toJson : ∀ e : Expr, Expr.ofJson? e.toJson = some e
  | .declReference r => rfl
  | .memberAccess l r => by
    have hl := l.ofJson?_toJson
    have hr := r.ofJson?_toJson
    simp [Expr.toJson, Kind.object, Record.object, Record.fields, Expr.ofJson?, hl, hr]
  | .call c => by
    have hc := c.ofJson?_toJson
    show (CallExpr.ofJson? c.toJson).map Expr.call = some (.call c)
    rw [hc]
    rfl
  | .closure ps t => by
    simp [Expr.toJson, Kind.object, Record.object, Record.fields, Expr.ofJson?, ofTexts?_map]
  | .literal v => by
    have hv : Literal.ofJson? v.toJson = some v := LawfulCodec.ofJson?_toJson v
    show (Literal.ofJson? v.toJson).map Expr.literal = some (.literal v)
    rw [hv]
    rfl
  | .literalCode code => rfl
  | .placeholder n t => rfl

theorem CallExpr.ofJson?_toJson : ∀ c : CallExpr, CallExpr.ofJson? c.toJson = some c
  | ⟨f, as, t⟩ => by
    have hf := f.ofJson?_toJson
    have has := LabeledExpr.listOfJson?_listToJson as
    simp [CallExpr.toJson, Record.object, Record.fields, CallExpr.ofJson?, hf, has]

theorem LabeledExpr.ofJson?_toJson : ∀ a : LabeledExpr, LabeledExpr.ofJson? a.toJson = some a
  | ⟨label, e⟩ => by
    have he := e.ofJson?_toJson
    simp [LabeledExpr.toJson, Record.object, Record.fields, LabeledExpr.ofJson?, he,
      ofOptionalText?_optionalText]

theorem LabeledExpr.listOfJson?_listToJson : ∀ as : List LabeledExpr,
    LabeledExpr.listOfJson? (LabeledExpr.listToJson as) = some as
  | [] => rfl
  | a :: as => by
    have ha := a.ofJson?_toJson
    have has := LabeledExpr.listOfJson?_listToJson as
    simp [LabeledExpr.listToJson, LabeledExpr.listOfJson?, ha, has]

end

instance : LawfulCodec Expr := ⟨Expr.fits_toJson, Expr.ofJson?_toJson⟩
instance : LawfulCodec CallExpr := ⟨CallExpr.fits_toJson, CallExpr.ofJson?_toJson⟩
instance : LawfulCodec LabeledExpr := ⟨LabeledExpr.fits_toJson, LabeledExpr.ofJson?_toJson⟩

instance : LawfulCodec Template where
  fits t := fits_object (.cons t.pattern.fits_toJson (.cons t.replacement.fits_toJson .nil))
  ofJson?_toJson t := by
    show Template.ofJson? t.toJson = some t
    simp [Template.toJson, Record.object, Record.fields, Template.ofJson?, Expr.ofJson?_toJson]

/-! ## 3. Declarations -/

instance : LawfulCodec FunctionParameter where
  fits p := fits_object (.cons (fits_optionalText p.label) (.cons (.text _) .nil))
  ofJson?_toJson p := by
    show (ofOptionalText? (optionalText p.label)).map (FunctionParameter.mk · p.typeName) = some p
    rw [ofOptionalText?_optionalText]
    rfl

instance : LawfulCodec EnumElement where
  fits e := fits_object (.cons (.text _) (.cons (LawfulCodec.fits e.associatedValues) .nil))
  ofJson?_toJson e := by
    show (Codec.ofJson? (Codec.toJson e.associatedValues)).map (EnumElement.mk e.name ·) = some e
    rw [LawfulCodec.ofJson?_toJson]
    rfl

instance : LawfulCodec EnumDecl where
  fits d := fits_object (.cons (fits_optionalText d.access) (.cons (.text _)
    (.cons (fits_texts d.inherits) (.cons (LawfulCodec.fits d.elements) .nil))))
  ofJson?_toJson d := by
    show EnumDecl.ofJson? d.toJson = some d
    simp [EnumDecl.toJson, Record.object, Record.fields, EnumDecl.ofJson?,
      ofOptionalText?_optionalText, ofTexts?_map, LawfulCodec.ofJson?_toJson]

instance : LawfulCodec FunctionDecl where
  fits d := fits_object (.cons (.text _) (.cons (LawfulCodec.fits d.parameters) (.cons (.text _)
    (.cons (.text _) (.cons (.flag _) .nil)))))
  ofJson?_toJson d := by
    show (Codec.ofJson? (Codec.toJson d.parameters)).map
      (FunctionDecl.mk d.baseName · d.returnType d.functionType d.isStatic) = some d
    rw [LawfulCodec.ofJson?_toJson]
    rfl

/-! ## 4. Texts of nodes -/

section Decode

variable {α : Type} [Codec α] {text : String}

theorem decode_of_parse {j : Json} {x : α} (hj : (Codec.shape α).parse text = .ok j)
    (hx : Codec.ofJson? j = some x) : decode α text = .ok x := by
  simp only [decode, hj, bind, Except.bind, hx]
  rfl

theorem decode_of_parse_error {fault : Fault} (h : (Codec.shape α).parse text = .error fault) :
    decode α text = .error fault := by
  simp only [decode, h, bind, Except.bind]

/-- **A node is read back from its text**, or the text nests too deep. -/
theorem decode_encode [LawfulCodec α] (x : α) :
    decode α (encode x) =
      if Json.nesting (encode x) ≤ maxOpen then .ok x else .error .tooDeep := by
  have hparse := (LawfulCodec.fits x).parse_text
  split
  · rename_i hdepth
    exact decode_of_parse (hparse.trans (if_pos hdepth)) (LawfulCodec.ofJson?_toJson x)
  · rename_i hdepth
    exact decode_of_parse_error (hparse.trans (if_neg hdepth))

end Decode

/-- The nodes of a type are read back from their texts exactly as long as no more than 127 arrays
and objects are open at once. -/
def RoundTrips (α : Type) [Codec α] : Prop :=
  ∀ x : α, decode α (encode x) =
    if Json.nesting (encode x) ≤ 127 then .ok x else .error .tooDeep

/-- **All nodes are read back from their texts exactly up to the nesting limit**, and what is said
beyond it is that the limit was exceeded. -/
theorem roundTrips :
    (RoundTrips Expr ∧ RoundTrips CallExpr ∧ RoundTrips LabeledExpr ∧ RoundTrips DeclReference ∧
      RoundTrips Literal) ∧
    (RoundTrips EnumDecl ∧ RoundTrips EnumElement ∧ RoundTrips FunctionDecl ∧
      RoundTrips FunctionParameter) ∧
    (RoundTrips Template ∧ RoundTrips (List Template)) ∧
    Fault.tooDeep.message = "recursion limit exceeded" :=
  ⟨⟨decode_encode, decode_encode, decode_encode, decode_encode, decode_encode⟩,
    ⟨decode_encode, decode_encode, decode_encode, decode_encode⟩,
    ⟨decode_encode, decode_encode⟩, rfl⟩

end PassContext
