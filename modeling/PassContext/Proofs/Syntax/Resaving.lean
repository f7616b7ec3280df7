/-
# Saving again what was read

A text that is accepted need not be one that the library wrote.  The node that it is read as is
written in one way, though, and that text is accepted too and gives the same node: it is the text
of a value that fits, and there is room for it.  So whatever is loaded once can be saved and loaded
again, and stays as it is from then on.

That what was read fits, and how deep it nests, was said for values.  What is left to say is that
every value that fits is the value of a node (`OntoCodec`), so that the text of the node is the
text of the value that was read.
-/
import PassContext.Proofs.Syntax.Accepted
import PassContext.Proofs.Syntax.RoundTrip
import PassContext.Proofs.Text.Utf8
import PassContext.Provider.Library

namespace PassContext

/-- A codec that writes every value of its shape. -/
class OntoCodec (α : Type) [Codec α] : Prop where
  onto : ∀ j, Fits (Codec.shape α) j → ∃ x : α, Codec.toJson x = j

/-! ## 1. Every value that fits is written -/

/-- A value is written for what stands behind a shape. -/
def Written : Shape → Json → Prop
  | .text, j => ∃ s : String, .string s = j
  | .optionalText, j => ∃ s, optionalText s = j
  | .flag, j => ∃ b : Bool, .bool b = j
  | .integer, j => ∃ n : Int64, .int n.toInt = j
  | .list item, j => ∃ js : List Json, .array js = j ∧ ∀ k ∈ js, Written item k
  | .expr, j => ∃ e : Expr, e.toJson = j
  | .literal, j => ∃ l : Literal, l.toJson = j
  | .record .declReference, j => ∃ r : DeclReference, r.toJson = j
  | .record .memberAccess, j =>
    ∃ l r : Expr, Record.memberAccess.object [l.toJson, r.toJson] = j
  | .record .call, j => ∃ c : CallExpr, c.toJson = j
  | .record .closure, j =>
    ∃ (ps : List String) (t : String),
      Record.closure.object [.array (ps.map .string), .string t] = j
  | .record .placeholder, j =>
    ∃ n t : String, Record.placeholder.object [.string n, .string t] = j
  | .record .labeledExpr, j => ∃ a : LabeledExpr, a.toJson = j
  | .record .enumDecl, j => ∃ d : EnumDecl, d.toJson = j
  | .record .enumElement, j => ∃ e : EnumElement, e.toJson = j
  | .record .functionParameter, j => ∃ p : FunctionParameter, p.toJson = j
  | .record .functionDecl, j => ∃ d : FunctionDecl, d.toJson = j
  | .record .template, j => ∃ t : Template, t.toJson = j

theorem exists_map_eq {α β : Type} {f : α → β} {bs : List β} (h : ∀ b ∈ bs, ∃ a, f a = b) :
    ∃ as : List α, as.map f = bs := by
  induction bs with
  | nil => exact ⟨[], rfl⟩
  | cons b bs ih =>
    obtain ⟨⟨a, rfl⟩, hbs⟩ := List.forall_mem_cons.mp h
    obtain ⟨as, rfl⟩ := ih hbs
    exact ⟨a :: as, rfl⟩

theorem LabeledExpr.listToJson_eq_map (as : List LabeledExpr) :
    LabeledExpr.listToJson as = as.map LabeledExpr.toJson := by
  induction as with
  | nil => rfl
  | cons a as ih => rw [LabeledExpr.listToJson, ih, List.map_cons]

theorem written_integer {n : Int} (hmin : -(Json.maxNegative : Int) ≤ n) (hmax : n ≤ maxInt64) :
    Written .integer (.int n) := by
  simp only [Json.maxNegative, maxInt64] at hmin hmax
  exact ⟨.ofInt n, by rw [Int64.toInt_ofInt_of_le (by omega) (by omega)]⟩

theorem written_literal {k : LiteralKind} {shape : Shape} {j : Json} (hk : k.content? = some shape)
    (h : Written shape j) : Written .literal (k.json (some j)) := by
  cases k with
  | int =>
    obtain rfl := Option.some.inj hk
    obtain ⟨n, rfl⟩ := h
    exact ⟨.int n, rfl⟩
  | bool =>
    obtain rfl := Option.some.inj hk
    obtain ⟨b, rfl⟩ := h
    exact ⟨.bool b, rfl⟩
  | string =>
    obtain rfl := Option.some.inj hk
    obtain ⟨s, rfl⟩ := h
    exact ⟨.string s, rfl⟩
  | nil => exact absurd hk (by simp [LiteralKind.content?])

theorem written_nilLiteral {k : LiteralKind} (hk : k.content? = none) :
    Written .literal (k.json none) := by
  cases k with
  | nil => exact ⟨.nil, rfl⟩
  | int | bool | string => exact absurd hk (by simp [LiteralKind.content?])

theorem written_expr {k : Kind} {j : Json} (h : Written k.content j) :
    Written .expr (k.object j) := by
  cases k with
  | declReference =>
    obtain ⟨r, rfl⟩ := h
    exact ⟨.declReference r, rfl⟩
  | memberAccess =>
    obtain ⟨l, r, rfl⟩ := h
    exact ⟨.memberAccess l r, rfl⟩
  | call =>
    obtain ⟨c, rfl⟩ := h
    exact ⟨.call c, rfl⟩
  | closure =>
    obtain ⟨ps, t, rfl⟩ := h
    exact ⟨.closure ps t, rfl⟩
  | literal =>
    obtain ⟨l, rfl⟩ := h
    exact ⟨.literal l, rfl⟩
  | literalCode =>
    obtain ⟨code, rfl⟩ := h
    exact ⟨.literalCode code, rfl⟩
  | placeholder =>
    obtain ⟨n, t, rfl⟩ := h
    exact ⟨.placeholder n t, rfl⟩

/-- An object is written if its members are: each record builds a node from them. -/
theorem written_record {r : Record} {js : List Json}
    (h : List.Forall₂ (fun f j => Written f.shape j) r.fields js) :
    Written (.record r) (r.object js) := by
  cases r with
  | declReference =>
    obtain _ | ⟨⟨identifier, rfl⟩, _ | ⟨⟨typeName, rfl⟩, _ | _⟩⟩ := h
    exact ⟨⟨identifier, typeName⟩, rfl⟩
  | memberAccess =>
    obtain _ | ⟨⟨left, rfl⟩, _ | ⟨⟨right, rfl⟩, _ | _⟩⟩ := h
    exact ⟨left, right, rfl⟩
  | call =>
    obtain _ | ⟨⟨function, rfl⟩, _ | ⟨⟨_, rfl, has⟩, _ | ⟨⟨typeName, rfl⟩, _ | _⟩⟩⟩ := h
    obtain ⟨arguments, rfl⟩ := exists_map_eq has
    exact ⟨⟨function, arguments, typeName⟩, by
      rw [CallExpr.toJson, LabeledExpr.listToJson_eq_map]⟩
  | closure =>
    obtain _ | ⟨⟨_, rfl, hps⟩, _ | ⟨⟨typeName, rfl⟩, _ | _⟩⟩ := h
    obtain ⟨parameters, rfl⟩ := exists_map_eq hps
    exact ⟨parameters, typeName, rfl⟩
  | placeholder =>
    obtain _ | ⟨⟨name, rfl⟩, _ | ⟨⟨typeName, rfl⟩, _ | _⟩⟩ := h
    exact ⟨name, typeName, rfl⟩
  | labeledExpr =>
    obtain _ | ⟨⟨label, rfl⟩, _ | ⟨⟨e, rfl⟩, _ | _⟩⟩ := h
    exact ⟨⟨label, e⟩, by rw [LabeledExpr.toJson]⟩
  | enumDecl =>
    obtain _ | ⟨⟨access, rfl⟩, _ | ⟨⟨name, rfl⟩, _ | ⟨⟨_, rfl, hinherits⟩,
      _ | ⟨⟨_, rfl, helements⟩, _ | _⟩⟩⟩⟩ := h
    obtain ⟨inherits, rfl⟩ := exists_map_eq hinherits
    obtain ⟨elements, rfl⟩ := exists_map_eq helements
    exact ⟨⟨access, name, inherits, elements⟩, rfl⟩
  | enumElement =>
    obtain _ | ⟨⟨name, rfl⟩, _ | ⟨⟨_, rfl, hvalues⟩, _ | _⟩⟩ := h
    obtain ⟨values, rfl⟩ := exists_map_eq hvalues
    exact ⟨⟨name, values⟩, rfl⟩
  | functionParameter =>
    obtain _ | ⟨⟨label, rfl⟩, _ | ⟨⟨typeName, rfl⟩, _ | _⟩⟩ := h
    exact ⟨⟨label, typeName⟩, rfl⟩
  | functionDecl =>
    obtain _ | ⟨⟨baseName, rfl⟩, _ | ⟨⟨_, rfl, hparameters⟩, _ | ⟨⟨returnType, rfl⟩,
      _ | ⟨⟨functionType, rfl⟩, _ | ⟨⟨isStatic, rfl⟩, _ | _⟩⟩⟩⟩⟩ := h
    obtain ⟨parameters, rfl⟩ := exists_map_eq hparameters
    exact ⟨⟨baseName, parameters, returnType, functionType, isStatic⟩, rfl⟩
  | template =>
    obtain _ | ⟨⟨pattern, rfl⟩, _ | ⟨⟨replacement, rfl⟩, _ | _⟩⟩ := h
    exact ⟨⟨pattern, replacement⟩, rfl⟩

/-- **Every value that fits is written for a node.** -/
theorem Fits.written {shape : Shape} {j : Json} (h : Fits shape j) : Written shape j := by
  induction h with
  | text s => exact ⟨s, rfl⟩
  | noText => exact ⟨none, rfl⟩
  | someText s => exact ⟨some s, rfl⟩
  | flag b => exact ⟨b, rfl⟩
  | integer n hmin hmax => exact written_integer hmin hmax
  | list item js _ ih => exact ⟨js, rfl, ih⟩
  | record r js hlength _ ih =>
    exact written_record (List.forall₂_iff_zip.mpr ⟨hlength.symm, ih _⟩)
  | expr k j _ ih => exact written_expr ih
  | literal k shape j hk _ ih => exact written_literal hk ih
  | nilLiteral k hk => exact written_nilLiteral hk

instance : OntoCodec Expr := ⟨fun _ h => h.written⟩
instance : OntoCodec CallExpr := ⟨fun _ h => h.written⟩
instance : OntoCodec LabeledExpr := ⟨fun _ h => h.written⟩
instance : OntoCodec DeclReference := ⟨fun _ h => h.written⟩
instance : OntoCodec Literal := ⟨fun _ h => h.written⟩
instance : OntoCodec EnumDecl := ⟨fun _ h => h.written⟩
instance : OntoCodec EnumElement := ⟨fun _ h => h.written⟩
instance : OntoCodec FunctionDecl := ⟨fun _ h => h.written⟩
instance : OntoCodec FunctionParameter := ⟨fun _ h => h.written⟩
instance : OntoCodec Template := ⟨fun _ h => h.written⟩

instance {α : Type} [Codec α] [OntoCodec α] : OntoCodec (List α) where
  onto j h := by
    cases h with
    | list _ js h =>
      obtain ⟨xs, rfl⟩ := exists_map_eq fun j hj => OntoCodec.onto (α := α) j (h j hj)
      exact ⟨xs, rfl⟩

/-! ## 2. What was read is written as it was understood -/

section Decode

variable {α : Type} [Codec α]

theorem decode_eq_ok_iff {text : String} {x : α} : decode α text = .ok x ↔
    ∃ j, (Codec.shape α).parse text = .ok j ∧ Codec.ofJson? j = some x := by
  constructor
  · intro h
    obtain ⟨j, hj, h⟩ := bind_eq_ok.mp h
    cases hx : (Codec.ofJson? j : Option α) with
    | none => exact absurd h (by simp [hx])
    | some y =>
      simp only [hx] at h
      obtain rfl := Except.ok.inj h
      exact ⟨j, hj, hx⟩
  · rintro ⟨j, hj, hx⟩
    exact decode_of_parse hj hx

variable [LawfulCodec α] [OntoCodec α]

/-- A text is read as the value that is written for its node. -/
theorem parse_of_decode {text : String} {x : α} (h : decode α text = .ok x) :
    (Codec.shape α).parse text = .ok (Codec.toJson x) := by
  obtain ⟨j, hj, hx⟩ := decode_eq_ok_iff.mp h
  obtain ⟨y, rfl⟩ := OntoCodec.onto (α := α) j (parse_accepted hj).1
  rw [LawfulCodec.ofJson?_toJson] at hx
  obtain rfl := Option.some.inj hx
  exact hj

/-- The text of a node that was read does not nest too deep. -/
theorem nesting_of_decode {text : String} {x : α} (hslack : (Codec.shape α).slack ≤ maxOpen)
    (h : decode α text = .ok x) : Json.nesting (encode x) ≤ maxOpen := by
  have hdepth := (parse_accepted (parse_of_decode h)).2
  rw [Nat.max_eq_left hslack] at hdepth
  rwa [encode, Json.nesting_text]

/-- **The text of a node that was read is accepted and gives the node.** -/
theorem decode_encode_of_decode {text : String} {x : α} (hslack : (Codec.shape α).slack ≤ maxOpen)
    (h : decode α text = .ok x) : decode α (encode x) = .ok x := by
  rw [decode_encode, if_pos (nesting_of_decode hslack h)]

end Decode

/-! ## 3. Saving what was accepted -/

/-- What is read of a text can be saved and read again. -/
structure Resaves (α : Type) [Codec α] : Prop where
  /-- The compact text of what was read is accepted and gives the same. -/
  again : ∀ (text : String) (x : α), decode α text = .ok x → decode α (encode x) = .ok x
  /-- What is read from the compact text is written as that text. -/
  sameText : ∀ (text : String) (x y : α), decode α text = .ok x →
    decode α (encode x) = .ok y → encode y = encode x
  /-- Reading, writing and reading is the same as reading, also where reading fails. -/
  settles : ∀ text : String,
    (decode α text >>= fun x => decode α (encode x)) = decode α text

theorem Resaves.of_slack {α : Type} [Codec α] [LawfulCodec α] [OntoCodec α]
    (hslack : (Codec.shape α).slack ≤ maxOpen) : Resaves α where
  again _ _ h := decode_encode_of_decode hslack h
  sameText text x y h hy := by
    have hx := decode_encode_of_decode hslack h
    rw [Except.ok.inj (hy.symm.trans hx)]
  settles text := by
    cases h : decode α text with
    | error fault => rfl
    | ok x => exact decode_encode_of_decode hslack h

/-- A library that loads is a text that is read. -/
theorem LibraryFile.decode_of_load {file : LibraryFile} {ts : List Template}
    (h : file.load = .ok ts) : ∃ text, decode (List Template) text = .ok ts := by
  cases file with
  | missing | directory => exact absurd h (by simp [load])
  | content bytes =>
    simp only [load] at h
    split at h
    · exact absurd h (by simp)
    · rename_i text _
      cases hdecode : decode (List Template) text with
      | error fault => exact absurd h (by simp [hdecode, Except.mapError])
      | ok us =>
        simp only [hdecode, Except.mapError] at h
        exact ⟨text, hdecode.trans (congrArg _ (Except.ok.inj h))⟩

/-- A text that is read is a library that loads, when it is saved as UTF-8. -/
theorem LibraryFile.load_utf8Bytes {text : String} {ts : List Template}
    (h : decode (List Template) text = .ok ts) :
    (content (Text.utf8Bytes text)).load = .ok ts := by
  simp only [load, Text.utf8?_utf8Bytes, h, Except.mapError]

/-- **Whatever was accepted can be saved and accepted again, as the same**: nodes of every type,
and a library. -/
theorem resaves :
    (Resaves Expr ∧ Resaves CallExpr ∧ Resaves LabeledExpr ∧ Resaves DeclReference ∧
      Resaves Literal) ∧
    (Resaves EnumDecl ∧ Resaves EnumElement ∧ Resaves FunctionDecl ∧
      Resaves FunctionParameter) ∧
    (Resaves Template ∧ Resaves (List Template)) ∧
    ∀ (file : LibraryFile) (ts : List Template), file.load = .ok ts →
      (LibraryFile.content (Text.utf8Bytes (encode ts))).load = .ok ts := by
  refine ⟨⟨.of_slack ?_, .of_slack ?_, .of_slack ?_, .of_slack ?_, .of_slack ?_⟩,
    ⟨.of_slack ?_, .of_slack ?_, .of_slack ?_, .of_slack ?_⟩, ⟨.of_slack ?_, .of_slack ?_⟩,
    fun file ts hload => ?library⟩
  case library =>
    obtain ⟨text, hdecode⟩ := LibraryFile.decode_of_load hload
    exact LibraryFile.load_utf8Bytes (decode_encode_of_decode (by decide) hdecode)
  all_goals decide

/-- A library that is not as it would be saved: a template as an array, a value in front of its
kind, an unknown member, an escape and white space. -/
def looseLibrary : String :=
  "[[\x7b\"value\":\"a\",\"kind\":\"literal_code\"\x7d,\n  " ++
    "\x7b\"note\":1,\"kind\":\"literal_code\",\"value\":\"\\u0062\"\x7d]]"

theorem tokens_looseLibrary : Json.tokens looseLibrary.toList =
    [.openBracket, .openBracket, .openBrace, .string (some "value"), .colon, .string (some "a"),
     .comma, .string (some "kind"), .colon, .string (some "literal_code"), .closeBrace, .comma,
     .openBrace, .string (some "note"), .colon, .number (some (.integer 1)), .comma,
     .string (some "kind"), .colon, .string (some "literal_code"), .comma,
     .string (some "value"), .colon, .string (some "b"), .closeBrace, .closeBracket,
     .closeBracket] := by
  decide +kernel

theorem decode_looseLibrary :
    decode (List Template) looseLibrary = .ok [⟨.literalCode "a", .literalCode "b"⟩] := by
  simp only [decode, Shape.parse, Json.readText, tokens_looseLibrary]
  rfl

theorem resaves_looseLibrary :
    (LibraryFile.content (Text.utf8Bytes looseLibrary)).load =
      .ok [⟨.literalCode "a", .literalCode "b"⟩] ∧
    (LibraryFile.content (Text.utf8Bytes
      (encode [(⟨.literalCode "a", .literalCode "b"⟩ : Template)]))).load =
      .ok [⟨.literalCode "a", .literalCode "b"⟩] := by
  have hload := LibraryFile.load_utf8Bytes decode_looseLibrary
  exact ⟨hload, resaves.2.2.2 _ _ hload⟩

end PassContext
