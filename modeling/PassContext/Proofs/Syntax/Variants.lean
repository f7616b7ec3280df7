/-
# Texts that are read alike

A node has many texts besides the one that is written for it.  The members of an object may stand in
any order, some may be left out, an array may stand for an object or an expression, and all of this
at every depth (`Variant`).  Each value so obtained has many spellings again.  All these texts are
read as the node, as long as the text that is written for it keeps to the nesting limit.

The induction is on how a variant is built, and is done for both routes at once.  Where the value of
an expression stands in front of its kind, the routes meet: the value is looked over, which a
variant passes if there is room (`Variant.passes`), and is then read on the held route, for which
the claim is known already.
-/
import PassContext.Proofs.Syntax.RoundTrip

namespace PassContext

open Json (Tree Items Members itemsTree membersTree itemsDepth membersDepth)

/-! ## 1. Variants -/

/-- The members that may be left out of an object, each with the value that it then has. -/
def Record.optional : Record → List (String × Json)
  | .labeledExpr | .functionParameter => [("label", .null)]
  | .enumDecl => [("access", .null), ("inherits", .array []), ("elements", .array [])]
  | .enumElement => [("associated_values", .array [])]
  | .functionDecl => [("parameters", .array []), ("is_static", .bool false)]
  | _ => []

/-- The second value stands for the first, which is as the library writes it. -/
inductive Variant : Shape → Json → Json → Prop
  | same {shape : Shape} {j : Json} (h : Fits shape j) : Variant shape j j
  | list {item : Shape} (ps : List (Json × Json)) (h : ∀ p ∈ ps, Variant item p.1 p.2) :
      Variant (.list item) (.array (ps.map (·.1))) (.array (ps.map (·.2)))
  /-- The members in any order; the missing ones may be left out. -/
  | object {r : Record} {js : List Json} {members : List (String × Json)}
      (hlength : js.length = r.fields.length) (hnodup : (members.map (·.1)).Nodup)
      (hknown : ∀ m ∈ members, m.1 ∈ r.fields.map (·.name))
      (h : ∀ m ∈ members, ∀ p ∈ r.fields.zip js, p.1.name = m.1 → Variant p.1.shape p.2 m.2)
      (habsent : ∀ p ∈ r.fields.zip js, p.1.name ∉ members.map (·.1) →
        (p.1.name, p.2) ∈ r.optional) :
      Variant (.record r) (r.object js) (.object members)
  /-- An array of all members in order, but not for the objects that belong to one kind of
  expression. -/
  | array {r : Record} (hr : r ∉ [.memberAccess, .closure, .placeholder])
      (ps : List (Json × Json)) (hlength : ps.length = r.fields.length)
      (h : ∀ q ∈ r.fields.zip ps, Variant q.1.shape q.2.1 q.2.2) :
      Variant (.record r) (r.object (ps.map (·.1))) (.array (ps.map (·.2)))
  | kindFirst {k : Kind} {j j' : Json} (h : Variant k.content j j') :
      Variant .expr (k.object j) (.object [("kind", .string k.name), ("value", j')])
  | valueFirst {k : Kind} {j j' : Json} (h : Variant k.content j j') :
      Variant .expr (k.object j) (.object [("value", j'), ("kind", .string k.name)])
  | pair {k : Kind} {j j' : Json} (h : Variant k.content j j') :
      Variant .expr (k.object j) (.array [.string k.name, j'])

theorem Record.allowsArray_of_not_mem {r : Record}
    (hr : r ∉ [.memberAccess, .closure, .placeholder]) : r.allowsArray = true := by
  cases r <;> first | rfl | exact absurd hr (by decide)

theorem Record.fills_of_optional (r : Record) : ∀ f ∈ r.fields, ∀ j,
    (f.name, j) ∈ r.optional → f.absent.Fills j := by
  cases r <;> simp [Record.fields, Record.optional, Absent.Fills]

section Zip

variable {α β : Type} {as : List α} {bs : List β}

theorem exists_left_of_zip (hlength : bs.length = as.length) {b : β} (hb : b ∈ bs) :
    ∃ a, (a, b) ∈ as.zip bs := by
  rw [← List.map_snd_zip (Nat.le_of_eq hlength)] at hb
  obtain ⟨⟨a, b⟩, hp, rfl⟩ := List.mem_map.mp hb
  exact ⟨a, hp⟩

theorem exists_right_of_zip (hlength : bs.length = as.length) {a : α} (ha : a ∈ as) :
    ∃ b, (a, b) ∈ as.zip bs := by
  rw [← List.map_fst_zip (Nat.le_of_eq hlength.symm)] at ha
  obtain ⟨⟨a, b⟩, hp, rfl⟩ := List.mem_map.mp ha
  exact ⟨b, hp⟩

end Zip

/-- The value that a member of a variant stands for. -/
theorem exists_mem_zip {r : Record} {js : List Json} (hlength : js.length = r.fields.length)
    {name : String} (h : name ∈ r.fields.map (·.name)) :
    ∃ p ∈ r.fields.zip js, p.1.name = name := by
  obtain ⟨f, hf, rfl⟩ := List.mem_map.mp h
  obtain ⟨j, hp⟩ := exists_right_of_zip hlength hf
  exact ⟨(f, j), hp, rfl⟩

/-! ## 2. Depth -/

theorem depth_lt_object {r : Record} {js : List Json} {p : Field × Json}
    (hp : p ∈ r.fields.zip js) : p.2.depth < (r.object js).depth := by
  have hmem : (p.1.name, p.2) ∈ (r.fields.map (·.name)).zip js := by
    rw [List.zip_map_left]
    exact List.mem_map_of_mem hp
  exact Nat.lt_succ_of_le (Json.membersDepth_le_iff.mp (Nat.le_refl _) _ hmem)

/-- **A variant nests no deeper than what it stands for.** -/
theorem Variant.depth_le {shape : Shape} {j j' : Json} (h : Variant shape j j') :
    j'.depth ≤ j.depth := by
  induction h with
  | same => exact Nat.le_refl _
  | list ps _ ih =>
    refine Nat.succ_le_succ (Json.itemsDepth_le_iff.mpr fun k hk => ?_)
    obtain ⟨p, hp, rfl⟩ := List.mem_map.mp hk
    have hle := Json.itemsDepth_le_iff.mp (Nat.le_refl (itemsDepth (ps.map (·.1))))
    exact Nat.le_trans (ih p hp) (hle _ (List.mem_map_of_mem hp))
  | object hlength _ hknown _ _ ih =>
    refine Nat.succ_le_succ (Json.membersDepth_le_iff.mpr fun m hm => ?_)
    obtain ⟨p, hp, hname⟩ := exists_mem_zip hlength (hknown m hm)
    exact Nat.le_trans (ih m hm p hp hname) (Nat.le_of_lt_succ (depth_lt_object hp))
  | @array r _ ps hlength _ ih =>
    refine Nat.succ_le_succ (Json.itemsDepth_le_iff.mpr fun k hk => ?_)
    obtain ⟨p, hp, rfl⟩ := List.mem_map.mp hk
    obtain ⟨f, hq⟩ := exists_left_of_zip hlength hp
    have hmem : (f, p.1) ∈ r.fields.zip (ps.map (·.1)) := by
      rw [List.zip_map_right]
      exact List.mem_map_of_mem hq
    exact Nat.le_trans (ih _ hq) (Nat.le_of_lt_succ (depth_lt_object hmem))
  | kindFirst _ ih | valueFirst _ ih | pair _ ih =>
    simp only [Kind.object, Json.depth, membersDepth, itemsDepth]
    omega

/-! ## 3. Values that are looked over -/

/-- A value is in order where it is looked over; only its depth can be too great. -/
def Passes (j : Json) : Prop :=
  ∀ route : Route, lookOver route j.toTree = route.within j.depth ()

theorem passes_array {js : List Json} (h : ∀ j ∈ js, Passes j) : Passes (.array js) := by
  have hitems : ∀ route : Route,
      lookOverItems route (itemsTree js) = route.within (itemsDepth js) () := by
    intro route
    induction js with
    | nil => exact (route.within_zero ()).symm
    | cons j js ih =>
      obtain ⟨hj, hjs⟩ := List.forall_mem_cons.mp h
      simp only [itemsTree, lookOverItems, itemsDepth]
      rw [hj route]
      exact Route.within_bind (ih hjs)
  intro route
  simp only [Json.toTree, lookOver, Json.depth]
  exact Route.enter_bind hitems

theorem passes_object {members : List (String × Json)} (h : ∀ m ∈ members, Passes m.2) :
    Passes (.object members) := by
  have hmembers : ∀ route : Route,
      lookOverMembers route (membersTree members) = route.within (membersDepth members) () := by
    intro route
    induction members with
    | nil => exact (route.within_zero ()).symm
    | cons m members ih =>
      obtain ⟨hm, hrest⟩ := List.forall_mem_cons.mp h
      simp only [membersTree, lookOverMembers, membersDepth]
      rw [hm route]
      exact Route.within_bind (ih hrest)
  intro route
  simp only [Json.toTree, lookOver, Json.depth]
  exact Route.enter_bind hmembers

theorem passes_string (s : String) : Passes (.string s) := fun route => (route.within_zero ()).symm

/-- What a route holds is looked over, or known to be in order. -/
theorem Passes.hold {j : Json} (h : Passes j) (route : Route) :
    hold route j.toTree = route.within j.depth () := by
  cases route with
  | direct room => exact h (.direct room)
  | held => rfl

theorem Fits.passes {shape : Shape} {j : Json} (h : Fits shape j) : Passes j := by
  induction h with
  | text | noText | someText | flag => exact fun route => (route.within_zero ()).symm
  | integer n hmin hmax =>
    intro route
    have hword : n ≤ Json.maxWord := by
      simp only [maxInt64, Json.maxWord] at hmax ⊢
      omega
    simp only [Json.toTree, Json.number?_intNumeral hmin hword, lookOver]
    exact (route.within_zero ()).symm
  | list item js _ ih => exact passes_array ih
  | record r js hlength _ ih =>
    refine passes_object fun m hm => ?_
    obtain ⟨f, hp⟩ := exists_left_of_zip hlength (List.of_mem_zip hm).2
    exact ih _ hp
  | expr k j _ ih => exact passes_object (by simp [ih, passes_string])
  | literal k shape j _ _ ih => exact passes_object (by simp [ih])
  | nilLiteral k => exact passes_string k.name

/-- **A variant is in order where it is looked over.** -/
theorem Variant.passes {shape : Shape} {j j' : Json} (h : Variant shape j j') : Passes j' := by
  induction h with
  | same h => exact h.passes
  | list ps _ ih =>
    refine passes_array fun k hk => ?_
    obtain ⟨p, hp, rfl⟩ := List.mem_map.mp hk
    exact ih p hp
  | object hlength _ hknown _ _ ih =>
    refine passes_object fun m hm => ?_
    obtain ⟨p, hp, hname⟩ := exists_mem_zip hlength (hknown m hm)
    exact ih m hm p hp hname
  | array _ ps hlength _ ih =>
    refine passes_array fun k hk => ?_
    obtain ⟨p, hp, rfl⟩ := List.mem_map.mp hk
    obtain ⟨f, hq⟩ := exists_left_of_zip hlength hp
    exact ih _ hq
  | kindFirst _ ih | valueFirst _ ih => exact passes_object (by simp [ih, passes_string])
  | pair _ ih => exact passes_array (by simp [ih, passes_string])

/-! ## 4. Reading variants -/

theorem readFields_itemsTree {route : Route} {r : Record} {n : Nat} {fs : List Field}
    {ps : List (Json × Json)}
    (h : List.Forall₂ (fun f p => ReadsAs f.shape p.1 p.2) fs ps) :
    readFields route r n fs (itemsTree (ps.map (·.2))) =
      route.within (itemsDepth (ps.map (·.2))) (ps.map (·.1)) := by
  induction h generalizing n with
  | nil => exact (route.within_zero []).symm
  | @cons f p fs ps hhead _ ih =>
    simp only [List.map_cons, itemsTree, readFields, itemsDepth]
    rw [hhead route, ih]
    exact Route.within_bind (Route.within_map (p.1 :: ·))

/-- An object is read from an array of its members. -/
theorem readsAs_array {r : Record} (hr : r.allowsArray = true) {ps : List (Json × Json)}
    (h : List.Forall₂ (fun f p => ReadsAs f.shape p.1 p.2) r.fields ps) :
    ReadsAs (.record r) (r.object (ps.map (·.1))) (.array (ps.map (·.2))) := by
  intro route
  simp only [Json.toTree, readNode, Json.depth, hr, if_true]
  refine Route.enter_bind fun route => ?_
  rw [readFields_itemsTree h]
  exact Route.within_map r.object

/-- An expression is read from a pair of its kind and its value. -/
theorem readsAs_pair {k : Kind} {j j' : Json} (h : ReadsAs k.content j j') :
    ReadsAs .expr (k.object j) (.array [.string k.name, j']) := by
  intro route
  have hdepth : (Json.array [.string k.name, j']).depth = j'.depth + 1 := by
    simp [Json.depth, itemsDepth]
  have hkind : ∀ route, readPairKind route (.string (some k.name)) = .ok k := by
    intro route
    cases route <;> simp [readPairKind]
  rw [hdepth]
  simp only [Json.toTree, itemsTree, readNode]
  refine Route.enter_bind fun route => ?_
  simp only [readPair, hkind]
  show (readNode route k.content j'.toTree >>= fun j => pure (k.object j)) = _
  rw [h route]
  exact Route.within_map k.object

/-- **A value in front of its kind is held, and then read as it is read elsewhere.** -/
theorem readsAs_valueFirst {k : Kind} {j j' : Json} (h : ReadsAs k.content j j')
    (hpasses : Passes j') :
    ReadsAs .expr (k.object j) (.object [("value", j'), ("kind", .string k.name)]) := by
  intro route
  have hdepth : (Json.object [("value", j'), ("kind", .string k.name)]).depth = j'.depth + 1 := by
    simp [Json.depth, membersDepth]
  have hkind : ∀ route, readKind route (.string (some k.name)) = .ok k :=
    fun route => readVariant_string route k.ofName?_name
  have hfind : ∀ route, findKind route (.member (some "kind") (.string (some k.name)) .closed) =
      .ok (k, .closed) := by
    intro route
    simp only [findKind, if_pos, hkind]
    rfl
  have hheld : readNode .held k.content j'.toTree = .ok j := h .held
  rw [hdepth]
  simp only [Json.toTree, membersTree, readNode]
  refine Route.enter_bind fun route => ?_
  simp only [readTagged, if_neg (by decide : ¬ ("value" = "kind")), if_pos, hfind]
  rw [hpasses.hold route]
  show (route.within j'.depth () >>= fun _ =>
    readNode .held k.content j'.toTree >>= fun j => pure (k.object j)) = _
  rw [hheld]
  exact Route.within_map fun _ => k.object j

/-- **A variant is read by both routes as what it stands for.** -/
theorem Variant.readsAs {shape : Shape} {j j' : Json} (h : Variant shape j j') :
    ReadsAs shape j j' := by
  induction h with
  | same h => exact h.reads
  | list ps _ ih =>
    refine readsAs_list (List.forall₂_map_left_iff.mpr (List.forall₂_map_right_iff.mpr ?_))
    exact List.forall₂_same.mpr ih
  | @object r js members hlength hnodup hknown _ habsent ih =>
    refine readsAs_record hlength (pending_start hlength hnodup hknown ih fun p hp hname => ?_)
    exact r.fills_of_optional p.1 (List.of_mem_zip hp).1 p.2 (habsent p hp hname)
  | array hr ps hlength _ ih =>
    refine readsAs_array (Record.allowsArray_of_not_mem hr) ?_
    exact List.forall₂_iff_zip.mpr ⟨hlength.symm, fun hq => ih _ hq⟩
  | kindFirst _ ih => exact readsAs_expr ih
  | valueFirst h ih => exact readsAs_valueFirst ih h.passes
  | pair _ ih => exact readsAs_pair ih

/-! ## 5. Texts of nodes -/

section Decode

variable {α : Type} [Codec α]

/-- A text that spells a variant of the value that is written for a node. -/
def Respells (x : α) (text : String) : Prop :=
  ∃ j, Variant (Codec.shape α) (Codec.toJson x) j ∧ Json.Spelled j.spelling text.toList

variable [LawfulCodec α]

/-- The text that is written for a node is one of these. -/
theorem respells_encode (x : α) : Respells x (encode x) :=
  ⟨Codec.toJson x, .same (LawfulCodec.fits x), Json.spelled_text _⟩

/-- **Every text of a node is read as the node**, if the one that is written does not nest too
deep. -/
theorem decode_of_respells {x : α} {text : String} (hdepth : Json.nesting (encode x) ≤ maxOpen)
    (h : Respells x text) : decode α text = .ok x := by
  obtain ⟨j, hvariant, hspelled⟩ := h
  rw [encode, Json.nesting_text] at hdepth
  have hroom : j.depth ≤ maxOpen := Nat.le_trans hvariant.depth_le hdepth
  have hread := hvariant.readsAs (.direct maxOpen)
  have hparse : (Codec.shape α).parse text = .ok (Codec.toJson x) := by
    simp only [Shape.parse, Json.readText_of_spelled hspelled, hread, Route.within, Route.allows,
      hroom, decide_true, if_true]
    rfl
  exact decode_of_parse hparse (LawfulCodec.ofJson?_toJson x)

end Decode

/-- How the text of a node is spelled does not matter. -/
structure SpelledFreely (α : Type) [Codec α] : Prop where
  /-- Every text of a node is read as the node, if the one that is written keeps to the limit. -/
  decode : ∀ (x : α) (text : String), Json.nesting (encode x) ≤ 127 → Respells x text →
    decode α text = .ok x
  /-- Where there is room, the direct route and the held one read the same, and that is the
  node. -/
  routes : ∀ (x : α) (j : Json) (room : Nat), Variant (Codec.shape α) (Codec.toJson x) j →
    j.depth ≤ room →
    readNode (.direct room) (Codec.shape α) j.toTree = .ok (Codec.toJson x) ∧
    readNode .held (Codec.shape α) j.toTree = .ok (Codec.toJson x)

theorem SpelledFreely.of_lawful {α : Type} [Codec α] [LawfulCodec α] : SpelledFreely α where
  decode _ _ := decode_of_respells
  routes x j room hvariant hroom := by
    have hread := hvariant.readsAs (.direct room)
    rw [Route.within, if_pos (by simpa [Route.allows] using hroom)] at hread
    exact ⟨hread, hvariant.readsAs .held⟩

/-- **Reading does not depend on how nodes are spelled**: not on the order of members, on members
that may be left out, on arrays in the place of objects, on white space or on escapes. -/
theorem spelledFreely :
    (SpelledFreely Expr ∧ SpelledFreely CallExpr ∧ SpelledFreely LabeledExpr ∧
      SpelledFreely DeclReference ∧ SpelledFreely Literal) ∧
    (SpelledFreely EnumDecl ∧ SpelledFreely EnumElement ∧ SpelledFreely FunctionDecl ∧
      SpelledFreely FunctionParameter) ∧
    (SpelledFreely Template ∧ SpelledFreely (List Template)) :=
  ⟨⟨.of_lawful, .of_lawful, .of_lawful, .of_lawful, .of_lawful⟩,
    ⟨.of_lawful, .of_lawful, .of_lawful, .of_lawful⟩, ⟨.of_lawful, .of_lawful⟩⟩

/-- An argument whose label is left out, with the value in front of the kind, an escape and white
space. -/
def respelledArgument : String :=
  "\x7b\"expr\": \x7b\"value\":\"\\u0062\",\"kind\":\"literal_code\"\x7d\x7d"

theorem respells_argument :
    Respells (⟨none, .literalCode "b"⟩ : LabeledExpr) respelledArgument := by
  have hvariant : Variant (.record .labeledExpr)
      (Record.labeledExpr.object [.null, Kind.literalCode.object (.string "b")])
      (.object [("expr", .object [("value", .string "b"), ("kind", .string "literal_code")])]) := by
    refine .object rfl (by decide) (by decide) ?_ ?_
    · simp only [Record.fields, List.zip_cons_cons, List.zip_nil_left, List.forall_mem_cons]
      refine ⟨⟨fun h => absurd h (by decide), fun _ => .valueFirst (.same (.text "b")), ?_⟩, ?_⟩
      · simp
      · simp
    · simp [Record.fields, Record.optional]
  refine ⟨_, hvariant, ?_⟩
  have htext : respelledArgument.toList =
      ['\x7b'] ++ (Json.stringChars "expr" ++ ([':'] ++ (' ' :: (['\x7b'] ++
        (Json.stringChars "value" ++ ([':'] ++ (['"', '\\', 'u', '0', '0', '6', '2', '"'] ++
          ([','] ++ (Json.stringChars "kind" ++ ([':'] ++
            (Json.stringChars "literal_code" ++ (['\x7d'] ++ (['\x7d'] ++ []))))))))))))) := by
    decide +kernel
  have hb : Json.Escaped "b".toList ['\\', 'u', '0', '0', '6', '2'] :=
    .unit ⟨⟨by decide, by decide⟩, ⟨by decide, by decide⟩, ⟨by decide, by decide⟩,
      ⟨by decide, by decide⟩⟩ .nil
  have hkind : Json.Spelled
      [.string (some "kind"), .colon, .string (some "literal_code"), .closeBrace, .closeBrace] _ :=
    .stringChars "kind" (.token .colon (.stringChars "literal_code"
      (.token .closeBrace (.token .closeBrace .nil))))
  rw [htext]
  exact .token .openBrace (.stringChars "expr" (.token .colon (.space (by decide)
    (.token .openBrace (.stringChars "value" (.token .colon (.token (.string hb)
      (.token .comma hkind))))))))

theorem spelledFreely_argument :
    Json.nesting (encode (⟨none, .literalCode "b"⟩ : LabeledExpr)) ≤ 127 ∧
    Respells (⟨none, .literalCode "b"⟩ : LabeledExpr) respelledArgument ∧
    decode LabeledExpr respelledArgument = .ok ⟨none, .literalCode "b"⟩ := by
  have hdepth : Json.nesting (encode (⟨none, .literalCode "b"⟩ : LabeledExpr)) ≤ 127 := by
    rw [encode, Json.nesting_text]
    decide
  exact ⟨hdepth, respells_argument,
    spelledFreely.1.2.2.1.decode _ _ hdepth respells_argument⟩

end PassContext
