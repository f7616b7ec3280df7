/-
# Values that fit a shape

A value fits a shape if it is as the library writes it: the members of an object are there, each
once and in their order, and an expression has its kind in front of its value.  Such a value can be
refused for one reason only, that its arrays and objects nest too deep for the route by which it is
read; otherwise it is read as itself.  The steps are shown for a value that is read as another one
(`ReadsAs`), since members may also stand in another order or be left out (`Pending`).

`Route.within` is the one outcome that reading such a value has.  Parts that are read one after the
other join their outcomes by the maximum of their depths, and an array or object adds one.
-/
import Mathlib.Data.List.Forall2
import Mathlib.Data.List.Nodup
import PassContext.Proofs.Json.Reading
import PassContext.Syntax.Read

namespace PassContext

open Json (Tree Items Members itemsTree membersTree itemsDepth membersDepth)

/-! ## 1. Room on a route -/

namespace Route

/-- Whether so many arrays and objects may be opened inside of each other. -/
def allows : Route → Nat → Bool
  | .direct room, n => n ≤ room
  | .held, _ => true

/-- What is read of a value that nests so deep. -/
def within {α : Type} (route : Route) (depth : Nat) (x : α) : Except Fault α :=
  if route.allows depth then .ok x else .error .tooDeep

variable {α β : Type}

theorem within_zero (route : Route) (x : α) : route.within 0 x = .ok x := by
  cases route <;> rfl

/-- The parts of a value are read one after the other. -/
theorem within_bind {route : Route} {a b : Nat} {x : α} {y : β} {f : α → Except Fault β}
    (h : f x = route.within b y) : (route.within a x >>= f) = route.within (max a b) y := by
  cases route with
  | held => exact h
  | direct room =>
    by_cases ha : a ≤ room
    · have hx : (Route.direct room).within a x = .ok x := by simp [within, allows, ha]
      have hmax : max a b ≤ room ↔ b ≤ room := by omega
      rw [hx]
      refine h.trans ?_
      simp [within, allows, hmax]
    · have hx : (Route.direct room).within a x = .error .tooDeep := by simp [within, allows, ha]
      have hmax : ¬ max a b ≤ room := by omega
      rw [hx]
      simp only [within, allows, hmax, decide_false]
      rfl

/-- What is done with a value does not change its depth. -/
theorem within_map {route : Route} {a : Nat} {x : α} (f : α → β) :
    (route.within a x >>= fun x => pure (f x)) = route.within a (f x) := by
  have h : (route.within a x >>= fun x => pure (f x)) = route.within (max a 0) (f x) :=
    within_bind (route.within_zero (f x)).symm
  rwa [Nat.max_zero] at h

/-- Inside of an array or object there is room for one less. -/
theorem enter_bind {route : Route} {depth : Nat} {y : β} {f : Route → Except Fault β}
    (h : ∀ route, f route = route.within depth y) :
    (route.enter >>= f) = route.within (depth + 1) y := by
  cases route with
  | held => exact h .held
  | direct room =>
    cases room with
    | zero => rfl
    | succ room =>
      refine (h (.direct room)).trans ?_
      simp [within, allows]

end Route

/-! ## 2. Values that fit -/

/-- A value is as the library writes a node of a shape. -/
inductive Fits : Shape → Json → Prop
  | text (s : String) : Fits .text (.string s)
  | noText : Fits .optionalText .null
  | someText (s : String) : Fits .optionalText (.string s)
  | flag (b : Bool) : Fits .flag (.bool b)
  | integer (n : Int) (hmin : -(Json.maxNegative : Int) ≤ n) (hmax : n ≤ maxInt64) :
      Fits .integer (.int n)
  | list (item : Shape) (js : List Json) (h : ∀ j ∈ js, Fits item j) : Fits (.list item) (.array js)
  | record (r : Record) (js : List Json) (hlength : js.length = r.fields.length)
      (h : ∀ p ∈ r.fields.zip js, Fits p.1.shape p.2) : Fits (.record r) (r.object js)
  | expr (k : Kind) (j : Json) (h : Fits k.content j) : Fits .expr (k.object j)
  | literal (k : LiteralKind) (shape : Shape) (j : Json) (hk : k.content? = some shape)
      (h : Fits shape j) : Fits .literal (k.json (some j))
  | nilLiteral (k : LiteralKind) (hk : k.content? = none) : Fits .literal (k.json none)

/-- A value is read by every route as another one of a shape, if it does not nest too deep. -/
def ReadsAs (shape : Shape) (j j' : Json) : Prop :=
  ∀ route : Route, readNode route shape j'.toTree = route.within j'.depth j

/-- A value of a shape is read by every route as itself, if it does not nest too deep. -/
def Reads (shape : Shape) (j : Json) : Prop :=
  ∀ route : Route, readNode route shape j.toTree = route.within j.depth j

/-! ## 3. Lists and leaves -/

theorem readItems_itemsTree {item : Shape} {js js' : List Json}
    (h : List.Forall₂ (ReadsAs item) js js') (route : Route) :
    readItems route item (itemsTree js') = route.within (itemsDepth js') js := by
  induction h with
  | nil => exact (route.within_zero []).symm
  | @cons j j' js js' hhead _ ih =>
    simp only [itemsTree, readItems, itemsDepth]
    rw [hhead route, ih]
    exact Route.within_bind (Route.within_map (j :: ·))

theorem readsAs_list {item : Shape} {js js' : List Json}
    (h : List.Forall₂ (ReadsAs item) js js') : ReadsAs (.list item) (.array js) (.array js') := by
  intro route
  simp only [Json.toTree, readNode, Json.depth]
  refine Route.enter_bind fun route => ?_
  rw [readItems_itemsTree h]
  exact Route.within_map Json.array

/-- What a literal carries is a leaf. -/
theorem readLeaf_toTree {k : LiteralKind} {shape : Shape} {j : Json} (hk : k.content? = some shape)
    (h : Fits shape j) : readLeaf shape j.toTree = .ok j ∧ j.depth = 0 := by
  cases h with
  | text | flag => exact ⟨rfl, rfl⟩
  | integer n hmin hmax =>
    have hword : n ≤ Json.maxWord := by
      simp only [maxInt64, Json.maxWord] at hmax ⊢
      omega
    have hnumber := Json.number?_intNumeral hmin hword
    refine ⟨?_, rfl⟩
    simp only [Json.toTree, hnumber, readLeaf, if_pos hmax]
  | noText | someText | list | record | expr | literal | nilLiteral =>
    cases k <;> simp [LiteralKind.content?] at hk

/-! ## 4. Objects -/

/-- A value is filled in for a member that was left out. -/
def Absent.Fills (a : Absent) (j : Json) : Prop :=
  a = .nullByName ∧ j = .null ∨ a = .fallback j

/-- The members of an object have different names. -/
theorem Record.nodup_names (r : Record) : (r.fields.map (·.name)).Nodup := by
  cases r <;> decide

/-- A name belongs to one place. -/
theorem Record.place_unique {r : Record} {i k : Nat} {f g : Field} (hf : r.fields[i]? = some f)
    (hg : r.fields[k]? = some g) (hname : f.name = g.name) : i = k := by
  obtain ⟨hi, -⟩ := List.getElem?_eq_some_iff.mp hf
  have hi' : i < (r.fields.map (·.name)).length := by simpa using hi
  exact (List.getElem?_inj hi' r.nodup_names).mp (by simp [hf, hg, hname])

/-- A member is found by its name. -/
theorem Record.findIdx?_name {r : Record} {i : Nat} {f : Field} (hf : r.fields[i]? = some f) :
    r.fields.findIdx? (·.name == f.name) = some i := by
  cases h : r.fields.findIdx? (·.name == f.name) with
  | none =>
    have hne := List.findIdx?_eq_none_iff.mp h f (List.mem_of_getElem? hf)
    simp at hne
  | some k =>
    obtain ⟨hk, hname, -⟩ := List.findIdx?_eq_some_iff_getElem.mp h
    have hfound : r.fields[k]? = some r.fields[k] := List.getElem?_eq_getElem hk
    rw [Record.place_unique hfound hf (by simpa using hname)]

/-- What is known of an object that is read as the values `js`, with its members up to `members`
read into their places. -/
structure Pending (r : Record) (js : List Json) (slots : List (Option Json))
    (members : List (String × Json)) : Prop where
  nodup : (members.map (·.1)).Nodup
  /-- A member that comes next has a place, which is free, and is read as the value there. -/
  free : ∀ m ∈ members, ∃ (i : Nat) (f : Field) (j : Json), r.fields[i]? = some f ∧ f.name = m.1 ∧
    js[i]? = some j ∧ slots[i]? = some none ∧ ReadsAs f.shape j m.2
  /-- A place has its value, or the value comes next, or it is filled in. -/
  place : ∀ (i : Nat) (f : Field) (j : Json), r.fields[i]? = some f → js[i]? = some j →
    slots[i]? = some (some j) ∨
      slots[i]? = some none ∧ (f.name ∈ members.map (·.1) ∨ f.absent.Fills j)

/-- Where all members have been read, what is missing is filled in. -/
theorem finishMembers_eq_ok {fs : List Field} {slots : List (Option Json)} {js : List Json}
    (hjs : js.length = fs.length)
    (h : ∀ (i : Nat) (f : Field) (j : Json), fs[i]? = some f → js[i]? = some j →
      slots[i]? = some (some j) ∨ slots[i]? = some none ∧ f.absent.Fills j) :
    finishMembers fs slots = .ok js := by
  induction fs generalizing slots js with
  | nil =>
    obtain rfl := List.length_eq_zero_iff.mp hjs
    rfl
  | cons f fs ih =>
    cases js with
    | nil => exact absurd hjs (by simp)
    | cons j js =>
      cases slots with
      | nil => rcases h 0 f j rfl rfl with hslot | ⟨hslot, -⟩ <;> exact absurd hslot (by simp)
      | cons slot slots =>
        have htail : finishMembers fs slots = .ok js :=
          ih (by simpa using hjs) fun i => h (i + 1)
        have hhead : slot = some j ∨ slot = none ∧ f.absent.Fills j := by
          simpa using h 0 f j rfl rfl
        rcases hhead with rfl | ⟨rfl, ⟨habsent, rfl⟩ | habsent⟩
        · simp only [finishMembers, htail]
          rfl
        · simp only [finishMembers, habsent, htail]
          rfl
        · simp only [finishMembers, habsent, htail]
          rfl

/-- A member is read into its place. -/
theorem Pending.set {r : Record} {js : List Json} {slots : List (Option Json)}
    {key : String} {j' : Json} {members : List (String × Json)} {i : Nat} {f : Field} {j : Json}
    (h : Pending r js slots ((key, j') :: members)) (hf : r.fields[i]? = some f)
    (hname : f.name = key) (hj : js[i]? = some j) (hfree : slots[i]? = some none) :
    Pending r js (slots.set i (some j)) members where
  nodup := (List.nodup_cons.mp h.nodup).2
  free m hm := by
    obtain ⟨k, g, j₂, hg, hgname, hj₂, hslot, hread⟩ := h.free m (List.mem_cons_of_mem _ hm)
    have hne : i ≠ k := by
      rintro rfl
      obtain rfl := Option.some.inj (hf.symm.trans hg)
      have hmem : key ∈ members.map (·.1) := by
        rw [← hname, hgname]
        exact List.mem_map_of_mem hm
      exact (List.nodup_cons.mp h.nodup).1 hmem
    exact ⟨k, g, j₂, hg, hgname, hj₂, by rw [List.getElem?_set_ne hne, hslot], hread⟩
  place k g j₂ hg hj₂ := by
    by_cases hik : i = k
    · subst hik
      obtain ⟨hi, -⟩ := List.getElem?_eq_some_iff.mp hfree
      obtain rfl := Option.some.inj (hj.symm.trans hj₂)
      exact .inl (List.getElem?_set_self hi)
    · rw [List.getElem?_set_ne hik]
      refine (h.place k g j₂ hg hj₂).imp_right fun ⟨hslot, hrest⟩ => ⟨hslot, ?_⟩
      refine hrest.imp_left fun hmem => ?_
      rcases List.mem_cons.mp hmem with hkey | hmem
      · exact absurd (Record.place_unique hf hg (hname.trans hkey.symm)) hik
      · exact hmem

/-- **The members of an object are read in any order.** -/
theorem readMembers_membersTree {r : Record} {js : List Json}
    (hjs : js.length = r.fields.length) {members : List (String × Json)}
    {slots : List (Option Json)} (h : Pending r js slots members) (route : Route) :
    readMembers route r slots (membersTree members) = route.within (membersDepth members) js := by
  induction members generalizing slots with
  | nil =>
    have hfinish : finishMembers r.fields slots = .ok js :=
      finishMembers_eq_ok hjs fun i f j hf hj => by simpa using h.place i f j hf hj
    simp only [membersTree, readMembers, membersDepth, hfinish, Route.within_zero]
  | cons m members ih =>
    obtain ⟨i, f, j, hf, hname, hj, hfree, hread⟩ := h.free m List.mem_cons_self
    have htail := ih (h.set hf hname hj hfree)
    obtain ⟨key, j'⟩ := m
    obtain rfl : f.name = key := hname
    simp only [membersTree, readMembers, membersDepth, Record.findIdx?_name hf, hfree, hf]
    rw [hread route]
    exact Route.within_bind htail

section Object

variable {r : Record} {js : List Json} {members : List (String × Json)}

/-- At first all places are free. -/
theorem pending_start (hjs : js.length = r.fields.length) (hnodup : (members.map (·.1)).Nodup)
    (hknown : ∀ m ∈ members, m.1 ∈ r.fields.map (·.name))
    (h : ∀ m ∈ members, ∀ p ∈ r.fields.zip js, p.1.name = m.1 → ReadsAs p.1.shape p.2 m.2)
    (habsent : ∀ p ∈ r.fields.zip js, p.1.name ∉ members.map (·.1) → p.1.absent.Fills p.2) :
    Pending r js (r.fields.map fun _ => none) members := by
  have hmem : ∀ {i : Nat} {f : Field} {j : Json}, r.fields[i]? = some f → js[i]? = some j →
      (f, j) ∈ r.fields.zip js := fun hf hj =>
    List.mem_of_getElem? (List.getElem?_zip_eq_some.mpr ⟨hf, hj⟩)
  have hempty : ∀ {i : Nat} {f : Field}, r.fields[i]? = some f →
      (r.fields.map fun _ => (none : Option Json))[i]? = some none := by
    intro i f hf
    rw [List.getElem?_map, hf]
    rfl
  refine ⟨hnodup, fun m hm => ?free, fun i f j hf hj => .inr ⟨hempty hf, ?place⟩⟩
  case free =>
    obtain ⟨f, hf, hname⟩ := List.mem_map.mp (hknown m hm)
    obtain ⟨i, hi⟩ := List.getElem?_of_mem hf
    obtain ⟨hlt, -⟩ := List.getElem?_eq_some_iff.mp hi
    have hj : js[i]? = some js[i] := List.getElem?_eq_getElem (hjs ▸ hlt)
    exact ⟨i, f, js[i], hi, hname, hj, hempty hi, h m hm _ (hmem hi hj) hname⟩
  case place =>
    by_cases hname : f.name ∈ members.map (·.1)
    · exact .inl hname
    · exact .inr (habsent _ (hmem hf hj) hname)

/-- An object is read from its members in any order, where those that are left out are filled
in. -/
theorem readsAs_record (hjs : js.length = r.fields.length)
    (h : Pending r js (r.fields.map fun _ => none) members) :
    ReadsAs (.record r) (r.object js) (.object members) := by
  intro route
  simp only [Record.object, Json.toTree, readNode, Json.depth]
  refine Route.enter_bind fun route => ?_
  rw [readMembers_membersTree hjs h]
  exact Route.within_map r.object

end Object

/-- An object that is written has all its members. -/
theorem reads_record {r : Record} {js : List Json} (hjs : js.length = r.fields.length)
    (h : ∀ p ∈ r.fields.zip js, Reads p.1.shape p.2) : Reads (.record r) (r.object js) := by
  have hnames : (r.fields.zip js).map (·.1.name) = r.fields.map (·.name) := by
    conv_rhs => rw [← List.map_fst_zip (Nat.le_of_eq hjs.symm), List.map_map]
    rfl
  have hobject : r.object js = .object ((r.fields.zip js).map fun p => (p.1.name, p.2)) := by
    rw [Record.object, List.zip_map_left]
    rfl
  show ReadsAs _ _ _
  nth_rewrite 2 [hobject]
  refine readsAs_record hjs (pending_start hjs ?_ ?_ ?_ ?_)
  · rw [List.map_map]
    exact hnames ▸ r.nodup_names
  · intro m hm
    obtain ⟨p, hp, rfl⟩ := List.mem_map.mp hm
    exact hnames ▸ List.mem_map_of_mem hp
  · intro m hm p hp hname
    obtain ⟨q, hq, rfl⟩ := List.mem_map.mp hm
    obtain rfl := List.inj_on_of_nodup_map (hnames ▸ r.nodup_names) hp hq hname
    exact h p hp
  · intro p hp hname
    rw [List.map_map] at hname
    exact absurd (List.mem_map_of_mem hp) hname

/-! ## 5. Expressions and literals -/

section Variant

variable {α β : Type} {names : List String} {ofName? : String → Option α}
variable {content : α → Option (Route × Tree) → Except Fault β} {name : String} {a : α}

/-- A variant that is its name alone. -/
theorem readVariant_string (route : Route) (h : ofName? name = some a) :
    readVariant route names ofName? content (.string (some name)) = content a none := by
  simp only [readVariant, h]
  rfl

/-- A variant that carries something. -/
theorem readVariant_object {t : Tree} {b : β} (route : Route) (h : ofName? name = some a)
    (hb : ∀ route, content a (some (route, t)) = .ok b) :
    readVariant route names ofName? content (.object (.member (some name) t .closed)) =
      route.within 1 b := by
  cases route with
  | held =>
    simp only [readVariant, h]
    exact hb .held
  | direct room =>
    simp only [readVariant, h]
    refine Route.enter_bind fun route => ?_
    show (content a (some (route, t)) >>= fun b => pure b) = _
    rw [hb, Route.within_zero]
    rfl

end Variant

/-- An expression is read from its kind and what stands for its value. -/
theorem readsAs_expr {k : Kind} {j j' : Json} (h : ReadsAs k.content j j') :
    ReadsAs .expr (k.object j) (k.object j') := by
  intro route
  have hdepth : (k.object j').depth = j'.depth + 1 := by
    simp [Kind.object, Json.depth, membersDepth]
  rw [hdepth]
  simp only [Kind.object, Json.toTree, membersTree, readNode]
  refine Route.enter_bind fun route => ?_
  have hkind : readKind route (.string (some k.name)) = .ok k :=
    readVariant_string route k.ofName?_name
  simp only [readTagged, if_pos, hkind]
  show readContent route k _ = _
  simp only [readContent, if_pos, if_neg (by decide : ¬ ("value" = "kind")), h route]
  exact Route.within_map k.object

theorem reads_literal {k : LiteralKind} {shape : Shape} {j : Json} (hk : k.content? = some shape)
    (h : Fits shape j) : Reads .literal (k.json (some j)) := by
  intro route
  obtain ⟨hleaf, hzero⟩ := readLeaf_toTree hk h
  have hdepth : (k.json (some j)).depth = 1 := by
    simp [LiteralKind.json, Json.depth, membersDepth, hzero]
  rw [hdepth]
  show readLiteral route (.object (.member (some k.name) j.toTree .closed)) = _
  refine readVariant_object route k.ofName?_name fun route => ?_
  simp only [hk, hleaf]
  rfl

theorem reads_nilLiteral {k : LiteralKind} (hk : k.content? = none) :
    Reads .literal (k.json none) := by
  intro route
  show readLiteral route (.string (some k.name)) = route.within 0 (k.json none)
  refine (readVariant_string route k.ofName?_name).trans ?_
  simp only [hk, Route.within_zero]

/-! ## 6. All values that fit -/

/-- **A value that fits a shape is read as itself, if it does not nest too deep.** -/
theorem Fits.reads {shape : Shape} {j : Json} (h : Fits shape j) : Reads shape j := by
  induction h with
  | text | noText | someText | flag => exact fun route => (route.within_zero _).symm
  | integer n hmin hmax =>
    intro route
    obtain ⟨hleaf, -⟩ := readLeaf_toTree (k := .int) rfl (.integer n hmin hmax)
    exact hleaf.trans (route.within_zero _).symm
  | list item js _ ih => exact readsAs_list (List.forall₂_same.mpr ih)
  | record r js hlength _ ih => exact reads_record hlength ih
  | expr k j _ ih => exact readsAs_expr ih
  | literal k shape j hk h _ => exact reads_literal hk h
  | nilLiteral k hk => exact reads_nilLiteral hk

/-- **The text of a value that fits is read as the value, or refused because it nests too deep.** -/
theorem Fits.parse_text {shape : Shape} {j : Json} (h : Fits shape j) :
    shape.parse j.text =
      if Json.nesting j.text ≤ maxOpen then .ok j else .error .tooDeep := by
  have hread := h.reads (.direct maxOpen)
  rw [Json.nesting_text]
  simp only [Shape.parse, Json.readText_text, hread, Route.within, Route.allows]
  by_cases hdepth : j.depth ≤ maxOpen <;> simp [hdepth]

end PassContext
