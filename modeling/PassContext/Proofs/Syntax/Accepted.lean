/-
# What reading lets through

Reading accepts more than what the library writes: members in any order, unknown ones beside them,
arrays in the place of objects, members that are left out.  But whatever it accepts, it gives a
value as the library writes it, and the value nests hardly deeper than the text did.

On the direct route the room that is left bounds the depth.  A held value has no such bound of its
own, but it was looked over before, and nests no deeper than its tree (`Route.room`).  To this come
the members that were left out and are filled in: an empty list adds a level where the text had
none.  That happens in declarations only, and these are no deeper than four levels by themselves
(`Shape.slack`); expressions have no such members.
-/
import PassContext.Proofs.Json.Ranges
import PassContext.Proofs.Syntax.Fits

namespace PassContext

open Json (Tree Items Members itemsDepth membersDepth)

/-! ## 1. Depths -/

namespace Json

mutual

/-- How many arrays and objects are open at once in a tree. -/
def Tree.depth : Tree → Nat
  | .array items => items.depth + 1
  | .object members => members.depth + 1
  | _ => 0

def Items.depth : Items → Nat
  | .item t tail => max t.depth tail.depth
  | _ => 0

def Members.depth : Members → Nat
  | .member _ t tail => max t.depth tail.depth
  | _ => 0

end

end Json

/-- A computation in two steps that succeeds. -/
theorem bind_eq_ok {ε α β : Type} {x : Except ε α} {f : α → Except ε β} {b : β} :
    (x >>= f) = .ok b ↔ ∃ a, x = .ok a ∧ f a = .ok b := by
  cases x <;> simp [bind, Except.bind]

namespace Route

/-- How deep a value may nest that a route reads from a tree of the given depth. -/
def room : Route → Nat → Nat
  | .direct n, _ => n
  | .held, depth => depth

variable {route route' : Route} {m n : Nat}

theorem room_mono (route : Route) (h : m ≤ n) : route.room m ≤ route.room n := by
  cases route with
  | direct => exact Nat.le_refl _
  | held => exact h

/-- Inside of an array or object there is one level less. -/
theorem room_enter (h : route.enter = .ok route') (n : Nat) :
    route'.room n + 1 ≤ route.room (n + 1) := by
  cases route with
  | held =>
    obtain rfl := Except.ok.inj h
    exact Nat.le_refl _
  | direct room =>
    cases room with
    | zero => exact absurd h (by simp [enter])
    | succ room =>
      obtain rfl := Except.ok.inj h
      exact Nat.le_refl _

end Route

mutual

/-- A value that was looked over nests no deeper than there was room. -/
theorem depth_le_of_lookOver : ∀ (t : Tree) {room : Nat},
    lookOver (.direct room) t = .ok () → t.depth ≤ room
  | .array items, room, h => by
    obtain ⟨route, henter, h⟩ := bind_eq_ok.mp h
    cases room with
    | zero => exact absurd henter (by simp [Route.enter])
    | succ room =>
      obtain rfl := Except.ok.inj henter
      exact Nat.succ_le_succ (itemsDepth_le_of_lookOver items h)
  | .object members, room, h => by
    obtain ⟨route, henter, h⟩ := bind_eq_ok.mp h
    cases room with
    | zero => exact absurd henter (by simp [Route.enter])
    | succ room =>
      obtain rfl := Except.ok.inj henter
      exact Nat.succ_le_succ (membersDepth_le_of_lookOver members h)
  | .broken, _, _ | .null, _, _ | .bool _, _, _ | .number _, _, _ | .string _, _, _ => Nat.zero_le _

theorem itemsDepth_le_of_lookOver : ∀ (items : Items) {room : Nat},
    lookOverItems (.direct room) items = .ok () → items.depth ≤ room
  | .closed, _, _ | .cut, _, _ => Nat.zero_le _
  | .item t tail, _, h => by
    obtain ⟨_, ht, htail⟩ := bind_eq_ok.mp h
    exact Nat.max_le.mpr ⟨depth_le_of_lookOver t ht, itemsDepth_le_of_lookOver tail htail⟩

theorem membersDepth_le_of_lookOver : ∀ (members : Members) {room : Nat},
    lookOverMembers (.direct room) members = .ok () → members.depth ≤ room
  | .closed, _, _ | .cut, _, _ => Nat.zero_le _
  | .member none t tail, _, h => absurd h (by simp [lookOverMembers])
  | .member (some key) t tail, _, h => by
    obtain ⟨_, ht, htail⟩ := bind_eq_ok.mp h
    exact Nat.max_le.mpr ⟨depth_le_of_lookOver t ht, membersDepth_le_of_lookOver tail htail⟩

end

/-- What is held nests no deeper than its place allows. -/
theorem depth_le_of_hold {route : Route} {t : Tree} {n : Nat} (h : hold route t = .ok ())
    (hn : t.depth ≤ n) : t.depth ≤ route.room n := by
  cases route with
  | direct room => exact depth_le_of_lookOver t h
  | held => exact hn

/-! ## 2. What is filled in -/

/-- How deep an object may nest though its text nests less. -/
def Record.slack : Record → Nat
  | .enumDecl => 4
  | .enumElement | .functionDecl => 2
  | _ => 0

/-- How deep a value of a shape may nest though its text nests less. -/
def Shape.slack : Shape → Nat
  | .list item => if item.slack = 0 then 0 else item.slack + 1
  | .record r => r.slack
  | _ => 0

/-- The kinds of expressions have nothing that is filled in with a list. -/
theorem Kind.slack_content (k : Kind) : k.content.slack = 0 := by cases k <;> rfl

theorem Record.slack_fields (r : Record) : ∀ f ∈ r.fields, f.shape.slack + 1 ≤ max 1 r.slack := by
  cases r <;> decide

/-- A value is read as the library writes it, and nests no deeper than the route and what is
filled in allow. -/
structure Accepted (route : Route) (depth : Nat) (shape : Shape) (j : Json) : Prop where
  fits : Fits shape j
  depth_le : j.depth ≤ max (route.room depth) shape.slack

/-- What is said of a member of an object that is being read. -/
structure AcceptedMember (route : Route) (depth : Nat) (r : Record) (f : Field) (j : Json) :
    Prop where
  fits : Fits f.shape j
  depth_lt : j.depth < max (route.room depth + 1) r.slack

variable {route route' : Route} {depth depth' : Nat} {shape : Shape} {r : Record} {f : Field}
variable {j : Json}

theorem Accepted.mono (h : Accepted route depth shape j) (hdepth : depth ≤ depth') :
    Accepted route depth' shape j where
  fits := h.fits
  depth_le := by
    have hroom := route.room_mono hdepth
    have hj := h.depth_le
    omega

theorem Accepted.member (h : Accepted route depth f.shape j) (hf : f ∈ r.fields)
    (hdepth : depth ≤ depth') : AcceptedMember route depth' r f j where
  fits := h.fits
  depth_lt := by
    have hroom := route.room_mono hdepth
    have hslack := r.slack_fields f hf
    have hj := h.depth_le
    omega

theorem AcceptedMember.mono (h : AcceptedMember route depth r f j) (hdepth : depth ≤ depth') :
    AcceptedMember route depth' r f j where
  fits := h.fits
  depth_lt := by
    have hroom := route.room_mono hdepth
    have hj := h.depth_lt
    omega

/-- What is filled in is a null, an empty list or a flag that is off. -/
theorem Record.fills_cases (r : Record) : ∀ f ∈ r.fields, ∀ j, f.absent.Fills j →
    f.shape = .optionalText ∧ j = .null ∨
      (∃ item, f.shape = .list item) ∧ j = .array [] ∧ 2 ≤ r.slack ∨
      f.shape = .flag ∧ j = .bool false := by
  cases r <;> simp [Record.fields, Record.slack, Absent.Fills, eq_comm]

/-- **What is filled in fits its place.** -/
theorem Absent.Fills.accepted (h : f.absent.Fills j) (hf : f ∈ r.fields) (route : Route)
    (depth : Nat) : AcceptedMember route depth r f j := by
  rcases r.fills_cases f hf j h with ⟨hshape, rfl⟩ | ⟨⟨item, hshape⟩, rfl, hslack⟩ | ⟨hshape, rfl⟩
  · refine ⟨hshape ▸ .noText, ?_⟩
    simp only [Json.depth]
    omega
  · refine ⟨hshape ▸ .list item [] (by simp), ?_⟩
    simp only [Json.depth, itemsDepth]
    omega
  · refine ⟨hshape ▸ .flag false, ?_⟩
    simp only [Json.depth]
    omega

/-! ## 3. Leaves and literals -/

theorem readLeaf_accepted {t : Tree} (ht : t.InRange) (h : readLeaf shape t = .ok j) :
    Fits shape j ∧ j.depth = 0 := by
  unfold readLeaf at h
  split at h
  · obtain rfl := Except.ok.inj h
    exact ⟨.text _, rfl⟩
  · obtain rfl := Except.ok.inj h
    exact ⟨.someText _, rfl⟩
  · obtain rfl := Except.ok.inj h
    exact ⟨.noText, rfl⟩
  · obtain rfl := Except.ok.inj h
    exact ⟨.flag _, rfl⟩
  · rename_i n
    split at h
    · rename_i hmax
      obtain rfl := Except.ok.inj h
      exact ⟨.integer n ht hmax, rfl⟩
    · exact absurd h (by simp)
  · exact absurd h (by simp)

theorem accepted_leaf {t : Tree} (ht : t.InRange) (h : readLeaf shape t = .ok j) :
    Accepted route depth shape j := by
  obtain ⟨hfits, hdepth⟩ := readLeaf_accepted ht h
  exact ⟨hfits, hdepth ▸ Nat.zero_le _⟩

/-- A variant that was read is a name alone, or stands in an object of one member. -/
theorem readVariant_cases {α β : Type} {names : List String} {ofName? : String → Option α}
    {content : α → Option (Route × Tree) → Except Fault β} {t : Tree} {b : β}
    (h : readVariant route names ofName? content t = .ok b) :
    (∃ name a, t = .string (some name) ∧ ofName? name = some a ∧ content a none = .ok b) ∨
    ∃ name a route' t' tail, t = .object (.member (some name) t' tail) ∧
      route.enter = .ok route' ∧ ofName? name = some a ∧ content a (some (route', t')) = .ok b := by
  have hrefused : ∀ {a : α} {fault : Fault}, Except.error fault ≠ .ok a := by simp
  unfold readVariant at h
  simp only at h
  split at h
  · obtain ⟨a, hnamed, h⟩ := bind_eq_ok.mp h
    split at hnamed
    · rename_i ha
      obtain rfl := Except.ok.inj hnamed
      exact .inl ⟨_, _, rfl, ha, h⟩
    · exact absurd hnamed hrefused
  · obtain ⟨route', henter, h⟩ := bind_eq_ok.mp h
    split at h
    · obtain ⟨a, hnamed, h⟩ := bind_eq_ok.mp h
      obtain ⟨c, hc, hend⟩ := bind_eq_ok.mp h
      split at hnamed
      · rename_i ha
        obtain rfl := Except.ok.inj hnamed
        split at hend
        · obtain rfl := Except.ok.inj hend
          exact .inr ⟨_, _, route', _, _, rfl, henter, ha, hc⟩
        · exact absurd hend (by simp)
      · exact absurd hnamed hrefused
    · exact absurd h (by simp)
  · exact absurd h (by simp)
  · obtain ⟨a, hnamed, h⟩ := bind_eq_ok.mp h
    split at hnamed
    · rename_i ha
      obtain rfl := Except.ok.inj hnamed
      exact .inr ⟨_, _, .held, _, .closed, rfl, rfl, ha, h⟩
    · exact absurd hnamed hrefused
  · exact absurd h (by simp)
  · exact absurd h (by simp)

theorem readLiteral_accepted {t : Tree} (ht : t.InRange) (h : readLiteral route t = .ok j) :
    Accepted route t.depth .literal j := by
  rcases readVariant_cases h with
    ⟨name, k, rfl, -, h⟩ | ⟨name, k, route', t', tail, rfl, henter, -, h⟩
  · cases hk : k.content? with
    | none =>
      simp only [hk] at h
      obtain rfl := Except.ok.inj h
      exact ⟨.nilLiteral k hk, Nat.zero_le _⟩
    | some shape => exact absurd h (by simp [hk])
  · cases hk : k.content? with
    | none =>
      simp only [hk] at h
      obtain ⟨_, -, h⟩ := bind_eq_ok.mp h
      obtain rfl := Except.ok.inj h
      exact ⟨.nilLiteral k hk, Nat.zero_le _⟩
    | some shape =>
      simp only [hk] at h
      obtain ⟨j', hleaf, h⟩ := bind_eq_ok.mp h
      obtain rfl := Except.ok.inj h
      obtain ⟨hfits, hdepth⟩ := readLeaf_accepted ht.1 hleaf
      refine ⟨.literal k shape j' hk hfits, ?_⟩
      have hroom := Route.room_enter henter (max t'.depth tail.depth)
      simp only [LiteralKind.json, Json.depth, membersDepth, hdepth, Tree.depth, Members.depth]
      omega

/-! ## 4. Arrays and objects -/

theorem exists_of_forall₂ {α β : Type} {R : α → β → Prop} {as : List α} {bs : List β}
    (h : List.Forall₂ R as bs) {b : β} (hb : b ∈ bs) : ∃ a ∈ as, R a b := by
  induction h with
  | nil => exact absurd hb List.not_mem_nil
  | cons hhead _ ih =>
    rcases List.mem_cons.mp hb with rfl | hb
    · exact ⟨_, List.mem_cons_self, hhead⟩
    · obtain ⟨a, ha, hR⟩ := ih hb
      exact ⟨a, List.mem_cons_of_mem _ ha, hR⟩

theorem accepted_list {item : Shape} {js : List Json} (henter : route.enter = .ok route')
    (h : ∀ j ∈ js, Accepted route' depth item j) :
    Accepted route (depth + 1) (.list item) (.array js) where
  fits := .list item js fun j hj => (h j hj).fits
  depth_le := by
    have hroom := Route.room_enter henter depth
    have hitems : itemsDepth js ≤ max (route'.room depth) item.slack :=
      Json.itemsDepth_le_iff.mpr fun j hj => (h j hj).depth_le
    simp only [Json.depth, Shape.slack]
    split <;> omega

theorem accepted_record {js : List Json} (henter : route.enter = .ok route')
    (h : List.Forall₂ (AcceptedMember route' depth r) r.fields js) :
    Accepted route (depth + 1) (.record r) (r.object js) where
  fits := by
    obtain ⟨hlength, hzip⟩ := List.forall₂_iff_zip.mp h
    exact .record r js hlength.symm fun p hp => (hzip hp).fits
  depth_le := by
    have hroom := Route.room_enter henter depth
    have hall : ∀ j ∈ js, j.depth ≤ max (route'.room depth + 1) r.slack - 1 := by
      intro j hj
      obtain ⟨f, -, hmember⟩ := exists_of_forall₂ h hj
      have hlt := hmember.depth_lt
      omega
    have hmembers : membersDepth ((r.fields.map (·.name)).zip js) ≤
        max (route'.room depth + 1) r.slack - 1 :=
      Json.membersDepth_le_iff.mpr fun m hm => hall m.2 (List.of_mem_zip hm).2
    simp only [Record.object, Json.depth, Shape.slack]
    omega

theorem absentItems_accepted (route : Route) (depth : Nat) {n : Nat} {fs : List Field}
    {js : List Json} (hfs : ∀ f ∈ fs, f ∈ r.fields) (h : absentItems r n fs = .ok js) :
    List.Forall₂ (AcceptedMember route depth r) fs js := by
  induction fs generalizing n js with
  | nil =>
    obtain rfl := Except.ok.inj h
    exact .nil
  | cons f fs ih =>
    obtain ⟨hf, hfs⟩ := List.forall_mem_cons.mp hfs
    unfold absentItems at h
    split at h
    · rename_i j hj
      obtain ⟨js', hjs', h⟩ := bind_eq_ok.mp h
      obtain rfl := Except.ok.inj h
      have hfills : f.absent.Fills j := .inr hj
      exact .cons (hfills.accepted hf route depth) (ih hfs hjs')
    · exact absurd h (by simp)

/-- The places of an object's members, with what has been read for them. -/
def AcceptedSlot (route : Route) (depth : Nat) (r : Record) (f : Field) (slot : Option Json) :
    Prop := ∀ j, slot = some j → AcceptedMember route depth r f j

theorem finishMembers_accepted {fs : List Field} {slots : List (Option Json)} {js : List Json}
    (hfs : ∀ f ∈ fs, f ∈ r.fields) (hslots : List.Forall₂ (AcceptedSlot route depth r) fs slots)
    (h : finishMembers fs slots = .ok js) :
    List.Forall₂ (AcceptedMember route depth r) fs js := by
  induction hslots generalizing js with
  | nil =>
    obtain rfl := Except.ok.inj h
    exact .nil
  | @cons f slot fs slots hslot _ ih =>
    obtain ⟨hf, hfs⟩ := List.forall_mem_cons.mp hfs
    have hsplit : ∃ j, (slot = some j ∨ f.absent.Fills j) ∧
        (finishMembers fs slots >>= fun js => pure (j :: js)) = .ok js := by
      cases slot with
      | some j => exact ⟨j, .inl rfl, h⟩
      | none =>
        cases ha : f.absent with
        | refused => exact absurd h (by simp [finishMembers, ha, bind, Except.bind])
        | nullByName =>
          simp only [finishMembers, ha] at h
          exact ⟨.null, .inr (.inl ⟨rfl, rfl⟩), h⟩
        | fallback j =>
          simp only [finishMembers, ha] at h
          exact ⟨j, .inr (.inr rfl), h⟩
    obtain ⟨j, hj, h⟩ := hsplit
    obtain ⟨js', hjs', h⟩ := bind_eq_ok.mp h
    obtain rfl := Except.ok.inj h
    refine .cons ?_ (ih hfs hjs')
    rcases hj with hj | hfills
    · exact hslot j hj
    · exact hfills.accepted hf route depth

theorem forall₂_set {α β : Type} {R : α → β → Prop} {as : List α} {bs : List β}
    (h : List.Forall₂ R as bs) {i : Nat} {a : α} {b : β} (ha : as[i]? = some a) (hb : R a b) :
    List.Forall₂ R as (bs.set i b) := by
  induction h generalizing i with
  | nil => exact absurd ha (by simp)
  | cons hhead htail ih =>
    cases i with
    | zero =>
      obtain rfl := Option.some.inj ha
      exact .cons hb htail
    | succ i => exact .cons hhead (ih ha)

/-- An expression whose value fits its kind. -/
def AcceptedExpr (route : Route) (depth : Nat) (j : Json) : Prop :=
  ∃ k j', j = Kind.object k j' ∧ Fits k.content j' ∧ j'.depth ≤ route.room depth

theorem AcceptedExpr.enter (h : AcceptedExpr route' depth j) (henter : route.enter = .ok route') :
    Accepted route (depth + 1) .expr j := by
  obtain ⟨k, j', rfl, hfits, hdepth⟩ := h
  refine ⟨.expr k j' hfits, ?_⟩
  have hroom := Route.room_enter henter depth
  simp only [Kind.object, Json.depth, membersDepth]
  omega

theorem AcceptedExpr.mono (h : AcceptedExpr route depth j) (hdepth : depth ≤ depth') :
    AcceptedExpr route depth' j := by
  obtain ⟨k, j', rfl, hfits, hle⟩ := h
  exact ⟨k, j', rfl, hfits, Nat.le_trans hle (route.room_mono hdepth)⟩

theorem Accepted.expr {k : Kind} (h : Accepted route depth k.content j) (hdepth : depth ≤ depth') :
    AcceptedExpr route depth' (k.object j) := by
  refine ⟨k, j, rfl, h.fits, ?_⟩
  have hle := h.depth_le
  have hroom := route.room_mono hdepth
  rw [k.slack_content] at hle
  omega

/-! ## 5. All that is accepted -/

mutual

/-- **Whatever is read is as the library writes it, and nests no deeper than there was room**,
but for what was filled in. -/
theorem readNode_accepted : ∀ (t : Tree) {route : Route} {shape : Shape} {j : Json}, t.InRange →
    readNode route shape t = .ok j → Accepted route t.depth shape j
  | .array items, route, shape, j, ht, h => by
    cases shape with
    | list item =>
      simp only [readNode] at h
      obtain ⟨route', henter, h⟩ := bind_eq_ok.mp h
      obtain ⟨js, hjs, h⟩ := bind_eq_ok.mp h
      obtain rfl := Except.ok.inj h
      exact accepted_list henter (readItems_accepted items ht hjs)
    | record r =>
      simp only [readNode] at h
      obtain ⟨route', henter, h⟩ := bind_eq_ok.mp h
      split at h
      · obtain ⟨js, hjs, h⟩ := bind_eq_ok.mp h
        obtain rfl := Except.ok.inj h
        exact accepted_record henter (readFields_accepted items ht (fun f hf => hf) hjs)
      · exact absurd h (by simp)
    | expr =>
      simp only [readNode] at h
      obtain ⟨route', henter, h⟩ := bind_eq_ok.mp h
      exact (readPair_accepted items ht h).enter henter
    | literal => exact readLiteral_accepted ht h
    | text | optionalText | flag | integer =>
      simp only [readNode] at h
      exact accepted_leaf ht h
  | .object members, route, shape, j, ht, h => by
    cases shape with
    | record r =>
      simp only [readNode] at h
      obtain ⟨route', henter, h⟩ := bind_eq_ok.mp h
      obtain ⟨js, hjs, h⟩ := bind_eq_ok.mp h
      obtain rfl := Except.ok.inj h
      refine accepted_record henter (readMembers_accepted members ht (Nat.le_refl _) ?_ hjs)
      exact List.forall₂_map_right_iff.mpr (List.forall₂_same.mpr fun f _ j hj =>
        absurd hj (by simp))
    | expr =>
      simp only [readNode] at h
      obtain ⟨route', henter, h⟩ := bind_eq_ok.mp h
      exact (readTagged_accepted members ht h).enter henter
    | literal => exact readLiteral_accepted ht h
    | list | text | optionalText | flag | integer =>
      simp only [readNode] at h
      exact accepted_leaf ht h
  | .broken, route, shape, j, ht, h | .null, route, shape, j, ht, h
  | .bool _, route, shape, j, ht, h | .number _, route, shape, j, ht, h
  | .string _, route, shape, j, ht, h => by
    cases shape with
    | literal => exact readLiteral_accepted ht h
    | record | expr | list | text | optionalText | flag | integer =>
      simp only [readNode] at h
      exact accepted_leaf ht h

theorem readItems_accepted : ∀ (items : Items) {route : Route} {item : Shape} {js : List Json},
    items.InRange → readItems route item items = .ok js →
    ∀ j ∈ js, Accepted route items.depth item j
  | .closed, route, item, js, _, h => by
    obtain rfl := Except.ok.inj h
    simp
  | .cut, route, item, js, _, h => absurd h (by simp [readItems])
  | .item t tail, route, item, js, hr, h => by
    simp only [readItems] at h
    obtain ⟨j, hj, h⟩ := bind_eq_ok.mp h
    obtain ⟨js', hjs', h⟩ := bind_eq_ok.mp h
    obtain rfl := Except.ok.inj h
    have hhead := readNode_accepted t hr.1 hj
    have htail := readItems_accepted tail hr.2 hjs'
    exact List.forall_mem_cons.mpr ⟨hhead.mono (Nat.le_max_left ..),
      fun j' hj' => (htail j' hj').mono (Nat.le_max_right ..)⟩

theorem readFields_accepted : ∀ (items : Items) {route : Route} {r : Record} {n : Nat}
    {fs : List Field} {js : List Json}, items.InRange → (∀ f ∈ fs, f ∈ r.fields) →
    readFields route r n fs items = .ok js →
    List.Forall₂ (AcceptedMember route items.depth r) fs js
  | .closed, route, r, n, fs, js, _, hfs, h => by
    cases fs with
    | nil =>
      obtain rfl := Except.ok.inj h
      exact .nil
    | cons f fs =>
      simp only [readFields] at h
      exact absentItems_accepted route 0 hfs h
  | .cut, route, r, n, fs, js, _, hfs, h => by
    cases fs with
    | nil =>
      simp only [readFields] at h
      obtain ⟨_, -, h⟩ := bind_eq_ok.mp h
      obtain rfl := Except.ok.inj h
      exact .nil
    | cons f fs => exact absurd h (by simp [readFields])
  | .item t tail, route, r, n, fs, js, hr, hfs, h => by
    cases fs with
    | nil =>
      simp only [readFields] at h
      obtain ⟨_, -, h⟩ := bind_eq_ok.mp h
      obtain rfl := Except.ok.inj h
      exact .nil
    | cons f fs =>
      obtain ⟨hf, hfs⟩ := List.forall_mem_cons.mp hfs
      simp only [readFields] at h
      obtain ⟨j, hj, h⟩ := bind_eq_ok.mp h
      obtain ⟨js', hjs', h⟩ := bind_eq_ok.mp h
      obtain rfl := Except.ok.inj h
      have hhead := readNode_accepted t hr.1 hj
      have htail := readFields_accepted tail hr.2 hfs hjs'
      exact .cons (hhead.member hf (Nat.le_max_left ..))
        (htail.imp fun _ _ hmember => hmember.mono (Nat.le_max_right ..))

theorem readMembers_accepted : ∀ (members : Members) {route : Route} {r : Record} {depth : Nat}
    {slots : List (Option Json)} {js : List Json}, members.InRange → members.depth ≤ depth →
    List.Forall₂ (AcceptedSlot route depth r) r.fields slots →
    readMembers route r slots members = .ok js →
    List.Forall₂ (AcceptedMember route depth r) r.fields js
  | .closed, route, r, depth, slots, js, _, _, hslots, h =>
    finishMembers_accepted (fun f hf => hf) hslots h
  | .cut, route, r, depth, slots, js, _, _, _, h
  | .member none _ _, route, r, depth, slots, js, _, _, _, h => absurd h (by simp [readMembers])
  | .member (some key) t tail, route, r, depth, slots, js, hr, hdepth, hslots, h => by
    obtain ⟨ht, htail⟩ := Nat.max_le.mp hdepth
    simp only [readMembers] at h
    split at h
    · obtain ⟨_, -, h⟩ := bind_eq_ok.mp h
      exact readMembers_accepted tail hr.2 htail hslots h
    · split at h
      · rename_i i _ f _ hf
        obtain ⟨j, hj, h⟩ := bind_eq_ok.mp h
        have hmember := (readNode_accepted t hr.1 hj).member (List.mem_of_getElem? hf) ht
        refine readMembers_accepted tail hr.2 htail (forall₂_set hslots hf ?_) h
        intro j' hj'
        obtain rfl := Option.some.inj hj'
        exact hmember
      · exact absurd h (by simp)

theorem readPair_accepted : ∀ (items : Items) {route : Route} {j : Json}, items.InRange →
    readPair route items = .ok j → AcceptedExpr route items.depth j
  | .closed, _, _, _, h | .cut, _, _, _, h => absurd h (by simp [readPair])
  | .item t .closed, _, _, _, h | .item t .cut, _, _, _, h => by
    simp only [readPair] at h
    obtain ⟨k, -, h⟩ := bind_eq_ok.mp h
    exact absurd h (by simp)
  | .item _ (.item t tail), route, j, hr, h => by
    simp only [readPair] at h
    obtain ⟨k, -, h⟩ := bind_eq_ok.mp h
    obtain ⟨j', hj', h⟩ := bind_eq_ok.mp h
    obtain ⟨_, -, h⟩ := bind_eq_ok.mp h
    obtain rfl := Except.ok.inj h
    refine (readNode_accepted t hr.2.1 hj').expr ?_
    exact Nat.le_trans (Nat.le_max_left ..) (Nat.le_max_right ..)

theorem readTagged_accepted : ∀ (members : Members) {route : Route} {j : Json}, members.InRange →
    readTagged route members = .ok j → AcceptedExpr route members.depth j
  | .closed, _, _, _, h | .cut, _, _, _, h | .member none _ _, _, _, _, h =>
    absurd h (by simp [readTagged])
  | .member (some key) t tail, route, j, hr, h => by
    simp only [readTagged] at h
    split at h
    · obtain ⟨k, -, h⟩ := bind_eq_ok.mp h
      exact (readContent_accepted tail hr.2 h).mono (Nat.le_max_right ..)
    split at h
    · obtain ⟨_, hhold, h⟩ := bind_eq_ok.mp h
      obtain ⟨⟨k, tail'⟩, -, h⟩ := bind_eq_ok.mp h
      obtain ⟨j', hj', h⟩ := bind_eq_ok.mp h
      obtain ⟨_, -, h⟩ := bind_eq_ok.mp h
      obtain rfl := Except.ok.inj h
      -- the value was held, so its depth is that of its tree, which was bounded when it was held
      have hvalue := readNode_accepted t hr.1 hj'
      have hle := hvalue.depth_le
      rw [k.slack_content, Nat.max_zero] at hle
      exact ⟨k, j', rfl, hvalue.fits,
        Nat.le_trans hle (depth_le_of_hold hhold (Nat.le_max_left ..))⟩
    · obtain ⟨_, -, h⟩ := bind_eq_ok.mp h
      exact (readTagged_accepted tail hr.2 h).mono (Nat.le_max_right ..)

theorem readContent_accepted : ∀ (members : Members) {route : Route} {k : Kind} {j : Json},
    members.InRange → readContent route k members = .ok j →
    AcceptedExpr route members.depth j
  | .closed, _, _, _, _, h | .cut, _, _, _, _, h | .member none _ _, _, _, _, _, h =>
    absurd h (by simp [readContent])
  | .member (some key) t tail, route, k, j, hr, h => by
    simp only [readContent] at h
    split at h
    · exact absurd h (by simp)
    split at h
    · obtain ⟨j', hj', h⟩ := bind_eq_ok.mp h
      obtain ⟨_, -, h⟩ := bind_eq_ok.mp h
      obtain rfl := Except.ok.inj h
      exact (readNode_accepted t hr.1 hj').expr (Nat.le_max_left ..)
    · obtain ⟨_, -, h⟩ := bind_eq_ok.mp h
      exact (readContent_accepted tail hr.2 h).mono (Nat.le_max_right ..)

end

/-- **Whatever is read from a text fits its shape and is not too deep to be read again.** -/
theorem parse_accepted {text : String} (h : shape.parse text = .ok j) :
    Fits shape j ∧ j.depth ≤ max maxOpen shape.slack := by
  simp only [Shape.parse] at h
  obtain ⟨j', hj', h⟩ := bind_eq_ok.mp h
  split at h
  · obtain rfl := Except.ok.inj h
    have haccepted := readNode_accepted _ (Json.inRange_readText text) hj'
    exact ⟨haccepted.fits, haccepted.depth_le⟩
  · exact absurd h (by simp)

end PassContext
