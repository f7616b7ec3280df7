/-
# Reading nodes

Reading walks the tree of a text along a shape and gives the value as the library would write it:
members in their order, left-out ones filled in, unknown ones dropped.  The tree is walked in the
order of the text, so the fault found is the first one.

There are two routes.  On the direct route arrays and objects are counted as they open.  The value
of an expression may stand in front of its kind; it is then looked over as plain JSON, and read on
the held route once the kind is known.  A held value is known to be sound, which shows in the
wording of a few faults.
-/
import PassContext.Syntax.Fault
import PassContext.Syntax.Shape

namespace PassContext

open Json (Tree Items Members)

/-! ## 1. Routes -/

/-- How a value is being read. -/
inductive Route
  /-- As it stands in the text; so many more arrays and objects may be opened. -/
  | direct (room : Nat)
  /-- After it was looked over. -/
  | held
deriving DecidableEq, Repr

/-- How many arrays and objects may be open at once. -/
def maxOpen : Nat := 127

/-- The route inside an array or object. -/
def Route.enter : Route → Except Fault Route
  | .direct 0 => .error .tooDeep
  | .direct (room + 1) => .ok (.direct room)
  | .held => .ok .held

/-! ## 2. Parts that are not nodes -/

mutual

/-- Whether a skipped value keeps to the grammar.  Its depth, its numbers and its surrogates do
not matter. -/
def skippable : Tree → Bool
  | .broken => false
  | .array items => skippableItems items
  | .object members => skippableMembers members
  | _ => true

def skippableItems : Items → Bool
  | .closed => true
  | .cut => false
  | .item t tail => skippable t && skippableItems tail

def skippableMembers : Members → Bool
  | .closed => true
  | .cut => false
  | .member _ t tail => skippable t && skippableMembers tail

end

/-- Passes over the value of an unknown member. -/
def skip (t : Tree) : Except Fault Unit := if skippable t then .ok () else .error .malformed

mutual

/-- Looks over a value that is to be held. -/
def lookOver (route : Route) : Tree → Except Fault Unit
  | .broken | .number none | .string none => .error .malformed
  | .array items => do
    let route ← route.enter
    lookOverItems route items
  | .object members => do
    let route ← route.enter
    lookOverMembers route members
  | _ => .ok ()

def lookOverItems (route : Route) : Items → Except Fault Unit
  | .closed => .ok ()
  | .cut => .error .malformed
  | .item t tail => do
    lookOver route t
    lookOverItems route tail

def lookOverMembers (route : Route) : Members → Except Fault Unit
  | .closed => .ok ()
  | .cut | .member none _ _ => .error .malformed
  | .member (some _) t tail => do
    lookOver route t
    lookOverMembers route tail

end

/-- Holds a value until it can be read.  A value that is held already is sound. -/
def hold : Route → Tree → Except Fault Unit
  | .direct room, t => lookOver (.direct room) t
  | .held, _ => .ok ()

/-! ## 3. Values without nodes in them -/

/-- The greatest integer of 64 bits. -/
def maxInt64 : Int := 9223372036854775807

/-- What is expected where a shape is due. -/
def Shape.expected : Shape → String
  | .text | .optionalText => "a string"
  | .flag => "a boolean"
  | .integer => "i64"
  | .list _ => "a sequence"
  | .record r => r.expected
  | .expr => "adjacently tagged enum Expr"
  | .literal => "string or map"

/-- Reads a text, a flag or an integer. -/
def readLeaf (shape : Shape) (t : Tree) : Except Fault Json :=
  match shape, t with
  | .text, .string (some s) => .ok (.string s)
  | .optionalText, .string (some s) => .ok (.string s)
  | .optionalText, .null => .ok .null
  | .flag, .bool b => .ok (.bool b)
  | .integer, .number (some (.integer n)) =>
    if n ≤ maxInt64 then .ok (.int n) else .error (.invalidValue (.integer n) shape.expected)
  | _, t => .error (t.mismatch shape.expected)

/-- Reads the value beside a name that carries nothing: null, or an empty object that is held. -/
def readUnit (route : Route) (t : Tree) : Except Fault Unit :=
  match route, t with
  | _, .null => .ok ()
  | .held, .object .closed => .ok ()
  | _, t => .error (t.mismatch "unit")

/-- Reads a variant: its name alone, or an object whose only member has that name.  What stands
beside the name is read by `content`. -/
def readVariant {α β : Type} (route : Route) (names : List String) (ofName? : String → Option α)
    (content : α → Option (Route × Tree) → Except Fault β) (t : Tree) : Except Fault β :=
  let named (name : String) : Except Fault α :=
    match ofName? name with
    | some a => .ok a
    | none => .error (.unknownVariant name names)
  match route, t with
  | _, .string (some name) => do
    let a ← named name
    content a none
  | .direct _, .object members => do
    let route ← route.enter
    match members with
    | .member (some name) t tail => do
      let a ← named name
      let b ← content a (some (route, t))
      match tail with
      | .closed => .ok b
      | _ => .error .malformed
    -- A name that is no text is refused before a variant is expected: in `{1: 2}` nothing is said
    -- of the integer.
    | _ => .error .malformed
  | .direct _, _ => .error .malformed
  | .held, .object (.member (some name) t .closed) => do
    let a ← named name
    content a (some (route, t))
  | .held, .object _ => .error (.invalidValue .map "map with a single key")
  | .held, t => .error (t.mismatch "string or map")

/-- Reads the kind of an expression. -/
def readKind (route : Route) (t : Tree) : Except Fault Kind :=
  readVariant route (Kind.all.map Kind.name) Kind.ofName?
    (fun kind beside =>
      match beside with
      | none => .ok kind
      | some (route, t) => do
        readUnit route t
        return kind)
    t

/-- Reads the kind in front of a value in an array.  It is a name; in a held array it may also be
its position among the kinds. -/
def readPairKind (route : Route) (t : Tree) : Except Fault Kind :=
  match route, t with
  | _, .string (some name) =>
    match Kind.ofName? name with
    | some kind => .ok kind
    | none => .error (.unknownVariant name (Kind.all.map Kind.name))
  | .held, .number (some (.integer (.ofNat n))) =>
    match Kind.all[n]? with
    | some kind => .ok kind
    | none =>
      let range := "variant index 0 <= i < " ++ String.ofList (Json.digits Kind.all.length)
      .error (.invalidValue (.integer n) range)
  | _, t => .error (t.mismatch "variant identifier")

/-- Reads a literal. -/
def readLiteral (route : Route) (t : Tree) : Except Fault Json :=
  readVariant route (LiteralKind.all.map LiteralKind.name) LiteralKind.ofName?
    (fun kind beside =>
      match kind.content?, beside with
      | none, none => .ok (kind.json none)
      | none, some (route, t) => do
        readUnit route t
        return kind.json none
      | some _, none => .error (.invalidType .unitVariant "newtype variant")
      | some shape, some (_, t) => do
        let j ← readLeaf shape t
        return kind.json (some j))
    t

/-! ## 4. Arrays and objects -/

/-- What is expected of a length. -/
def elementCount (n : Nat) (place : String) : String :=
  String.ofList (Json.digits n) ++ (if n = 1 then " element " else " elements ") ++ place

/-- The end of an array that has as many items as it may have. -/
def endItems (route : Route) (count : Nat) : Items → Except Fault Unit
  | .closed => .ok ()
  | rest =>
    match route with
    | .direct _ => .error .malformed
    | .held => .error (.invalidLength (count + rest.length) (elementCount count "in sequence"))

/-- The values of the members that an array leaves out at its end, the first of them at the
position `n`. -/
def absentItems (r : Record) : Nat → List Field → Except Fault (List Json)
  | _, [] => .ok []
  | n, f :: fs =>
    match f.absent with
    | .fallback j => do
      let js ← absentItems r (n + 1) fs
      return j :: js
    | _ => .error (.invalidLength n (r.expected ++ " with " ++
        String.ofList (Json.digits r.fields.length) ++ " elements"))

/-- The values of the members of an object, where some may be left out. -/
def finishMembers : List Field → List (Option Json) → Except Fault (List Json)
  | f :: fs, slot :: slots => do
    let j ← match slot, f.absent with
      | some j, _ => .ok j
      | none, .refused => .error (.missingField f.name)
      | none, .nullByName => .ok .null
      | none, .fallback j => .ok j
    let js ← finishMembers fs slots
    return j :: js
  | _, _ => .ok []

/-- What is left of an expression's object once kind and value are known. -/
def endTagged : Members → Except Fault Unit
  | .closed => .ok ()
  | .cut | .member none _ _ => .error .malformed
  | .member (some key) t tail =>
    if key = "kind" then .error (.duplicateField "kind")
    else if key = "value" then .error (.duplicateField "value")
    else do
      skip t
      endTagged tail

/-- The kind behind a value that is held, and the members behind the kind. -/
def findKind (route : Route) : Members → Except Fault (Kind × Members)
  | .closed => .error (.missingField "kind")
  | .cut | .member none _ _ => .error .malformed
  | .member (some key) t tail =>
    if key = "kind" then do
      let kind ← readKind route t
      return (kind, tail)
    else if key = "value" then .error (.duplicateField "value")
    else do
      skip t
      findKind route tail

mutual

/-- Reads a value of a shape. -/
def readNode (route : Route) (shape : Shape) : Tree → Except Fault Json
  | .array items =>
    match shape with
    | .list item => do
      let route ← route.enter
      let js ← readItems route item items
      return .array js
    | .record r => do
      let route ← route.enter
      if r.allowsArray then
        let js ← readFields route r 0 r.fields items
        return r.object js
      else
        .error (.invalidType .sequence r.expected)
    | .expr => do
      let route ← route.enter
      readPair route items
    | .literal => readLiteral route (.array items)
    | _ => readLeaf shape (.array items)
  | .object members =>
    match shape with
    | .record r => do
      let route ← route.enter
      let js ← readMembers route r (r.fields.map fun _ => none) members
      return r.object js
    | .expr => do
      let route ← route.enter
      readTagged route members
    | .literal => readLiteral route (.object members)
    | _ => readLeaf shape (.object members)
  | t =>
    match shape with
    | .literal => readLiteral route t
    | _ => readLeaf shape t

/-- Reads the items of a list. -/
def readItems (route : Route) (item : Shape) : Items → Except Fault (List Json)
  | .closed => .ok []
  | .cut => .error .malformed
  | .item t tail => do
    let j ← readNode route item t
    let js ← readItems route item tail
    return j :: js

/-- Reads the members of an object from an array, from the position `n` on. -/
def readFields (route : Route) (r : Record) (n : Nat) :
    List Field → Items → Except Fault (List Json)
  | [], items => do
    endItems route n items
    return []
  | _ :: _, .cut => .error .malformed
  | f :: fs, .closed => absentItems r n (f :: fs)
  | f :: fs, .item t tail => do
    let j ← readNode route f.shape t
    let js ← readFields route r (n + 1) fs tail
    return j :: js

/-- Reads the members of an object by name. -/
def readMembers (route : Route) (r : Record) (slots : List (Option Json)) :
    Members → Except Fault (List Json)
  | .closed => finishMembers r.fields slots
  | .cut | .member none _ _ => .error .malformed
  | .member (some key) t tail =>
    match r.fields.findIdx? (·.name == key) with
    | none => do
      skip t
      readMembers route r slots tail
    | some i =>
      match slots[i]?, r.fields[i]? with
      | some none, some f => do
        let j ← readNode route f.shape t
        readMembers route r (slots.set i (some j)) tail
      | _, _ => .error (.duplicateField key)

/-- Reads an expression from an array of its kind and its value. -/
def readPair (route : Route) : Items → Except Fault Json
  | .closed => .error (.invalidLength 0 Shape.expr.expected)
  | .cut => .error .malformed
  | .item k rest => do
    let kind ← readPairKind route k
    match rest with
    | .closed => .error (.invalidLength 1 Shape.expr.expected)
    | .cut => .error .malformed
    | .item t tail => do
      let j ← readNode route kind.content t
      endItems route 2 tail
      return kind.object j

/-- Reads an expression from its members, of which neither kind nor value has been met. -/
def readTagged (route : Route) : Members → Except Fault Json
  | .closed => .error (.missingField "kind")
  | .cut | .member none _ _ => .error .malformed
  | .member (some key) t tail =>
    if key = "kind" then do
      let kind ← readKind route t
      readContent route kind tail
    else if key = "value" then do
      hold route t
      let (kind, tail) ← findKind route tail
      let j ← readNode .held kind.content t
      endTagged tail
      return kind.object j
    else do
      skip t
      readTagged route tail

/-- Reads the value of an expression whose kind is known. -/
def readContent (route : Route) (kind : Kind) : Members → Except Fault Json
  | .closed => .error (.missingField "value")
  | .cut | .member none _ _ => .error .malformed
  | .member (some key) t tail =>
    if key = "kind" then .error (.duplicateField "kind")
    else if key = "value" then do
      let j ← readNode route kind.content t
      endTagged tail
      return kind.object j
    else do
      skip t
      readContent route kind tail

end

/-- Reads a value of a shape from a text, which may hold nothing else. -/
def Shape.parse (shape : Shape) (text : String) : Except Fault Json := do
  let document := Json.readText text
  let j ← readNode (.direct maxOpen) shape document.tree
  if document.atEnd then return j else .error .malformed

end PassContext
