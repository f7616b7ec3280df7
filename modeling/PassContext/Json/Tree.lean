/-
# Reading a text as a tree

Whatever a text holds, its tokens make a tree: a part that breaks the rules of nesting ends the
array or object that it stands in, and every one around it.  So a tree keeps all that stands in
front of the first break, in order, and whoever walks it in order meets the first problem first,
be it a break or a value of the wrong kind.

The tree is built in one pass over the tokens.  What is open at a moment is a list of frames, the
innermost first, each with the finished parts in front of the place being read.
-/
import PassContext.Json.Token

namespace PassContext.Json

/-! ## 1. Trees -/

mutual

/-- What a text holds at the place of a value. -/
inductive Tree
  /-- No value can be read here. -/
  | broken
  | null
  | bool (b : Bool)
  /-- A numeral; its number is missing when it is too great. -/
  | number (n : Option Number)
  /-- A string literal; its text is missing when a surrogate stands alone. -/
  | string (s : Option String)
  | array (items : Items)
  | object (members : Members)

/-- The items of an array, up to its end or to a break. -/
inductive Items
  | closed
  | cut
  | item (head : Tree) (tail : Items)

/-- The members of an object, up to its end or to a break. -/
inductive Members
  | closed
  | cut
  /-- A member; its value is `broken` as well when the colon is missing. -/
  | member (key : Option String) (value : Tree) (tail : Members)

end

/-- Puts finished items, the last of them first, in front of others. -/
def Items.prepend : List Tree → Items → Items
  | [], tail => tail
  | t :: ts, tail => Items.prepend ts (.item t tail)

/-- Puts finished members, the last of them first, in front of others. -/
def Members.prepend : List (Option String × Tree) → Members → Members
  | [], tail => tail
  | (key, t) :: ts, tail => Members.prepend ts (.member key t tail)

/-- How many items there are. -/
def Items.length : Items → Nat
  | .item _ tail => tail.length + 1
  | _ => 0

/-! ## 2. Reading tokens -/

/-- An array or object that is open, with its finished parts, the last of them first. -/
inductive Frame
  | array (items : List Tree)
  /-- The value of the member `key` is being read. -/
  | object (members : List (Option String × Tree)) (key : Option String)

/-- What is due next. -/
inductive Due
  /-- A value. -/
  | value
  /-- The first item of an array, or its end. -/
  | firstItem
  /-- The name of the first member of an object, or its end. -/
  | firstKey
  /-- The name of a member. -/
  | key (members : List (Option String × Tree))
  /-- The colon behind the name of a member. -/
  | colon (members : List (Option String × Tree)) (key : Option String)
  /-- What follows a finished value. -/
  | next (finished : Tree)

/-- The tree of the whole text when reading breaks behind `t`. -/
def breakOff (t : Tree) : List Frame → Tree
  | [] => t
  | .array items :: frames => breakOff (.array (.prepend (t :: items) .cut)) frames
  | .object members key :: frames =>
    breakOff (.object (.prepend ((key, t) :: members) .cut)) frames

/-- The tree of the whole text when reading breaks at what is due. -/
def Due.breakOff (frames : List Frame) : Due → Tree
  | .value | .firstItem => Json.breakOff .broken frames
  | .firstKey => Json.breakOff (.object .cut) frames
  | .key members => Json.breakOff (.object (.prepend members .cut)) frames
  | .colon members name => Json.breakOff .broken (.object members name :: frames)
  | .next t => Json.breakOff t frames

/-- What a token at the place of a value makes due, with the frames then open. -/
def beginValue (frames : List Frame) : Token → Option (Due × List Frame)
  | .null => some (.next .null, frames)
  | .bool b => some (.next (.bool b), frames)
  | .number n => some (.next (.number n), frames)
  | .string s => some (.next (.string s), frames)
  | .openBracket => some (.firstItem, .array [] :: frames)
  | .openBrace => some (.firstKey, frames)
  | _ => none

/-- What a token makes due, with the frames then open. -/
def advance (frames : List Frame) (t : Token) : Due → Option (Due × List Frame)
  | .value => beginValue frames t
  | .firstItem =>
    match t, frames with
    | .closeBracket, _ :: frames => some (.next (.array .closed), frames)
    | t, frames => beginValue frames t
  | .firstKey =>
    match t with
    | .closeBrace => some (.next (.object .closed), frames)
    | .string key => some (.colon [] key, frames)
    | _ => none
  | .key members =>
    match t with
    | .string key => some (.colon members key, frames)
    | _ => none
  | .colon members key =>
    match t with
    | .colon => some (.value, .object members key :: frames)
    | _ => none
  | .next v =>
    match t, frames with
    | .comma, .array items :: frames => some (.value, .array (v :: items) :: frames)
    | .closeBracket, .array items :: frames =>
      some (.next (.array (.prepend (v :: items) .closed)), frames)
    | .comma, .object members key :: frames => some (.key ((key, v) :: members), frames)
    | .closeBrace, .object members key :: frames =>
      some (.next (.object (.prepend ((key, v) :: members) .closed)), frames)
    | _, _ => none

/-- A text as a tree, and whether nothing but white space follows the tree. -/
structure Document where
  tree : Tree
  atEnd : Bool

/-- Reads tokens from a place at which `due` is due in the given frames. -/
def readTokens (due : Due) (frames : List Frame) : List Token → Document
  | [] => ⟨due.breakOff frames, frames.isEmpty⟩
  | t :: ts =>
    match due, frames with
    | .next v, [] => ⟨v, false⟩
    | due, frames =>
      match advance frames t due with
      | some (due, frames) => readTokens due frames ts
      | none => ⟨due.breakOff frames, false⟩

/-- The tree of a text. -/
def readText (text : String) : Document := readTokens .value [] (tokens text.toList)

end PassContext.Json
