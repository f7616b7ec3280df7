/-
# File paths

A path is kept as it was written, and two paths are the same when they have the same components.
A repeated `/`, one at the end and a `.` that is not in front add no component.
-/
import PassContext.Text.Quoted

namespace PassContext

/-- A file path as it was written. -/
structure Path where
  text : String
deriving Repr

namespace Path

/-- A step of a path. -/
inductive Component
  /-- The root that an absolute path begins with. -/
  | root
  /-- A `.` that a relative path begins with. -/
  | here
  /-- The directory above. -/
  | parent
  /-- A named entry. -/
  | entry (name : List Char)
deriving DecidableEq, Repr

/-- The pieces of a text between the characters `/`. -/
def pieces : List Char → List (List Char)
  | [] => [[]]
  | '/' :: rest => [] :: pieces rest
  | c :: rest =>
    match pieces rest with
    | [] => [[c]]
    | piece :: others => (c :: piece) :: others

/-- The component of a piece that is not in front. -/
def component? (piece : List Char) : Option Component :=
  if piece = [] ∨ piece = ['.'] then none
  else if piece = ['.', '.'] then some .parent
  else some (.entry piece)

/-- The components of a path. -/
def components (p : Path) : List Component :=
  match pieces p.text.toList with
  | [] => []
  | first :: others =>
    let front :=
      if first = [] then (if others = [] then [] else [.root])
      else if first = ['.'] then [.here]
      else (component? first).toList
    front ++ others.filterMap component?

/-- Paths are compared by their components. -/
instance : BEq Path := ⟨fun p q => p.components == q.components⟩

/-- A path shown for inspection. -/
def shown (p : Path) : String := Text.quoted p.text

end Path

end PassContext
