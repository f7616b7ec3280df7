/-
# Patterns of paths

A field with stars, question marks or brackets that are not quoted stands for the paths that it
matches, in order; if it matches none, it stands for itself.  Each name in a path is matched on its
own, so that no star reaches over a slash, and a name that begins with a dot has to be asked for by
a dot.
-/
import PassContext.Toolchain.Shell.Paths
import PassContext.Toolchain.Shell.Pattern

namespace PassContext.Shell

/-! ## 1. What is matched -/

/-- The text of a pattern that stands for itself. -/
def patternText (pattern : List PatternChar) : Octets := pattern.map (·.char)

/-- Whether brackets are closed in a pattern behind the opening one; there is at least one
character between them. -/
def closesBrackets : List PatternChar → Bool
  | [] => false
  | _ :: ⟨false, ']'⟩ :: _ => true
  | _ :: cs => closesBrackets cs

/-- Whether a pattern of a name may stand for other names. -/
def isOpen : List PatternChar → Bool
  | [] => false
  | c :: cs =>
    c = ⟨false, '*'⟩ || c = ⟨false, '?'⟩ ||
      (c = ⟨false, '['⟩ && closesBrackets (if cs.head? = some ⟨false, '!'⟩ then cs.tail else cs)) ||
      isOpen cs

/-- The names in a directory that a pattern of a name matches. -/
def matchingNames (fs : Files) (directory : Octets) (pattern : List PatternChar) : List Octets :=
  let dots : List Octets := [['.'], ['.', '.']]
  let asksForDot := pattern.head?.any fun c => c.char = '.'
  (dots ++ namesIn fs directory).filter fun name =>
    (name.head? ≠ some '.' || asksForDot) && patternMatches pattern name

/-! ## 2. Paths -/

/-- Splits a pattern of a path into its names. -/
def patternNames (pattern : List PatternChar) : List (List PatternChar) :=
  pattern.splitOnP fun c => c.char = '/'

/-- The paths that begin with a text and go on with names that patterns match. -/
def matchingPaths (fs : Files) (directory : Octets) : Octets → List (List PatternChar) → List Octets
  | _, [] => []
  | front, [name] =>
    if isOpen name then
      match placeOf fs true directory (if front = [] then ['.'] else front) with
      | .directory path => (matchingNames fs path name).map (front ++ ·)
      | _ => []
    else
      let path := front ++ patternText name
      if (placeOf fs false directory path).isThere then [path] else []
  | front, name :: names =>
    if isOpen name then
      match placeOf fs true directory (if front = [] then ['.'] else front) with
      | .directory path =>
        (matchingNames fs path name).flatMap fun found =>
          matchingPaths fs directory (front ++ found ++ ['/']) names
      | _ => []
    else matchingPaths fs directory (front ++ patternText name ++ ['/']) names

/-- The paths that a field stands for. -/
def pathsOf (pattern : List PatternChar) : Act (List Octets) := do
  let marks := pattern.any fun c => !c.quoted && c.char ∈ ['*', '?', '[']
  if !marks || (← process).options.contains 'f' then return [patternText pattern]
  let s ← get
  let names := patternNames (withQuotes pattern)
  if !names.any isOpen then return [patternText pattern]
  match matchingPaths s.files s.process.directory [] names with
  | [] => return [patternText pattern]
  | paths => return paths.mergeSort precedes

end PassContext.Shell
