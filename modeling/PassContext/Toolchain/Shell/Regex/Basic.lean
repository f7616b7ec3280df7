/-
# Regular expressions

An expression matches pieces of a text.  Of all its matches the one counts that begins first, and
of those that begin there the longest one; and within it, what stands further left in the
expression matches as much as it can.  Where groups of the expression matched is remembered, and a
later part of the expression may ask for the same text again.

Matching gives all ends that a match can have from a place on, the greatest first, each of them
once.  An expression that is repeated is matched from right to left: from each place the ends are
those of the repetition from the ends of one turn.
-/
import PassContext.Toolchain.Shell.Pattern

namespace PassContext.Shell

/-! ## 1. Expressions -/

/-- A place in a text that an expression may ask for. -/
inductive Edge
  | textStart
  | textEnd
  | wordStart
  | wordEnd
  /-- Either edge of a word. -/
  | word
  /-- No edge of a word. -/
  | notWord
  /-- No character of words stands in front. -/
  | noWordBefore
  /-- No character of words stands behind. -/
  | noWordBehind
deriving DecidableEq, Repr

/-- A regular expression. -/
inductive Regex
  | empty
  | any
  | char (c : Char)
  | oneOf (listed : List Listed) (negated : Bool)
  | edge (e : Edge)
  | seq (first second : Regex)
  | alt (first second : Regex)
  /-- At least so many turns, and at most so many if there is a bound. -/
  | many (body : Regex) (least : Nat) (most : Option Nat)
  | group (number : Nat) (body : Regex)
  /-- The text that a group has matched. -/
  | back (number : Nat)
deriving Repr

/-- Expressions one after the other. -/
def Regex.ofList : List Regex → Regex
  | [] => .empty
  | [r] => r
  | r :: rs => .seq r (.ofList rs)

/-- Whether an expression asks for what a group has matched. -/
def Regex.looksBack : Regex → Bool
  | .back _ => true
  | .seq a b | .alt a b => a.looksBack || b.looksBack
  | .many a _ _ | .group _ a => a.looksBack
  | _ => false

/-! ## 2. Texts and matches -/

/-- A text in which something is looked for, and how. -/
structure Haystack where
  text : Array Char
  /-- Whether letters match in either case. -/
  foldsCase : Bool

/-- Where groups have matched: the start and the end of each of them. -/
abbrev Captures := Array (Option (Nat × Nat))

/-- An end of a match, and the groups in it. -/
abbrev MatchEnd := Nat × Captures

/-- A character of words. -/
def isWordChar (c : Char) : Bool := c.isAlphanum || c == '_'

/-- The other case of a letter. -/
def otherCase (c : Char) : Char := if c.isUpper then c.toLower else c.toUpper

/-- Whether a listed entry holds a character. -/
def Listed.includes (c : Char) : Listed → Bool
  | .range first last => first ≤ c && c ≤ last
  | .class name => inClass name c

namespace Haystack

/-- Whether a test holds of a character, or of its other case where cases do not matter. -/
def accepts (h : Haystack) (test : Char → Bool) (c : Char) : Bool :=
  test c || (h.foldsCase && test (otherCase c))

/-- Whether a character of words stands in front of a place. -/
def wordBefore (h : Haystack) (i : Nat) : Bool :=
  0 < i && (h.text[i - 1]?).any isWordChar

/-- Whether a character of words stands behind a place. -/
def wordBehind (h : Haystack) (i : Nat) : Bool := (h.text[i]?).any isWordChar

/-- Whether a place is what an edge asks for. -/
def isAt (h : Haystack) (i : Nat) : Edge → Bool
  | .textStart => i = 0
  | .textEnd => i = h.text.size
  | .wordStart => !h.wordBefore i && h.wordBehind i
  | .wordEnd => h.wordBefore i && !h.wordBehind i
  | .word => h.wordBefore i != h.wordBehind i
  | .notWord => h.wordBefore i == h.wordBehind i
  | .noWordBefore => !h.wordBefore i
  | .noWordBehind => !h.wordBehind i

end Haystack

/-! ## 3. Ends -/

/-- The test that an expression for one character makes, if it is one. -/
def Haystack.test? (h : Haystack) : Regex → Option (Char → Bool)
  | .any => some fun _ => true
  | .char d => some (h.accepts (· == d))
  | .oneOf listed negated => some fun c =>
    h.accepts (fun c => listed.any (·.includes c)) c != negated
  | _ => none

/-- Ends in order, the greatest first; of equal ones the first stays, unless groups matter. -/
def ordered (groupsMatter : Bool) (ends : List MatchEnd) : List MatchEnd :=
  match ends with
  | [] | [_] => ends
  | ends =>
    let sorted := ends.mergeSort fun a b => b.1 ≤ a.1
    if groupsMatter then sorted.eraseDups else keepFirsts none sorted
where
  /-- Of neighbours with equal ends the first. -/
  keepFirsts : Option Nat → List MatchEnd → List MatchEnd
    | _, [] => []
    | before, e :: rest =>
      if before = some e.1 then keepFirsts before rest else e :: keepFirsts (some e.1) rest

/-- The groups that have matched last. -/
def Captures.updated (before later : Captures) : Captures :=
  Array.zipWith (fun b l => l <|> b) before later

/-- How many characters from a place on pass a test, at most so many. -/
def runLength (text : Array Char) (test : Char → Bool) : Nat → Nat → Nat
  | 0, _ => 0
  | bound + 1, i =>
    match text[i]? with
    | some c => if test c then runLength text test bound (i + 1) + 1 else 0
    | none => 0

/-- The ends of any number of turns from each place of a text on, the last place first in the
computation; `turn` gives the ends of one turn. -/
def closures (size : Nat) (blank : Captures) (turn : Nat → List MatchEnd) :
    Array (List MatchEnd) :=
  let start : Array (List MatchEnd) := Array.replicate (size + 1) []
  (List.range (size + 1)).foldl (fun table back =>
    let i := size - back
    let further := (turn i).flatMap fun (j, groups) =>
      if i < j then
        (table[j]?.getD []).map fun (k, later) => (k, groups.updated later)
      else []
    table.set! i (ordered false (further ++ [(i, blank)]))) start

/-- The ends after at most so many further turns, which are bounded or lead on to new places. -/
def turns (groupsMatter : Bool) (turn : Nat → Captures → List MatchEnd) :
    Nat → Nat → Captures → List MatchEnd
  | 0, i, groups => [(i, groups)]
  | bound + 1, i, groups =>
    let further := (turn i groups).flatMap fun (j, groups) =>
      if i < j then turns groupsMatter turn bound j groups else []
    ordered groupsMatter (further ++ [(i, groups)])

/-- The ends after exactly so many turns. -/
def exactly (groupsMatter : Bool) (turn : Nat → Captures → List MatchEnd) :
    Nat → List MatchEnd → List MatchEnd
  | 0, ends => ends
  | count + 1, ends =>
    exactly groupsMatter turn count
      (ordered groupsMatter (ends.flatMap fun (i, groups) => turn i groups))

/-- The ends of matches from a place on. -/
def Regex.endsFrom (h : Haystack) (groupsMatter : Bool) :
    Regex → Nat → Captures → List MatchEnd
  | .empty, i, groups => [(i, groups)]
  | .any, i, groups => oneChar .any i groups
  | .char d, i, groups => oneChar (.char d) i groups
  | .oneOf listed negated, i, groups => oneChar (.oneOf listed negated) i groups
  | .edge e, i, groups => if h.isAt i e then [(i, groups)] else []
  | .seq a b, i, groups =>
    match a.endsFrom h groupsMatter i groups with
    | [(j, groups)] => b.endsFrom h groupsMatter j groups
    | ends =>
      ordered groupsMatter (ends.flatMap fun (j, groups) => b.endsFrom h groupsMatter j groups)
  | .alt a b, i, groups =>
    ordered groupsMatter (a.endsFrom h groupsMatter i groups ++ b.endsFrom h groupsMatter i groups)
  | .group number body, i, groups =>
    (body.endsFrom h groupsMatter i groups).map fun (j, groups) =>
      (j, groups.set! number (some (i, j)))
  | .back number, i, groups =>
    match (groups[number]?).join with
    | none => []
    | some (start, stop) =>
      let matched := (List.range (stop - start)).all fun k =>
        match h.text[start + k]?, h.text[i + k]? with
        | some c, some d => h.accepts (· == c) d
        | _, _ => false
      if matched then [(i + (stop - start), groups)] else []
  | .many body least most, i, groups =>
    let extra := most.map (· - least)
    match h.test? body with
    | some test =>
      let most := most.getD h.text.size
      let length := runLength h.text test most i
      if length < least then []
      else (List.range (length + 1 - least)).map fun k => (i + (length - k), groups)
    | none =>
      let turn := fun i groups => body.endsFrom h groupsMatter i groups
      let starts := exactly groupsMatter turn least [(i, groups)]
      match extra, groupsMatter with
      | none, false =>
        let blank : Captures := groups.map fun _ => none
        let table := closures h.text.size blank fun i => turn i blank
        ordered false <| starts.flatMap fun (j, groups) =>
          (table[j]?.getD []).map fun (k, later) => (k, groups.updated later)
      | extra, groupsMatter =>
        let bound := extra.getD (h.text.size + 1)
        ordered groupsMatter <| starts.flatMap fun (j, groups) =>
          turns groupsMatter turn bound j groups
where
  /-- The end behind one character, if it passes the test of an expression. -/
  oneChar (r : Regex) (i : Nat) (groups : Captures) : List MatchEnd :=
    match h.text[i]?, h.test? r with
    | some c, some test => if test c then [(i + 1, groups)] else []
    | _, _ => []

/-! ## 4. Looking for matches -/

/-- A compiled expression: how many groups it has, and whether it looks back at them. -/
structure Finder where
  regex : Regex
  groups : Nat
  looksBack : Bool
  foldsCase : Bool

/-- The first match at or behind a place, of the places that are left. -/
def firstMatch (h : Haystack) (f : Finder) : Nat → Nat → Option (Nat × Nat × Captures)
  | 0, _ => none
  | bound + 1, i =>
    match f.regex.endsFrom h f.looksBack i (Array.replicate (f.groups + 1) none) with
    | (j, groups) :: _ => some (i, j, groups)
    | [] => firstMatch h f bound (i + 1)

/-- The first match in a text at or behind a place: where it begins and ends, and its groups. -/
def Finder.find? (f : Finder) (text : Array Char) (start : Nat) :
    Option (Nat × Nat × Captures) :=
  firstMatch ⟨text, f.foldsCase⟩ f (text.size + 1 - start) start

/-- The longest match that begins at a place. -/
def Finder.matchAt? (f : Finder) (text : Array Char) (start : Nat) : Option (Nat × Captures) :=
  (f.regex.endsFrom ⟨text, f.foldsCase⟩ f.looksBack start
    (Array.replicate (f.groups + 1) none)).head?

/-- What a match or a group in it holds. -/
def pieceOf (text : Array Char) (range : Option (Nat × Nat)) : Octets :=
  match range with
  | some (start, stop) => (text.extract start stop).toList
  | none => []

end PassContext.Shell
