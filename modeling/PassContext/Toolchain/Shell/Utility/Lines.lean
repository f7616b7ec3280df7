/-
# Programs for lines

They sort lines, join equal ones, and cut parts out of them.
-/
import PassContext.Toolchain.Shell.Utility.Options

namespace PassContext.Shell.Utility

/-! ## 1. Sorting -/

/-- The order of bytes. -/
def byteOrder (a b : Octets) : Ordering :=
  if a = b then .eq else if precedes a b then .lt else .gt

/-- A number without an exponent that a text begins with, as an integer and the count of its places
behind the point. -/
def plainNumber (o : Octets) : Int × Nat :=
  let o := o.dropWhile isBlank
  let (negative, o) := match o with
    | '-' :: rest => (true, rest)
    | o => (false, o)
  let whole := o.takeWhile Char.isDigit
  let places := match o.drop whole.length with
    | '.' :: rest => rest.takeWhile Char.isDigit
    | _ => []
  let n := Int.ofNat (valueOf 10 (whole ++ places))
  (if negative then -n else n, places.length)

/-- The order of the numbers that texts begin with. -/
def numberOrder (a b : Octets) : Ordering :=
  let (n, p) := plainNumber a
  let (m, q) := plainNumber b
  compare (n * Int.ofNat (Nat.pow 10 q)) (m * Int.ofNat (Nat.pow 10 p))

/-- Lines of which neighbours that count as equal are left out. -/
def firstsOf (equal : Octets → Octets → Bool) : List Octets → List Octets
  | a :: b :: rest =>
    if equal a b then firstsOf equal (a :: rest) else a :: firstsOf equal (b :: rest)
  | lines => lines
termination_by lines => lines.length

def sort (args : List Octets) : Act Nat :=
  let known : Known := ⟨"fnru", [("ignore-case", 'f'), ("numeric-sort", 'n'), ("reverse", 'r'),
    ("unique", 'u')], true⟩
  withOptions "sort" known 2 args fun given => do
    let told (operand : Octets) (reason : String) : Octets :=
      let what := if reason = "Is a directory" then "read failed: " else "cannot read: "
      what.toList ++ toldPlainly operand reason
    let (texts, status) ← readNamed "sort" told 2 given.operands
    if status ≠ 0 then return status
    let plain (o : Octets) : Octets := if given.has 'f' then o.map Char.toUpper else o
    let turned (o : Ordering) : Ordering := if given.has 'r' then o.swap else o
    let order (a b : Octets) : Ordering :=
      turned (if given.has 'n' then numberOrder a b else byteOrder (plain a) (plain b))
    -- Lines that count as equal are still told apart by their bytes.
    let last (a b : Octets) : Ordering := if given.has 'u' then .eq else turned (byteOrder a b)
    let lines := texts.flatMap fun (_, text) => linesOf text
    let sorted := lines.mergeSort fun a b => (order a b).then (last a b) != .gt
    printing 0 <| joinLines <|
      if given.has 'u' then firstsOf (fun a b => order a b == .eq) sorted else sorted

/-! ## 2. Equal lines -/

/-- Lines in groups of neighbours that count as equal. -/
def groupsOf (equal : Octets → Octets → Bool) : List Octets → List (List Octets)
  | [] => []
  | line :: rest =>
    match groupsOf equal rest with
    | (next :: more) :: groups =>
      if equal line next then (line :: next :: more) :: groups
      else [line] :: (next :: more) :: groups
    | groups => [line] :: groups

def uniq (args : List Octets) : Act Nat :=
  let known : Known := ⟨"cdiu", [("count", 'c'), ("repeated", 'd'), ("ignore-case", 'i'),
    ("unique", 'u')], true⟩
  withOptions "uniq" known 1 args fun given => do
    let (texts, status) ← readNamed "uniq" toldPlainly 1 (given.operands.take 1)
    if status ≠ 0 then return status
    let plain (o : Octets) : Octets := if given.has 'i' then o.map Char.toUpper else o
    let groups := groupsOf (fun a b => plain a == plain b) (texts.flatMap fun (_, t) => linesOf t)
    let groups := groups.filter fun g =>
      (!given.has 'd' || 1 < g.length) && (!given.has 'u' || g.length == 1)
    printing 0 <| joinLines <| groups.map fun g =>
      (if given.has 'c' then rightAligned 7 (decimal g.length) ++ [' '] else []) ++ g.headD []

/-! ## 3. Parts of lines -/

/-- A range of positions, which are counted from one; it may have no end. -/
abbrev PositionRange := Nat × Option Nat

/-- The range that a text between commas names. -/
def rangeOf (o : Octets) : Except Octets PositionRange := do
  let first := o.takeWhile Char.isDigit
  match o.drop first.length with
  | [] =>
    if first = [] ∨ valueOf 10 first = 0 then throw "fields are numbered from 1".toList
    return (valueOf 10 first, some (valueOf 10 first))
  | '-' :: last =>
    if !last.all Char.isDigit then throw ("invalid field value ".toList ++ quotedName last)
    if first = [] ∧ last = [] then throw "invalid range with no endpoint: -".toList
    let start := if first = [] then 1 else valueOf 10 first
    if last = [] then return (start, none)
    if valueOf 10 last < start then throw "invalid decreasing range".toList
    return (start, some (valueOf 10 last))
  | rest => throw ("invalid field value ".toList ++ quotedName rest)

/-- The entries of a list at the positions that ranges name. -/
def chosen {α : Type} (ranges : List PositionRange) (xs : List α) : List α :=
  (xs.zipIdx.filter fun (_, i) =>
    ranges.any fun (first, last) => first ≤ i + 1 && last.all (i + 1 ≤ ·)).map (·.1)

/-- What options make of one line, or why they are wrong. -/
def cutPlan (given : Given) : Except Octets (Octets → Option Octets) := do
  match given.options.filter fun o => o.1 ∈ ['b', 'c', 'f'] with
  | [] => throw "you must specify a list of bytes, characters, or fields".toList
  | _ :: _ :: _ => throw "only one list may be specified".toList
  | [(letter, list)] =>
    let ranges ← (list.splitOn ',').mapM rangeOf
    if letter ≠ 'f' then
      if given.has 'd' then
        throw "an input delimiter may be specified only when operating on fields".toList
      return fun line => some (chosen ranges line)
    match given.value? 'd' with
    | some (_ :: _ :: _) => throw "the delimiter must be a single character".toList
    | mark =>
      let mark := (mark.getD ['\t']).headD '\x00'
      return fun line =>
        if line.contains mark then some ([mark].intercalate (chosen ranges (line.splitOn mark)))
        else if given.has 's' then none else some line

def cut (args : List Octets) : Act Nat :=
  let known : Known := ⟨"b:c:f:d:s", [("bytes", 'b'), ("characters", 'c'), ("fields", 'f'),
    ("delimiter", 'd'), ("only-delimited", 's')], true⟩
  withOptions "cut" known 1 args fun given =>
    match cutPlan given with
    | .error message => failWithHelp "cut" message
    | .ok select =>
      overOperands "cut" toldPlainly given.operands fun text =>
        joinLines ((linesOf text).filterMap select)

end PassContext.Shell.Utility
