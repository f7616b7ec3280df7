/-
# String literals in JSON text

Behind the opening quote stand pieces up to the closing one: plain characters, characters named
by a short escape, and UTF-16 units named by four hexadecimal digits.  The outline of a literal is
sound when every escape has a known form; its text exists when, besides, each unit that is half
of a surrogate pair has its other half next to it.
-/

namespace PassContext.Json

/-! ## 1. Pieces -/

/-- What one character or escape of a string literal contributes. -/
inductive Piece
  | char (c : Char)
  /-- A UTF-16 unit. -/
  | unit (u : Nat)
deriving DecidableEq, Repr

/-- The value of a hexadecimal digit of either case. -/
def hexValue? (c : Char) : Option Nat :=
  if '0' ≤ c ∧ c ≤ '9' then some (c.toNat - 0x30)
  else if 'a' ≤ c ∧ c ≤ 'f' then some (c.toNat - 0x57)
  else if 'A' ≤ c ∧ c ≤ 'F' then some (c.toNat - 0x37)
  else none

/-- The unit that four hexadecimal digits name. -/
def unit? (a b c d : Char) : Option Nat := do
  let a ← hexValue? a
  let b ← hexValue? b
  let c ← hexValue? c
  let d ← hexValue? d
  return ((a * 16 + b) * 16 + c) * 16 + d

/-- The character that a short escape names. -/
def shortEscape? (c : Char) : Option Char :=
  if c = '"' ∨ c = '\\' ∨ c = '/' then some c
  else if c = 'b' then some '\x08'
  else if c = 'f' then some '\x0c'
  else if c = 'n' then some '\n'
  else if c = 'r' then some '\r'
  else if c = 't' then some '\t'
  else none

/-- The pieces up to the closing quote, and what follows it; nothing where the outline of the
literal is not sound. -/
def pieces? : List Char → Option (List Piece × List Char)
  | [] => none
  | '"' :: rest => some ([], rest)
  | '\\' :: 'u' :: a :: b :: c :: d :: rest => do
    let u ← unit? a b c d
    let (pieces, after) ← pieces? rest
    return (.unit u :: pieces, after)
  | '\\' :: c :: rest => do
    let c ← shortEscape? c
    let (pieces, after) ← pieces? rest
    return (.char c :: pieces, after)
  | c :: rest =>
    if c = '\\' ∨ c.toNat < 0x20 then none
    else do
      let (pieces, after) ← pieces? rest
      return (.char c :: pieces, after)

theorem length_pieces? {cs ps rest} (h : pieces? cs = some (ps, rest)) :
    rest.length < cs.length := by
  fun_induction pieces? cs generalizing ps rest with
  | case1 => contradiction
  | case2 r => simp at h; simp [h.2]
  | case3 a b c d r ih =>
    simp only [Option.bind_eq_bind, Option.bind_eq_some_iff, Prod.exists, Option.pure_def,
      Option.some.injEq, Prod.mk.injEq] at h
    obtain ⟨u, _, qs, after, hr, _, rfl⟩ := h
    have := ih hr
    simp only [List.length_cons]
    omega
  | case4 c r _ ih =>
    simp only [Option.bind_eq_bind, Option.bind_eq_some_iff, Prod.exists, Option.pure_def,
      Option.some.injEq, Prod.mk.injEq] at h
    obtain ⟨u, _, qs, after, hr, _, rfl⟩ := h
    have := ih hr
    simp only [List.length_cons]
    omega
  | case5 => contradiction
  | case6 c r _ _ _ _ ih =>
    simp only [Option.bind_eq_bind, Option.bind_eq_some_iff, Prod.exists, Option.pure_def,
      Option.some.injEq, Prod.mk.injEq] at h
    obtain ⟨qs, after, hr, _, rfl⟩ := h
    have := ih hr
    simp only [List.length_cons]
    omega

/-! ## 2. Surrogate pairs -/

def isHighSurrogate (u : Nat) : Bool := 0xD800 ≤ u && u ≤ 0xDBFF

def isLowSurrogate (u : Nat) : Bool := 0xDC00 ≤ u && u ≤ 0xDFFF

/-- The code point that a surrogate pair names. -/
def pairedCodePoint (high low : Nat) : Nat := 0x10000 + (high - 0xD800) * 0x400 + (low - 0xDC00)

/-- The characters that the pieces name, if every surrogate is half of a pair. -/
def joinPieces? : List Piece → Option (List Char)
  | [] => some []
  | .char c :: rest => (joinPieces? rest).map (c :: ·)
  | .unit high :: .unit low :: rest =>
    if isHighSurrogate high then
      if isLowSurrogate low then
        (joinPieces? rest).map (Char.ofNat (pairedCodePoint high low) :: ·)
      else none
    else if isLowSurrogate high then none
    else (joinPieces? (.unit low :: rest)).map (Char.ofNat high :: ·)
  | .unit u :: rest =>
    if isHighSurrogate u || isLowSurrogate u then none
    else (joinPieces? rest).map (Char.ofNat u :: ·)

/-- The literal behind an opening quote: its text, which is missing when a surrogate stands
alone, and what follows it. -/
def stringLiteral? (cs : List Char) : Option (Option String × List Char) :=
  (pieces? cs).map fun (pieces, rest) => ((joinPieces? pieces).map .ofList, rest)

theorem length_stringLiteral? {cs s rest} (h : stringLiteral? cs = some (s, rest)) :
    rest.length < cs.length := by
  unfold stringLiteral? at h
  simp only [Option.map_eq_some_iff, Prod.mk.injEq] at h
  obtain ⟨⟨ps, r⟩, hp, _, rfl⟩ := h
  exact length_pieces? hp

end PassContext.Json
