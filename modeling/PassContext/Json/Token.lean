/-
# Tokens of JSON text

Splitting a text into tokens needs no knowledge of what is nested in what.  A text that cannot be
split further ends in the token `junk`: what stands in front of it is still read, because the
first problem in the order of the text decides how reading fails.
-/
import PassContext.Json.Number
import PassContext.Json.StringLiteral

namespace PassContext.Json

/-- A token of JSON text. -/
inductive Token
  | openBracket
  | closeBracket
  | openBrace
  | closeBrace
  | comma
  | colon
  | null
  | bool (b : Bool)
  /-- A numeral; its number is missing when it is too great. -/
  | number (n : Option Number)
  /-- A string literal; its text is missing when a surrogate stands alone. -/
  | string (s : Option String)
  /-- The text from here on has no tokens. -/
  | junk
deriving DecidableEq, Repr

/-- White space between tokens. -/
def isSpace (c : Char) : Bool := c == ' ' || c == '\n' || c == '\t' || c == '\r'

/-- What follows the given characters, if a text begins with them. -/
def after? : List Char → List Char → Option (List Char)
  | [], cs => some cs
  | _ :: _, [] => none
  | w :: ws, c :: cs => if w = c then after? ws cs else none

theorem length_after? {ws cs rest} (h : after? ws cs = some rest) : rest.length ≤ cs.length := by
  induction ws generalizing cs with
  | nil => simp [after?] at h; simp [h]
  | cons w ws ih =>
    cases cs with
    | nil => simp [after?] at h
    | cons c cs =>
      simp only [after?] at h
      split at h
      · exact Nat.le_succ_of_le (ih h)
      · contradiction

/-- The token that a punctuation character is. -/
def punctuation? (c : Char) : Option Token :=
  if c = '[' then some .openBracket
  else if c = ']' then some .closeBracket
  else if c = '\x7b' then some .openBrace
  else if c = '\x7d' then some .closeBrace
  else if c = ',' then some .comma
  else if c = ':' then some .colon
  else none

/-- The literal word that begins with `c`, and what follows it. -/
def literalWord? (c : Char) (rest : List Char) : Option (Token × List Char) :=
  if c = 'n' then (after? ['u', 'l', 'l'] rest).map fun rest => (.null, rest)
  else if c = 't' then (after? ['r', 'u', 'e'] rest).map fun rest => (.bool true, rest)
  else if c = 'f' then (after? ['a', 'l', 's', 'e'] rest).map fun rest => (.bool false, rest)
  else none

theorem length_literalWord? {c cs t rest} (h : literalWord? c cs = some (t, rest)) :
    rest.length ≤ cs.length := by
  have key : ∀ {ws : List Char} {t' : Token},
      (after? ws cs).map (fun r => (t', r)) = some (t, rest) → rest.length ≤ cs.length := by
    intro ws t' h
    simp only [Option.map_eq_some_iff, Prod.mk.injEq] at h
    obtain ⟨r, hr, _, rfl⟩ := h
    exact length_after? hr
  unfold literalWord? at h
  split at h
  · exact key h
  split at h
  · exact key h
  split at h
  · exact key h
  · contradiction

/-- The numeral that begins with `c`, and what follows it. -/
def number? (c : Char) (rest : List Char) : Option (Token × List Char) :=
  (if c = '-' then numeral? true rest else numeral? false (c :: rest)).map
    fun (n, rest) => (.number n.number?, rest)

theorem length_number? {c cs t rest} (h : number? c cs = some (t, rest)) :
    rest.length ≤ cs.length := by
  unfold number? at h
  simp only [Option.map_eq_some_iff, Prod.mk.injEq] at h
  obtain ⟨⟨n, r⟩, hn, _, rfl⟩ := h
  split at hn
  · exact Nat.le_of_lt (length_numeral? hn)
  · exact Nat.le_of_lt_succ (length_numeral? hn)

/-- The string literal that begins with `c`, and what follows it. -/
def string? (c : Char) (rest : List Char) : Option (Token × List Char) :=
  if c = '"' then (stringLiteral? rest).map fun (s, rest) => (.string s, rest) else none

theorem length_string? {c cs t rest} (h : string? c cs = some (t, rest)) :
    rest.length ≤ cs.length := by
  unfold string? at h
  split at h
  · simp only [Option.map_eq_some_iff, Prod.mk.injEq] at h
    obtain ⟨⟨s, r⟩, hs, _, rfl⟩ := h
    exact Nat.le_of_lt (length_stringLiteral? hs)
  · contradiction

/-- The token that begins with `c`, and what follows it. -/
def token? (c : Char) (rest : List Char) : Option (Token × List Char) :=
  ((punctuation? c).map fun t => (t, rest)) <|> string? c rest <|> literalWord? c rest <|>
    number? c rest

theorem length_token? {c cs t rest} (h : token? c cs = some (t, rest)) :
    rest.length ≤ cs.length := by
  simp only [token?, Option.orElse_eq_orElse, Option.orElse_eq_or, Option.or_eq_some_iff,
    Option.map_eq_some_iff, Prod.mk.injEq] at h
  rcases h with ⟨_, _, _, rfl⟩ | ⟨_, h | ⟨_, h | ⟨_, h⟩⟩⟩
  · exact Nat.le_refl _
  · exact length_string? h
  · exact length_literalWord? h
  · exact length_number? h

/-- The tokens of a text. -/
def tokens : List Char → List Token
  | [] => []
  | c :: rest =>
    if isSpace c then tokens rest
    else
      match _h : token? c rest with
      | none => [.junk]
      | some (t, after) => t :: tokens after
termination_by cs => cs.length
decreasing_by
  · simp
  · exact Nat.lt_succ_of_le (length_token? (by assumption))

@[simp] theorem tokens_nil : tokens [] = [] := by rw [tokens]

theorem tokens_space {c : Char} (rest : List Char) (h : isSpace c = true) :
    tokens (c :: rest) = tokens rest := by rw [tokens, if_pos h]

theorem tokens_some {c : Char} {rest after : List Char} {t : Token} (hs : isSpace c = false)
    (h : token? c rest = some (t, after)) : tokens (c :: rest) = t :: tokens after := by
  rw [tokens, if_neg (by simp [hs])]
  split
  · simp_all
  · simp_all

end PassContext.Json
