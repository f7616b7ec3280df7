/-
# The text of a script while it is read

Reading takes characters off the front of a script and counts the lines, because messages tell
them.  What has been read may be refused with a message.

Nesting is read through `Readers`: what is read inside of something else is read by readers that
may nest one level less, and the length of a script bounds how deep it can nest.

Another text may be known for a word where a command may begin.  It is then read in place of the
word, and while it is being read the word stands for itself.
-/
import PassContext.Toolchain.Shell.Tree

namespace PassContext.Shell

/-! ## 1. Tokens -/

/-- A token of a script. -/
inductive Token
  | word (parts : List Part)
  /-- A redirection, with the descriptor that stands in front of it. -/
  | redirect (descriptor : Option Nat) (sign : String)
  /-- An operator or a reserved word. -/
  | mark (text : String)
  | newline
  | finish

/-- The name of a token in messages. -/
def Token.shown : Token → String
  | .word _ => "word"
  | .redirect _ _ => "redirection"
  | .mark text => "\"" ++ text ++ "\""
  | .newline => "newline"
  | .finish => "end of file"

/-- The words that are reserved where a statement may begin. -/
def reservedWords : List String :=
  ["!", "case", "do", "done", "elif", "else", "esac", "fi", "for", "if", "in", "then", "until",
   "while", "\x7b", "\x7d"]

/-- A token where words are reserved; quoting makes a plain word of a reserved one. -/
def Token.reserved : Token → Token
  | .word [.text false text] =>
    match reservedWords.find? (·.toList == text) with
    | some reservedWord => .mark reservedWord
    | none => .word [.text false text]
  | t => t

/-- Whether a token ends the statements in front of it. -/
def Token.closes : Token → Bool
  | .finish => true
  | .mark text =>
    text ∈ [")", ";;", "do", "done", "elif", "else", "esac", "fi", "then", "\x7d"]
  | _ => false

/-! ## 2. Reading -/

/-- A text that is being read in place of a word. -/
structure Replacement where
  name : Octets
  /-- How much of the script is left behind the text. -/
  behind : Nat
  /-- Whether the text ends in a blank, behind which a command may begin, too. -/
  endsInBlank : Bool

/-- What is left of a script. -/
structure Source where
  rest : Octets
  line : Nat
  /-- So many lines were taken out behind the current one. -/
  takenLines : Nat
  /-- A token that was read too early. -/
  pending : Option Token
  /-- The texts that are known for words. -/
  aliases : List (Octets × Octets)
  /-- The texts that are being read, the innermost first. -/
  replacements : List Replacement

def Source.ofText (text : Octets) (line : Nat) (aliases : List (Octets × Octets)) : Source :=
  ⟨text, line, 0, none, aliases, []⟩

/-- Why a script is refused, and where. -/
structure SyntaxFault where
  line : Nat
  message : String
deriving DecidableEq, Repr

/-- A step of reading. -/
abbrev Reading := EStateM SyntaxFault Source

/-- Refuses the script. -/
def refuse {α : Type} (message : String) : Reading α := do
  throw ⟨(← get).line, "Syntax error: " ++ message⟩

/-- Refuses a token, naming the one that is due. -/
def unexpected {α : Type} (t : Token) (due : Option String) : Reading α :=
  match due with
  | some text =>
    refuse (t.shown ++ " unexpected (expecting " ++ (Token.mark text).shown ++ ")")
  | none => refuse (t.shown ++ " unexpected")

/-- Takes characters off the front. -/
def take (count : Nat) : Reading Octets :=
  modifyGet fun s =>
    let front := s.rest.take count
    let lines := front.count '\n'
    let rest := s.rest.drop count
    if lines = 0 then (front, { s with rest })
    else (front, { s with rest, line := s.line + lines + s.takenLines, takenLines := 0 })

/-- Takes the characters off the front that pass a test. -/
def takeWhile (p : Char → Bool) : Reading Octets := do
  take ((← get).rest.takeWhile p).length

/-- What is left of the script, behind line breaks that a backslash hides. -/
def upcoming : Reading Octets := do
  let s ← get
  let hidden := pairs s.rest
  let _ ← take (2 * hidden)
  return s.rest.drop (2 * hidden)
where
  /-- How many hidden line breaks a text begins with. -/
  pairs : Octets → Nat
    | '\\' :: '\n' :: rest => pairs rest + 1
    | _ => 0

/-- Puts a token back. -/
def putBack (t : Token) : Reading Unit := modify fun s => { s with pending := some t }

/-- Reads another text, whose lines are counted from a line on. -/
def readInside {α : Type} (text : Octets) (line : Nat) (reading : Reading α) : Reading α := do
  let s ← get
  let around := s.replacements.map fun r => { r with behind := 0, endsInBlank := false }
  set { Source.ofText text line s.aliases with replacements := around }
  let a ← reading
  set s
  return a

/-- Repeats a step until it gives a result, at most `bound` times. -/
def repeatStep {σ α : Type} (step : σ → Reading (σ ⊕ α)) : Nat → σ → Reading α
  | 0, _ => refuse "end of file unexpected"
  | bound + 1, s => do
    match ← step s with
    | .inl s => repeatStep step bound s
    | .inr a => return a

/-- How many characters are read at most, with the texts that stand for words. -/
def Source.bound (s : Source) : Nat :=
  s.rest.length + 2 + (if s.aliases.isEmpty then 0 else 1000000)

/-- Repeats a step, which takes a character each time, until it gives a result. -/
def repeatFrom {σ α : Type} (s : σ) (step : σ → Reading (σ ⊕ α)) : Reading α := do
  repeatStep step (← get).bound s

/-! ## 3. Nesting -/

/-- Where a word ends. -/
inductive Ending
  /-- In front of a blank or an operator. -/
  | blank
  /-- Behind a double quote. -/
  | quote
  /-- In front of a blank or an operator, or behind a double quote; nothing in the word stands for
  something else. -/
  | delimiter (quoted : Bool)
  /-- Behind a brace; the word may stand between double quotes. -/
  | brace (quoted : Bool)
  /-- Behind two parentheses. -/
  | parentheses
  /-- At the end of the text. -/
  | text
deriving DecidableEq, Repr

/-- Whether a word with this end is quoted. -/
def Ending.quoted : Ending → Bool
  | .blank | .delimiter false | .brace false => false
  | _ => true

/-- How far statements reach. -/
inductive Extent
  /-- To the end of the line. -/
  | line
  /-- To a token that closes them; there is at least one. -/
  | block
  /-- To a token that closes them. -/
  | any
  /-- To a closing parenthesis, which is taken. -/
  | parenthesis
deriving DecidableEq, Repr

/-- Readers for what stands inside of something else. -/
structure Readers where
  word : Ending → Reading (List Part)
  statements : Extent → Reading Statement
  /-- Reads a statement, behind newlines. -/
  statement : Reading Statement

end PassContext.Shell
