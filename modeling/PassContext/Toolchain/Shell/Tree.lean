/-
# Scripts as trees

A script is made of statements, and a statement of words, redirections and other statements.  A
word keeps what stands for something else apart from its plain text, because it is expanded only
when its statement runs.
-/
import PassContext.Toolchain.Shell.Octets

namespace PassContext.Shell

/-! ## 1. Parameters and redirections -/

/-- What a parameter between braces stands for.  The forms with a condition ask whether the
parameter is set; with `orEmpty`, an empty one counts as not set. -/
inductive Form
  | value
  /-- The length of the value. -/
  | length
  /-- The word, unless the parameter is set. -/
  | default (orEmpty : Bool)
  /-- The word, which becomes the value, unless the parameter is set. -/
  | assign (orEmpty : Bool)
  /-- The end of the script with the word as a message, unless the parameter is set. -/
  | demand (orEmpty : Bool)
  /-- The word, if the parameter is set. -/
  | alternative (orEmpty : Bool)
  /-- The value without what the pattern matches at its start. -/
  | trimStart (longest : Bool)
  /-- The value without what the pattern matches at its end. -/
  | trimEnd (longest : Bool)
  /-- Not a form at all. -/
  | bad
deriving DecidableEq, Repr

/-- How a file is opened. -/
inductive Access
  | read
  | write
  /-- For writing, even where files are to be kept. -/
  | overwrite
  | append
  | readWrite
deriving DecidableEq, Repr

/-! ## 2. Statements -/

mutual

/-- A part of a word; what is quoted is neither split nor read as a pattern. -/
inductive Part
  | text (quoted : Bool) (text : Octets)
  | param (quoted : Bool) (name : Octets) (form : Form) (word : List Part)
  /-- What a statement prints. -/
  | output (quoted : Bool) (body : Statement)
  /-- The value of an arithmetic expression. -/
  | number (quoted : Bool) (expression : List Part)

/-- A change of where a descriptor leads. -/
inductive Redirect
  | file (descriptor : Nat) (access : Access) (name : List Part)
  /-- Where the descriptor that the word names leads; a dash closes it. -/
  | copy (descriptor : Nat) (source : List Part)
  /-- A text that stands in the script. -/
  | here (descriptor : Nat) (text : List Part)

/-- A statement, with its line where messages tell it. -/
inductive Statement
  /-- Assignments, words and redirections; the first word is the command. -/
  | simple (line : Nat) (sets : List (Octets × List Part)) (words : List (List Part))
      (redirects : List Redirect)
  | sequence (parts : List Statement)
  | negation (body : Statement)
  | pipeline (parts : List Statement)
  | andThen (first second : Statement)
  | orElse (first second : Statement)
  | background (body : Statement)
  | subshell (line : Nat) (body : Statement)
  | redirected (line : Nat) (body : Statement) (redirects : List Redirect)
  | choice (test body otherwise : Statement)
  /-- Runs the body as long as the test succeeds, or as long as it fails. -/
  | loop (whileFails : Bool) (test body : Statement)
  /-- Runs the body for each field of the words. -/
  | each (line : Nat) (name : Octets) (words : List (List Part)) (body : Statement)
  /-- Runs the body beside the first pattern that matches the word. -/
  | select (line : Nat) (word : List Part) (cases : List (List (List Part) × Statement))
  | define (name : Octets) (body : Statement)

end

/-- The statement that does nothing. -/
def Statement.nothing : Statement := .sequence []

/-- Statements one after the other. -/
def Statement.ofList : List Statement → Statement
  | [s] => s
  | ss => .sequence ss

instance : Inhabited Statement := ⟨.nothing⟩

end PassContext.Shell
