/-
# Reading words

Quoting decides which characters of a word are plain.  Nothing is special between single quotes;
between double quotes only parameters, nested scripts, arithmetic and a few escapes are, and the
same holds for arithmetic and for texts that stand in a script.  The word of a parameter between
braces is read like the text around it, but a pattern is always read as unquoted.
-/
import PassContext.Toolchain.Shell.Source

namespace PassContext.Shell

/-! ## 1. Parts, the last of them first -/

/-- Puts plain text behind parts. -/
def pushText (quoted : Bool) (text : Octets) : List Part → List Part
  | .text q before :: parts =>
    if q = quoted then .text q (before ++ text) :: parts
    else .text quoted text :: .text q before :: parts
  | parts => .text quoted text :: parts

/-- A parameter on its own. -/
def plainParam (quoted : Bool) (name : Octets) : Part := .param quoted name .value []

/-! ## 2. Parameters -/

/-- A parameter that is not a name and not a number. -/
def isSpecial (c : Char) : Bool := c ∈ ['#', '?', '$', '!', '-', '*', '@']

/-- The name of a parameter that a text begins with, if there is one. -/
def paramName (o : Octets) : Octets :=
  match o with
  | [] => []
  | c :: _ =>
    if isNameStart c then o.takeWhile isNameChar
    else if c.isDigit then o.takeWhile Char.isDigit
    else if isSpecial c then [c]
    else []

/-- The form that the operator in front of a text tells, and the length of the operator. -/
def formOf : Octets → Form × Nat
  | ':' :: '-' :: _ => (.default true, 2)
  | ':' :: '=' :: _ => (.assign true, 2)
  | ':' :: '?' :: _ => (.demand true, 2)
  | ':' :: '+' :: _ => (.alternative true, 2)
  | '-' :: _ => (.default false, 1)
  | '=' :: _ => (.assign false, 1)
  | '?' :: _ => (.demand false, 1)
  | '+' :: _ => (.alternative false, 1)
  | '#' :: '#' :: _ => (.trimStart true, 2)
  | '#' :: _ => (.trimStart false, 1)
  | '%' :: '%' :: _ => (.trimEnd true, 2)
  | '%' :: _ => (.trimEnd false, 1)
  | '\x7d' :: _ => (.value, 0)
  | _ => (.bad, 0)

/-- Whether the word behind a form is quoted, where the parameter is. -/
def Form.quotesWord (quoted : Bool) : Form → Bool
  | .trimStart _ | .trimEnd _ => false
  | _ => quoted

/-- The name of the parameter whose length is asked for, if a text behind a brace asks for one.
A number sign alone is itself a parameter. -/
def lengthOf? : Octets → Option Octets
  | '#' :: o =>
    match o with
    | c :: '\x7d' :: _ => if isSpecial c then some [c] else named o
    | o => named o
  | _ => none
where
  /-- The name or number that a text begins with. -/
  named (o : Octets) : Option Octets :=
    match o with
    | [] => none
    | c :: _ => if isNameChar c then some (paramName o) else none

/-- Reads a parameter between braces.  A character that no parameter begins with is passed over. -/
def readBraces (inner : Readers) (quoted : Bool) : Reading Part := do
  let o ← upcoming
  match lengthOf? o with
  | some name =>
    let _ ← take (name.length + 1)
    let word ← inner.word (.brace quoted)
    return .param quoted name (if word.isEmpty then .length else .bad) word
  | none =>
    let name := paramName o
    let strange := name = [] ∧ o.head? ≠ some '\x7d'
    let _ ← take (if strange then 1 else name.length)
    let (form, length) := formOf (← upcoming)
    let _ ← take length
    let word ← inner.word (.brace (form.quotesWord quoted))
    return .param quoted name (if name = [] then .bad else form) word

/-- Reads what a dollar sign begins, onto parts. -/
def readDollar (inner : Readers) (quoted : Bool) (parts : List Part) : Reading (List Part) := do
  match ← upcoming with
  | '(' :: '(' :: _ =>
    let _ ← take 2
    return .number quoted (← inner.word .parentheses) :: parts
  | '(' :: _ =>
    let _ ← take 1
    return .output quoted (← inner.statements .parenthesis) :: parts
  | '\x7b' :: _ =>
    let _ ← take 1
    return (← readBraces inner quoted) :: parts
  | o =>
    match paramName o with
    | [] => return pushText quoted ['$'] parts
    | c :: name =>
      let name := if c.isDigit then [c] else c :: name
      let _ ← take name.length
      return plainParam quoted name :: parts

/-! ## 3. Quotes -/

/-- The script between backquotes, in which a backslash may stand in front of another one, of a
dollar sign and of a backquote; and its length with the closing one. -/
def backquoted? (quoted : Bool) : Octets → Option (Octets × Nat)
  | [] => none
  | '\x60' :: _ => some ([], 1)
  | '\\' :: '\n' :: o => (backquoted? quoted o).map fun (body, n) => (body, n + 2)
  | '\\' :: c :: o =>
    let kept := if c ∈ ['\\', '\x60', '$'] ∨ (quoted ∧ c = '"') then [c] else ['\\', c]
    (backquoted? quoted o).map fun (body, n) => (kept ++ body, n + 2)
  | c :: o => (backquoted? quoted o).map fun (body, n) => (c :: body, n + 1)

/-- Reads a script between backquotes, whose lines are counted on their own. -/
def readBackquoted (inner : Readers) (quoted : Bool) : Reading Part := do
  match backquoted? quoted (← get).rest with
  | some (body, length) =>
    let body ← readInside body 1 (inner.statements .any)
    let _ ← take length
    return .output quoted body
  | none =>
    let _ ← take (← get).rest.length
    refuse "EOF in backquote substitution"

/-- Reads a text up to a single quote. -/
def readSingleQuoted : Reading Octets := do
  let text ← takeWhile (· ≠ '\'')
  if (← get).rest.isEmpty then refuse "Unterminated quoted string"
  let _ ← take 1
  return text

/-- Reads a text between double quotes onto parts.  All parameters alone may stand for no field at
all; anything else between quotes is part of one. -/
def readDoubleQuoted (inner : Readers) (parts : List Part) : Reading (List Part) := do
  let inside ← inner.word .quote
  match inside with
  | [.param true ['@'] .value word] => return .param true ['@'] .value word :: parts
  | inside => return inside.reverse ++ pushText true [] parts

/-- Whether a backslash makes a character plain in a word with this end; if not, the backslash is
plain itself. -/
def Ending.escapes (e : Ending) (c : Char) : Bool :=
  !e.quoted || c ∈ ['\\', '$', '\x60'] || (c = '"' && e ≠ .text) ||
    (c = '\x7d' && e = .brace true)

/-- Reads what a backslash begins, onto parts. -/
def readBackslash (e : Ending) (parts : List Part) : Reading (List Part) := do
  match (← get).rest with
  | [] => return pushText true ['\\'] parts
  | '\n' :: _ =>
    let _ ← take 1
    return parts
  | c :: _ =>
    let _ ← take 1
    return pushText true (if e.escapes c then [c] else ['\\', c]) parts

/-! ## 4. Words -/

/-- A character that ends a word which nothing else ends. -/
def endsWord (c : Char) : Bool :=
  c ∈ [' ', '\t', '\n', ';', '&', '|', '<', '>', '(', ')']

/-- The end of a script inside of a word. -/
def Ending.finish (e : Ending) (parts : List Part) : Reading (List Part) :=
  match e with
  | .blank | .delimiter false | .text => return parts.reverse
  | .quote | .delimiter true | .brace true => refuse "Unterminated quoted string"
  | .brace false => refuse "Missing '\x7d'"
  | .parentheses => refuse "Missing '))'"

/-- Reads the next character of a word, behind parts and inside so many parentheses. -/
def wordStep (inner : Readers) (e : Ending) (s : List Part × Nat) :
    Reading ((List Part × Nat) ⊕ List Part) := do
  let (parts, depth) := s
  let more (parts : List Part) : (List Part × Nat) ⊕ List Part := .inl (parts, depth)
  match (← get).rest with
  | [] => return .inr (← e.finish parts)
  | c :: o =>
    if e ∈ [.blank, .delimiter false] && endsWord c then return .inr parts.reverse
    let _ ← take 1
    match e, c with
    | .quote, '"' | .delimiter true, '"' | .brace _, '\x7d' => return .inr parts.reverse
    | .parentheses, ')' =>
      if 0 < depth then return .inl (pushText true [c] parts, depth - 1)
      if o.head? = some ')' then
        let _ ← take 1
        return .inr parts.reverse
      return more (pushText true [c] parts)
    | .parentheses, '(' => return .inl (pushText true [c] parts, depth + 1)
    | .delimiter quoted, '$' | .delimiter quoted, '\x60' =>
      return more (pushText quoted [c] parts)
    | .delimiter false, '"' =>
      return more ((← inner.word (.delimiter true)).reverse ++ pushText true [] parts)
    | e, c =>
      match c with
      | '\\' => return more (← readBackslash e parts)
      | '$' => return more (← readDollar inner e.quoted parts)
      | '\x60' => return more ((← readBackquoted inner e.quoted) :: parts)
      | '\'' =>
        if e.quoted then return more (pushText true [c] parts)
        return more (pushText true (← readSingleQuoted) parts)
      | '"' =>
        if e.quoted && e ≠ .brace true then return more (pushText true [c] parts)
        return more (← readDoubleQuoted inner parts)
      | c => return more (pushText e.quoted [c] parts)

/-- Reads a word up to its end. -/
def readWord (inner : Readers) (e : Ending) : Reading (List Part) :=
  repeatFrom ([], 0) (wordStep inner e)

end PassContext.Shell
