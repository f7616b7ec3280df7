/-
# Reading statements

A script is read a line at a time, and a line is run before the next one is read; so a script that
is refused may have printed before.  Statements that enclose others go on to their last line.

A refused token is named together with the one that is due.
-/
import PassContext.Toolchain.Shell.Word

namespace PassContext.Shell

/-! ## 1. Tokens -/

/-- The signs of redirections; one that another one begins with stands behind it. -/
def redirectSigns : List String := ["<<-", "<<", "<&", "<>", "<", ">>", ">&", ">|", ">"]

/-- The operators; one that another one begins with stands behind it. -/
def operators : List String := ["&&", "&", "||", "|", ";;", ";", "(", ")"]

/-- The first of some texts that another text begins with. -/
def frontOf? (texts : List String) (o : Octets) : Option String :=
  texts.find? fun text => text.toList.isPrefixOf o

/-- Passes over blanks, hidden line breaks and a comment. -/
def skipBlanks : Reading Unit :=
  repeatFrom () fun _ => do
    match ← upcoming with
    | c :: _ =>
      if isBlank c then
        let _ ← take 1
        return .inl ()
      if c = '#' then
        let _ ← takeWhile (· ≠ '\n')
      return .inr ()
    | [] => return .inr ()

/-- Reads a token from the text, in which words have an end of some kind. -/
def scan (inner : Readers) (ending : Ending) : Reading Token := do
  skipBlanks
  let o := (← get).rest
  match o, frontOf? operators o, frontOf? redirectSigns o with
  | [], _, _ => return .finish
  | '\n' :: _, _, _ =>
    let _ ← take 1
    return .newline
  | _, some text, _ =>
    let _ ← take text.length
    return .mark text
  | _, none, some sign =>
    let _ ← take sign.length
    return .redirect none sign
  | _, none, none =>
    let word ← inner.word ending
    match word, frontOf? redirectSigns (← get).rest with
    | [.text false [c]], some sign =>
      if c.isDigit then
        let _ ← take sign.length
        return .redirect (digitValue? c) sign
      return .word word
    | word, _ => return .word word

/-- What is seen in tokens. -/
structure Sight where
  /-- Whether newlines are passed over. -/
  overNewlines : Bool
  /-- Whether words are reserved. -/
  reserved : Bool
  /-- Whether other texts may be read in place of words. -/
  replaced : Bool

namespace Sight

/-- Words are words. -/
def plain : Sight := ⟨false, false, false⟩

/-- Words are reserved, but nothing else is read in place of them. -/
def fixed : Sight := ⟨false, true, false⟩

/-- A command may begin. -/
def command : Sight := ⟨false, true, true⟩

/-- A command may begin, behind newlines. -/
def commandBelow : Sight := ⟨true, true, true⟩

end Sight

/-- Reads a token as it stands, and tells whether a text that was read in place of a word, and
ended in a blank, has been passed. -/
def rawToken (inner : Readers) : Reading (Token × Bool) := do
  let s ← get
  match s.pending with
  | some t =>
    set { s with pending := none }
    return (t, false)
  | none =>
    let t ← scan inner .blank
    modifyGet fun s =>
      let left := s.rest.length
      let (current, passed) := s.replacements.partition fun r => r.behind ≤ left
      ((t, passed.any (·.endsInBlank)), { s with replacements := current })

/-- Reads another text in place of a word, if one is known and is not being read. -/
def replaceWord (name : Octets) : Reading Bool :=
  modifyGet fun s =>
    match s.aliases.lookup name with
    | none => (false, s)
    | some text =>
      if s.replacements.any (·.name == name) then (false, s)
      else
        let r : Replacement := ⟨name, s.rest.length, text.getLast?.any isBlank⟩
        (true, { s with rest := text ++ s.rest, replacements := r :: s.replacements })

/-- Reads a token. -/
def token (inner : Readers) (sight : Sight) : Reading Token := do
  repeatFrom sight.replaced fun replaced => do
    let (t, passed) ← rawToken inner
    let replaced := replaced || passed
    if t matches .newline && sight.overNewlines then return .inl replaced
    match if sight.reserved then t.reserved else t with
    | .word [.text false text] =>
      if replaced then
        if ← replaceWord text then return .inl sight.replaced
      return .inr t
    | t => return .inr t

/-- Reads a token, which has to be a certain one; words are not reserved any more. -/
def due (inner : Readers) (text : String) : Reading Unit := do
  match ← token inner .plain with
  | .mark found => if found ≠ text then unexpected (.mark found) (some text)
  | t => unexpected t (some text)

/-! ## 2. Redirections -/

/-- The plain text of a word. -/
def plainText (word : List Part) : Octets :=
  word.flatMap fun
    | .text _ text => text
    | _ => []

/-- Whether some part of a word is quoted. -/
def isQuoted (word : List Part) : Bool :=
  word.any fun
    | .text quoted _ => quoted
    | _ => false

/-- Whether a backslash hides the end of a line. -/
def hidesEnd (line : Octets) : Bool :=
  (line.reverse.takeWhile (· == '\\')).length % 2 == 1

/-- The edited lines in front of the one that ends a text in a script, and what is behind that
one; at most so many lines are read.  Where ends of lines can be hidden, what follows a hidden one
is neither edited nor does it end the text. -/
def untilLine (stop : Octets) (edit : Octets → Octets) (canHide : Bool) :
    Nat → (joined : Bool) → Octets → Octets × Octets
  | 0, _, o => ([], o)
  | _, _, [] => ([], [])
  | bound + 1, joined, o =>
    let front := o.takeWhile (· ≠ '\n')
    let behind := o.drop front.length
    let line := if joined then front else edit front
    if line = stop ∧ !joined then ([], behind.drop 1)
    else
      let (inside, left) :=
        untilLine stop edit canHide bound (canHide && hidesEnd line) (behind.drop 1)
      (line ++ behind.take 1 ++ inside, left)

/-- Takes the text out that stands behind the current line, up to a line that ends it. -/
def takeHere (stop : Octets) (edit : Octets → Octets) (canHide : Bool) : Reading Octets :=
  modifyGet fun s =>
    let front := s.rest.takeWhile (· ≠ '\n')
    let behind := (s.rest.drop front.length).drop 1
    let (inside, left) := untilLine stop edit canHide behind.length false behind
    let lines := behind.count '\n' - left.count '\n'
    if s.rest.length = front.length then ([], s)
    else (inside, { s with
      rest := front ++ '\n' :: left
      takenLines := s.takenLines + lines })

/-- Reads what stands behind the sign of a redirection. -/
def readRedirect (inner : Readers) (descriptor : Option Nat) (sign : String) :
    Reading Redirect := do
  match ← if sign ∈ ["<<", "<<-"] then scan inner (.delimiter false) else token inner .plain with
  | .word word =>
    let input := descriptor.getD 0
    let output := descriptor.getD 1
    match sign with
    | "<" => return .file input .read word
    | "<>" => return .file input .readWrite word
    | ">>" => return .file output .append word
    | ">|" => return .file output .overwrite word
    | "<&" => return .copy input word
    | ">&" => return .copy output word
    | "<<" | "<<-" =>
      let edit := if sign = "<<" then id else fun line => line.dropWhile (· == '\t')
      let s ← get
      let text ← takeHere (plainText word) edit (!isQuoted word)
      if isQuoted word then return .here input [.text true text]
      return .here input (← readInside text (s.line + s.takenLines + 1) (inner.word .text))
    | _ => return .file output .write word
  | t => unexpected t none

/-- Reads redirections behind a statement; words are reserved in front of the first one. -/
def readRedirects (inner : Readers) : Reading (List Redirect) :=
  repeatFrom [] fun redirects => do
    match ← token inner (if redirects.isEmpty then .command else .plain) with
    | .redirect descriptor sign =>
      return .inl (redirects ++ [← readRedirect inner descriptor sign])
    | t =>
      putBack t
      return .inr redirects

/-! ## 3. Simple statements -/

/-- The name and the value of a word that assigns. -/
def assignment? : List Part → Option (Octets × List Part)
  | .text false text :: parts =>
    let name := text.takeWhile isNameChar
    match text.dropWhile isNameChar with
    | '=' :: value =>
      if isName name then some (name, if value = [] then parts else .text false value :: parts)
      else none
    | _ => none
  | _ => none

/-- The commands that go on with the script itself; a function cannot have their names. -/
def specialNames : List String :=
  [".", ":", "break", "continue", "eval", "exec", "exit", "export", "local", "readonly", "return",
   "set", "shift", "times", "trap", "unset"]

/-- Reads a function whose name has been read, and one parenthesis. -/
def readFunction (inner : Readers) (word : List Part) : Reading Statement := do
  due inner ")"
  let name := plainText word
  if isQuoted word || !isName name || specialNames.any (·.toList == name) then
    refuse "Bad function name"
  return .define name (← inner.statement)

/-- What has been read of a simple statement. -/
structure Simple where
  sets : List (Octets × List Part)
  words : List (List Part)
  redirects : List Redirect

/-- Reads the next token of a simple statement. -/
def simpleStep (inner : Readers) (line : Nat) (s : Simple) : Reading (Simple ⊕ Statement) := do
  match ← token inner ⟨false, false, s.words.isEmpty⟩ with
  | .word word =>
    match s.words, assignment? word with
    | [], some set => return .inl { s with sets := s.sets ++ [set] }
    | words, _ => return .inl { s with words := words ++ [word] }
  | .redirect descriptor sign =>
    let redirect ← readRedirect inner descriptor sign
    return .inl { s with redirects := s.redirects ++ [redirect] }
  | t =>
    match s, t with
    | ⟨[], [word], []⟩, .mark "(" => return .inr (← readFunction inner word)
    | s, t =>
      putBack t
      return .inr (.simple line s.sets s.words s.redirects)

/-- Reads a simple statement. -/
def readSimple (inner : Readers) : Reading Statement := do
  repeatFrom ⟨[], [], []⟩ (simpleStep inner (← get).line)

/-! ## 4. Statements that enclose others -/

/-- Reads the rest of a choice, from its test on. -/
def readChoice (inner : Readers) : Reading Statement := do
  let (branches, otherwise) ← repeatFrom [] fun branches => do
    let test ← inner.statements .block
    due inner "then"
    let body ← inner.statements .block
    let branches := (test, body) :: branches
    match ← token inner .fixed with
    | .mark "elif" => return .inl branches
    | .mark "else" => return .inr (branches, ← inner.statements .block)
    | t =>
      putBack t
      return .inr (branches, Statement.nothing)
  due inner "fi"
  return branches.foldl (fun otherwise (test, body) => .choice test body otherwise) otherwise

/-- Reads the rest of a loop, from its test on. -/
def readLoop (inner : Readers) (whileFails : Bool) : Reading Statement := do
  let test ← inner.statements .block
  due inner "do"
  let body ← inner.statements .block
  due inner "done"
  return .loop whileFails test body

/-- Reads the words that a loop goes through, up to the end of their line. -/
def readEachWords (inner : Readers) : Reading (List (List Part)) :=
  repeatFrom [] fun words => do
    match ← token inner .plain with
    | .word word => return .inl (words ++ [word])
    | .newline | .mark ";" => return .inr words
    | t => unexpected t none

/-- Reads the rest of a loop over words. -/
def readEach (inner : Readers) (line : Nat) : Reading Statement := do
  match ← token inner .plain with
  | .word [.text false name] =>
    if !isName name then refuse "Bad for loop variable"
    let words ← match ← token inner .commandBelow with
      | .mark "in" => readEachWords inner
      | .mark ";" => pure [[plainParam true ['@']]]
      | t =>
        putBack t
        pure [[plainParam true ['@']]]
    match ← token inner .commandBelow with
    | .mark "do" => pure ()
    | t => unexpected t (some "do")
    let body ← inner.statements .block
    due inner "done"
    return .each line name words body
  | _ => refuse "Bad for loop variable"

/-- Reads the patterns of a case, of which the first token has been read. -/
def readPatterns (inner : Readers) (first : Token) : Reading (List (List Part)) := do
  let first ← match first with
    | .mark "(" => token inner .plain
    | t => pure t
  repeatFrom ([], first) fun (patterns, t) => do
    let pattern := match t with
      | .word word => word
      | .mark text => [.text false text.toList]
      | _ => []
    match ← token inner .plain with
    | .mark "|" => return .inl (patterns ++ [pattern], ← token inner .plain)
    | .mark ")" => return .inr (patterns ++ [pattern])
    | t => unexpected t (some ")")

/-- Reads the rest of a selection. -/
def readSelect (inner : Readers) (line : Nat) : Reading Statement := do
  match ← token inner .plain with
  | .word word =>
    match ← token inner .commandBelow with
    | .mark "in" => pure ()
    | t => unexpected t (some "in")
    let below : Sight := ⟨true, true, false⟩
    let cases ← repeatFrom [] fun cases => do
      match ← token inner below with
      | .mark "esac" => return .inr cases
      | t =>
        let patterns ← readPatterns inner t
        let body ← inner.statements .any
        let cases := cases ++ [(patterns, body)]
        match ← token inner below with
        | .mark "esac" => return .inr cases
        | .mark ";;" => return .inl cases
        | t => unexpected t (some ";;")
    return .select line word cases
  | t => refuse (t.shown ++ " unexpected (expecting word)")

/-- Reads a statement from its first token on, which began at a line. -/
def readFrom (inner : Readers) (line : Nat) (first : Token) : Reading Statement := do
  let enclosing : Option (Reading Statement) := match first with
    | .mark "if" => some (readChoice inner)
    | .mark "while" => some (readLoop inner false)
    | .mark "until" => some (readLoop inner true)
    | .mark "for" => some (readEach inner line)
    | .mark "case" => some (readSelect inner line)
    | .mark "(" => some do
      let body ← inner.statements .block
      due inner ")"
      return .subshell line body
    | .mark "\x7b" => some do
      let body ← inner.statements .block
      due inner "\x7d"
      return body
    | _ => none
  match enclosing, first with
  | some reading, _ =>
    let s ← reading
    let redirects ← readRedirects inner
    return if redirects.isEmpty then s else .redirected line s redirects
  | none, .word _ | none, .redirect _ _ =>
    putBack first
    readSimple inner
  | none, t => unexpected t none

/-! ## 5. Pipelines and lists -/

/-- Reads a statement behind newlines. -/
def readStatement (inner : Readers) : Reading Statement := do
  let line := (← get).line
  readFrom inner line (← token inner .commandBelow)

/-- Reads a pipeline from its first token on. -/
def readPipeline (inner : Readers) (first : Token) : Reading Statement := do
  let line := (← get).line
  let (negated, first) ← match first with
    | .mark "!" => pure (true, ← token inner .command)
    | t => pure (false, t)
  let parts ← repeatFrom [← readFrom inner line first] fun parts => do
    match ← token inner .plain with
    | .mark "|" => return .inl (parts ++ [← inner.statement])
    | t =>
      putBack t
      return .inr parts
  let body := match parts with
    | [s] => s
    | parts => .pipeline parts
  return if negated then .negation body else body

/-- Reads pipelines that are joined by conditions. -/
def readJoined (inner : Readers) (first : Token) : Reading Statement := do
  repeatFrom (← readPipeline inner first) fun s => do
    match ← token inner .plain with
    | .mark "&&" =>
      return .inl (.andThen s (← readPipeline inner (← token inner .commandBelow)))
    | .mark "||" =>
      return .inl (.orElse s (← readPipeline inner (← token inner .commandBelow)))
    | t =>
      putBack t
      return .inr s

/-- Reads the next statement of a list, behind others. -/
def listStep (inner : Readers) (extent : Extent) (parts : List Statement) :
    Reading (List Statement ⊕ List Statement) := do
  let first ← match extent with
    | .line => token inner .command
    | _ => token inner .commandBelow
  match first with
  | .newline => return .inr parts
  | .finish =>
    putBack first
    return .inr parts
  | first =>
    let mayBeEmpty := extent ∈ [.any, .parenthesis]
    if first.closes && (mayBeEmpty || (extent = .block && !parts.isEmpty)) then
      putBack first
      return .inr parts
    let s ← readJoined inner first
    match ← token inner .plain with
    | .mark "&" => return .inl (parts ++ [.background s])
    | .mark ";" => return .inl (parts ++ [s])
    | .newline =>
      putBack .newline
      return .inl (parts ++ [s])
    | t =>
      if extent = .line && !(t matches .finish) then unexpected t none
      putBack t
      return .inr (parts ++ [s])

/-- Reads a list of statements. -/
def readStatements (inner : Readers) (extent : Extent) : Reading Statement := do
  let parts ← repeatFrom [] (listStep inner extent)
  if extent = .parenthesis then due inner ")"
  return .ofList parts

/-- Readers that may nest so many levels. -/
def readers : Nat → Readers
  | 0 => ⟨fun _ => refuse "nesting", fun _ => refuse "nesting", refuse "nesting"⟩
  | levels + 1 =>
    ⟨fun e => readWord (readers levels) e, fun extent => readStatements (readers levels) extent,
      do readStatement (readers levels)⟩

/-- Reads the statements of the next line, if there is one. -/
def nextLine : Reading (Option Statement) := do
  let s ← get
  if s.rest.isEmpty then return none
  let statement ← readStatements (readers s.bound) .line
  modify fun s => { s with pending := none }
  return some statement

end PassContext.Shell
