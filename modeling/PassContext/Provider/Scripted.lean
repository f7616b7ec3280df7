/-
# Scripted tools

Tools whose answers are given beforehand, and which remember what they were asked.  A query is
answered by the first rule for its text; the answers of a rule are given one after the other, and
the last one is given again and again.  A library is a file, or a list of answers of the same kind.
-/
import PassContext.Provider.Library
import PassContext.Provider.Session

namespace PassContext

/-- Answers that are given one after the other, the last of them again and again. -/
structure Replies (α : Type) where
  left : List α

/-- The next answer, if there is any. -/
def Replies.next {α : Type} (r : Replies α) : Option α × Replies α :=
  match r.left with
  | [] => (none, r)
  | [a] => (some a, r)
  | a :: rest => (some a, ⟨rest⟩)

/-- The answers to a query with the given text: what it prints, or why it cannot be started. -/
structure Rule where
  command : String
  replies : Replies (Except String Output)

/-- Where templates come from. -/
inductive LibrarySource
  | file (f : LibraryFile)
  | given (replies : Replies (Except String (List Template)))

/-- A request to load a library. -/
structure LoadRequest where
  path : Path
  mode : SyntaxMode
  version : String

/-- Tools whose answers are given beforehand. -/
structure ScriptedTools where
  rules : List Rule
  library : LibrarySource
  /-- The queries that were run, the last first. -/
  commands : List Command
  /-- The loads that were answered, the last first. -/
  loads : List LoadRequest

namespace ScriptedTools

/-- The message for a query that no rule is for. -/
def notScripted : String := "not scripted"

/-- The answer of the first rule for a text. -/
def answerFrom (text : String) : List Rule → Except String Output × List Rule
  | [] => (.error notScripted, [])
  | rule :: rest =>
    if rule.command = text then
      let (answer, replies) := rule.replies.next
      (answer.getD (.error notScripted), { rule with replies := replies } :: rest)
    else
      let (answer, rest) := answerFrom text rest
      (answer, rule :: rest)

def run (c : Command) (t : ScriptedTools) : Except Failure Output × ScriptedTools :=
  let (answer, rules) := answerFrom c.text t.rules
  (answer.mapError (.queryNotStarted c.text),
    { t with rules := rules, commands := c :: t.commands })

def load (path : Path) (mode : SyntaxMode) (version : String) (t : ScriptedTools) :
    Except Failure (List Template) × ScriptedTools :=
  match t.library with
  | .file f => (f.load.mapError (.unreadableLibrary path), t)
  | .given replies =>
    let (answer, replies) := replies.next
    ((answer.getD (.ok [])).mapError (.unreadableLibrary path),
      { t with library := .given replies, loads := ⟨path, mode, version⟩ :: t.loads })

/-- The tools as they are asked by a session. -/
def tools : Tools ScriptedTools := ⟨run, load⟩

/-- Tools with the given answers that have not been asked. -/
def start (rules : List Rule) (library : LibrarySource) : ScriptedTools :=
  ⟨rules, library, [], []⟩

/-- The rule that is there when none is given: the compiler reports a supported version. -/
def defaultRules : List Rule :=
  [⟨"swift --version", ⟨[.ok (.succeeded "Swift version 5.1 (swift-5.1-RELEASE)\n")]⟩⟩]

end ScriptedTools

end PassContext
