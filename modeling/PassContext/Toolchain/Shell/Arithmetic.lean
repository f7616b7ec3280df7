/-
# Arithmetic

Expressions are over integers of 64 bits, which wrap around.  A variable stands for the integer
that its text is, and assigning to one writes the integer as its text.  The operands that a
condition leaves out are not evaluated.

Any text is read as an expression; where something else is due than what stands there, the
expression says so, and evaluating it stops there.
-/
import PassContext.Toolchain.Shell.Octets

namespace PassContext.Shell

/-! ## 1. Expressions -/

/-- An operator between two operands that are both evaluated. -/
inductive BinaryOp
  | mul | div | rem | add | sub | shiftLeft | shiftRight
  | less | lessEq | greater | greaterEq | equal | notEqual | bitAnd | bitXor | bitOr
deriving DecidableEq, Repr

inductive UnaryOp
  | minus | not | complement
deriving DecidableEq, Repr

/-- An arithmetic expression. -/
inductive Arith
  | number (n : Int64)
  | variable (name : Octets)
  | unary (op : UnaryOp) (operand : Arith)
  | binary (op : BinaryOp) (left right : Arith)
  | and (left right : Arith)
  | or (left right : Arith)
  | choice (test yes no : Arith)
  /-- Assigns the value, or what the operator makes of the variable and the value. -/
  | assign (name : Octets) (op : Option BinaryOp) (value : Arith)
  /-- The place where something else is due. -/
  | refused (message : String)
  /-- An expression and what is wrong behind it. -/
  | followed (first behind : Arith)

/-- A token of an expression. -/
inductive ArithToken
  | number (n : Int64)
  | name (name : Octets)
  | sign (text : String)
  /-- A character that no token begins with. -/
  | other
deriving DecidableEq, Repr

/-- The signs of expressions; one that another one begins with stands behind it. -/
def arithSigns : List String :=
  ["<<=", ">>=", "<<", ">>", "<=", ">=", "==", "!=", "&&", "||", "+=", "-=", "*=", "/=", "%=", "&=",
   "^=", "|=", "+", "-", "*", "/", "%", "<", ">", "=", "!", "~", "&", "^", "|", "?", ":", "(", ")"]

/-- The operator between operands that a sign is, and how tightly it binds. -/
def binaryOp? (sign : String) : Option (BinaryOp × Nat) :=
  match sign with
  | "*" => some (.mul, 10)
  | "/" => some (.div, 10)
  | "%" => some (.rem, 10)
  | "+" => some (.add, 9)
  | "-" => some (.sub, 9)
  | "<<" => some (.shiftLeft, 8)
  | ">>" => some (.shiftRight, 8)
  | "<" => some (.less, 7)
  | "<=" => some (.lessEq, 7)
  | ">" => some (.greater, 7)
  | ">=" => some (.greaterEq, 7)
  | "==" => some (.equal, 6)
  | "!=" => some (.notEqual, 6)
  | "&" => some (.bitAnd, 5)
  | "^" => some (.bitXor, 4)
  | "|" => some (.bitOr, 3)
  | _ => none

/-- The operator that an assigning sign applies first, if the sign assigns. -/
def assignOp? (sign : String) : Option (Option BinaryOp) :=
  match sign with
  | "=" => some none
  | "*=" => some (some .mul)
  | "/=" => some (some .div)
  | "%=" => some (some .rem)
  | "+=" => some (some .add)
  | "-=" => some (some .sub)
  | "<<=" => some (some .shiftLeft)
  | ">>=" => some (some .shiftRight)
  | "&=" => some (some .bitAnd)
  | "^=" => some (some .bitXor)
  | "|=" => some (some .bitOr)
  | _ => none

/-! ## 2. Reading -/

/-- An integer of 64 bits; one that is too great becomes the greatest. -/
def saturated (n : Int) : Int64 := Int64.ofInt (max minInteger (min maxInteger n))

/-- The tokens of an expression, at most so many. -/
def arithTokens : Nat → Octets → List ArithToken
  | 0, _ => []
  | _, [] => []
  | bound + 1, c :: o =>
    if isBlank c || c == '\n' then arithTokens bound o
    else if isNameStart c then
      .name ((c :: o).takeWhile isNameChar) :: arithTokens bound (o.dropWhile isNameChar)
    else if c.isDigit then
      match prefixedNatural? (c :: o) with
      | some (n, rest) => .number (saturated n) :: arithTokens bound rest
      | none => [.other]
    else match arithSigns.find? fun text => text.toList.isPrefixOf (c :: o) with
      | some text => .sign text :: arithTokens bound ((c :: o).drop text.length)
      | none => [.other]

/-- A step of reading tokens. -/
abbrev ArithReading := StateM (List ArithToken)

/-- Takes the next token if it is a certain sign. -/
def takeSign? (text : String) : ArithReading Bool := do
  match ← get with
  | .sign found :: ts =>
    if found = text then
      set ts
      return true
    return false
  | _ => return false

/-- Reads an operand, with what is nested read by `inner`. -/
def readOperand (inner : ArithReading Arith) : Nat → ArithReading Arith
  | 0 => return .refused "expecting primary"
  | bound + 1 => do
    match ← get with
    | .number n :: ts =>
      set ts
      return .number n
    | .name name :: ts =>
      set ts
      return .variable name
    | .sign "(" :: ts =>
      set ts
      let e ← inner
      if ← takeSign? ")" then return e
      return .followed e (.refused "expecting ')'")
    | .sign "+" :: ts =>
      set ts
      readOperand inner bound
    | .sign "-" :: ts =>
      set ts
      return .unary .minus (← readOperand inner bound)
    | .sign "!" :: ts =>
      set ts
      return .unary .not (← readOperand inner bound)
    | .sign "~" :: ts =>
      set ts
      return .unary .complement (← readOperand inner bound)
    | _ => return .refused "expecting primary"

/-- Reads operators that bind at least so tightly, with their right operands, behind a left
operand. -/
def readOperators (operand : ArithReading Arith) : Nat → Nat → Arith → ArithReading Arith
  | 0, _, left => return left
  | bound + 1, least, left => do
    match ← get with
    | .sign text :: ts =>
      match binaryOp? text with
      | some (op, binding) =>
        if binding < least then return left
        set ts
        let right ← readOperators operand bound (binding + 1) (← operand)
        readOperators operand bound least (.binary op left right)
      | none => return left
    | _ => return left

/-- Reads operands that a sign joins, the last two of them first. -/
def readJoinedBy (sign : String) (join : Arith → Arith → Arith) (operand : ArithReading Arith) :
    Nat → ArithReading Arith
  | 0 => operand
  | bound + 1 => do
    let left ← operand
    if ← takeSign? sign then return join left (← readJoinedBy sign join operand bound)
    return left

/-- Reads an expression; it nests at most so deep. -/
def readArith : Nat → ArithReading Arith
  | 0 => return .refused "expecting primary"
  | bound + 1 => do
    match ← get with
    | .name name :: .sign text :: ts =>
      match assignOp? text with
      | some op =>
        set ts
        return .assign name op (← readArith bound)
      | none => readChoice bound
    | _ => readChoice bound
where
  /-- Reads an expression that does not assign. -/
  readChoice (bound : Nat) : ArithReading Arith := do
    let count := (← get).length + 1
    let operand := readOperand (readArith bound) count
    let operation := do readOperators operand count 0 (← operand)
    let test ← readJoinedBy "||" .or (readJoinedBy "&&" .and operation count) count
    if !(← takeSign? "?") then return test
    let yes ← readArith bound
    if !(← takeSign? ":") then return .choice test yes (.refused "expecting ':'")
    match bound with
    | 0 => return .refused "expecting primary"
    | bound + 1 => return .choice test yes (← readChoice bound)

/-- The expression that a text is. -/
def arithOf (o : Octets) : Arith :=
  let tokens := arithTokens o.length o
  let (e, left) := (readArith (tokens.length + 1)).run tokens
  if left.isEmpty then e else .followed e (.refused "expecting EOF")

/-! ## 3. Values -/

/-- One for what holds, zero for what does not. -/
def truth (b : Bool) : Int64 := if b then 1 else 0

def UnaryOp.apply (a : Int64) : UnaryOp → Int64
  | .minus => -a
  | .not => truth (a = 0)
  | .complement => ~~~a

/-- The value of an operation, unless it divides by zero. -/
def BinaryOp.apply? (a b : Int64) : BinaryOp → Option Int64
  | .mul => some (a * b)
  | .div => if b = 0 then none else some (a / b)
  | .rem => if b = 0 then none else some (a % b)
  | .add => some (a + b)
  | .sub => some (a - b)
  | .shiftLeft => some (a <<< b)
  | .shiftRight => some (a >>> b)
  | .less => some (truth (a < b))
  | .lessEq => some (truth (a ≤ b))
  | .greater => some (truth (b < a))
  | .greaterEq => some (truth (b ≤ a))
  | .equal => some (truth (a = b))
  | .notEqual => some (truth (a ≠ b))
  | .bitAnd => some (a &&& b)
  | .bitXor => some (a ^^^ b)
  | .bitOr => some (a ||| b)

/-- What is wrong with an expression first, if something is. -/
def Arith.refusal? : Arith → Option String
  | .number _ | .variable _ => none
  | .unary _ a | .assign _ _ a => a.refusal?
  | .binary _ a b | .and a b | .or a b | .followed a b => a.refusal? <|> b.refusal?
  | .choice a b c => a.refusal? <|> b.refusal? <|> c.refusal?
  | .refused message => some message

/-- Where the variables of an expression live. -/
structure ArithScope (m : Type → Type) where
  look : Octets → m Int64
  store : Octets → Int64 → m Unit
  /-- Stops with a message. -/
  stop : String → m Int64

/-- The value of an operation. -/
def ArithScope.apply {m : Type → Type} [Monad m] (scope : ArithScope m) (op : BinaryOp)
    (a b : Int64) : m Int64 :=
  match op.apply? a b with
  | some z => return z
  | none => scope.stop "division by zero"

/-- Stops at what is wrong with an expression that is not evaluated. -/
def ArithScope.passOver {m : Type → Type} [Monad m] (scope : ArithScope m) (e : Arith)
    (value : Int64) : m Int64 :=
  match e.refusal? with
  | some message => scope.stop message
  | none => return value

/-- The value of an expression.  It is evaluated as far as it is right, and stops at what is
wrong. -/
def Arith.value {m : Type → Type} [Monad m] (scope : ArithScope m) : Arith → m Int64
  | .number n => return n
  | .variable name => scope.look name
  | .unary op a => return op.apply (← a.value scope)
  | .binary op a b => do
    let x ← a.value scope
    scope.apply op x (← b.value scope)
  | .and a b => do
    if (← a.value scope) = 0 then scope.passOver b 0
    else return truth ((← b.value scope) ≠ 0)
  | .or a b => do
    if (← a.value scope) ≠ 0 then scope.passOver b 1
    else return truth ((← b.value scope) ≠ 0)
  | .choice test yes no => do
    if (← test.value scope) ≠ 0 then
      let x ← yes.value scope
      scope.passOver no x
    else
      let _ ← scope.passOver yes 0
      no.value scope
  | .assign name op e => do
    let y ← e.value scope
    let z ← match op with
      | none => pure y
      | some op => scope.apply op (← scope.look name) y
    scope.store name z
    return z
  | .refused message => scope.stop message
  | .followed first behind => do
    let x ← first.value scope
    scope.passOver behind x

end PassContext.Shell
