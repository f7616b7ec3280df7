/-
# Rights on files

Rights are three bits each, to read, to write and to run, for the owner of a file, for its group
and for the others.  They are written as changes to other rights: whose they are, what is done, and
which of them it is done to.
-/
import PassContext.Toolchain.Shell.Octets

namespace PassContext.Shell.Rights

/-! ## 1. Changes -/

/-- Whose rights a letter stands for, one bit for each of the three. -/
def whose? (c : Char) : Option Nat :=
  match c with
  | 'a' => some 0o111
  | 'u' => some 0o100
  | 'g' => some 0o010
  | 'o' => some 0o001
  | _ => none

/-- The rights of one of the three that a letter stands for, where some rights hold already; a
letter may stand for the rights that somebody else has. -/
def letterBits? (held : Nat) (c : Char) : Option Nat :=
  match c with
  | 'r' => some 4
  | 'w' => some 2
  | 'x' => some 1
  | 'X' => some (if held &&& 0o111 = 0 then 0 else 1)
  | 'u' => some (held / 64 % 8)
  | 'g' => some (held / 8 % 8)
  | 'o' => some (held % 8)
  | 's' => some 0
  | _ => none

/-- Rights without others. -/
def without (mode lacking : Nat) : Nat := mode - (mode &&& lacking)

/-- Rights after one change: a sign says whether bits are taken, given, or put in place of all. -/
def changed (sign : Char) (whose bits mode : Nat) : Nat :=
  match sign with
  | '-' => without mode bits
  | '+' => mode ||| bits
  | _ => without mode (7 * whose) ||| bits

/-- Rights after changes, or nothing if they are not written rightly.  `whose` are those of whom the
change before was; at most so many changes are read. -/
def changesFrom (held : Nat) : Nat → Octets → (whose mode : Nat) → Option Nat
  | 0, _, _, mode => some mode
  | _, [], _, mode => some mode
  | bound + 1, o, whose, mode =>
    let letters := o.takeWhile fun c => (whose? c).isSome
    let named := letters.foldl (fun n c => n ||| (whose? c).getD 0) whose
    let everybody := if named = 0 then 0o111 else named
    match o.drop letters.length with
    | [] => some mode
    | sign :: o =>
      if sign ∉ ['=', '+', '-'] then none
      else
        let given := o.takeWhile fun c => (letterBits? held c).isSome
        let bits := given.foldl (fun n c => n ||| (letterBits? held c).getD 0) 0
        let mode := changed sign everybody (bits * everybody) mode
        match o.drop given.length with
        | ',' :: o => changesFrom held bound o 0 mode
        | [] => some mode
        | c :: o =>
          if c ∈ ['=', '+', '-'] then changesFrom held bound (c :: o) named mode else none

/-- Rights after changes, which are written as a text. -/
def changes? (held : Nat) (o : Octets) : Option Nat :=
  changesFrom held (o.length + 1) o 0 held

/-! ## 2. Texts -/

/-- The letters of the rights of one of the three. -/
def letters (bits : Nat) : Octets :=
  (if bits / 4 % 2 = 1 then ['r'] else []) ++ (if bits / 2 % 2 = 1 then ['w'] else []) ++
    (if bits % 2 = 1 then ['x'] else [])

/-- Rights as a text in letters. -/
def shown (mode : Nat) : Octets :=
  "u=".toList ++ letters (mode / 64 % 8) ++ ",g=".toList ++ letters (mode / 8 % 8) ++
    ",o=".toList ++ letters (mode % 8)

/-- Rights as an octal number of four digits. -/
def digits (mode : Nat) : Octets :=
  let o := Nat.toDigits 8 mode
  List.replicate (4 - o.length) '0' ++ o

end PassContext.Shell.Rights
