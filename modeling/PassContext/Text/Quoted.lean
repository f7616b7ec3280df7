/-
# Quoted texts

A text shown for inspection stands between double quotes.  Control characters with a short name
are written with a backslash, and a character that has no shape of its own, or that would join
the character before it, is written as its code point in braces.
-/
import PassContext.Text.Printable

namespace PassContext.Text

/-- The code point of a character in lower-case hexadecimal, as `\u\x7bNN\x7d`. -/
def codePointEscape (c : Char) : List Char :=
  ['\\', 'u', '\x7b'] ++ Nat.toDigits 16 c.toNat ++ ['\x7d']

/-- How one character is written between quotes. -/
def quoteChar (c : Char) : List Char :=
  if c = '\x00' then ['\\', '0']
  else if c = '\t' then ['\\', 't']
  else if c = '\r' then ['\\', 'r']
  else if c = '\n' then ['\\', 'n']
  else if c = '\\' then ['\\', '\\']
  else if c = '"' then ['\\', '"']
  else if isGraphemeExtend c || !isPrintable c then codePointEscape c
  else [c]

/-- A text between double quotes. -/
def quoted (s : String) : String := .ofList (['"'] ++ s.toList.flatMap quoteChar ++ ['"'])

/-- A list of shown values between brackets. -/
def bracketed (items : List String) : String := "[" ++ ", ".intercalate items ++ "]"

/-- An optional value as it is shown: `None`, or the shown value in `Some(…)`. -/
def shownOption : Option String → String
  | none => "None"
  | some s => "Some(" ++ s ++ ")"

end PassContext.Text
