/-
# Signatures

The type of a function is known here only as the text a compiler prints for it, and one type has
many spellings: `(Int, @escaping () -> Void) throws` and `(Int,()->())` are the same for the
choice of an overload.  This module splits a signature into tokens, reduces the tokens that do
not tell overloads apart, and gives the normal form in which signatures are compared.

Reduction runs twice.  White space separates words in the text as written (`@escaping Handler`
loses its attribute), and removing it can join fragments into a word (`Vo id`) that the second
run reduces.

The base name of a function is cut from its name in the same spirit: what follows the first `(`
or `<` are labels and generic parameters.
-/
import PassContext.Text.Alphanumeric
import PassContext.Text.Blank

namespace PassContext.Signature

open Text

/-! ## 1. Tokens -/

/-- A character that words are made of. -/
def isWordChar (c : Char) : Bool := isAlphanumeric c || c == '_'

/-- A character that a word may begin with: `@` opens an attribute. -/
def opensWord (c : Char) : Bool := c == '@' || isWordChar c

/-- The tokens of a signature.  A token is a word, which is as long as the text allows and may
begin with one `@`, or any other single character. -/
def tokens : List Char → List (List Char)
  | [] => []
  | c :: rest =>
    if opensWord c then
      (c :: rest.takeWhile isWordChar) :: tokens (rest.dropWhile isWordChar)
    else
      [c] :: tokens rest
termination_by cs => cs.length
decreasing_by
  · exact Nat.lt_succ_of_le (List.dropWhile_sublist isWordChar).length_le
  · simp

@[simp] theorem tokens_nil : tokens [] = [] := by rw [tokens]

theorem tokens_cons_word {c : Char} (rest : List Char) (h : opensWord c = true) :
    tokens (c :: rest) =
      (c :: rest.takeWhile isWordChar) :: tokens (rest.dropWhile isWordChar) := by
  rw [tokens, if_pos h]

theorem tokens_cons_other {c : Char} (rest : List Char) (h : opensWord c = false) :
    tokens (c :: rest) = [c] :: tokens rest := by
  rw [tokens, if_neg (by simp [h])]

/-- No character is lost by splitting. -/
theorem flatten_tokens (cs : List Char) : (tokens cs).flatten = cs := by
  fun_induction tokens cs with
  | case1 => rfl
  | case2 c rest _ ih => simp [ih, List.takeWhile_append_dropWhile]
  | case3 c rest _ ih => simp [ih]

/-! ## 2. Reduction -/

/-- The words that say nothing about which overload is meant. -/
def strippedWords : List (List Char) :=
  [['@', 'a', 'u', 't', 'o', 'c', 'l', 'o', 's', 'u', 'r', 'e'],
   ['@', 'e', 's', 'c', 'a', 'p', 'i', 'n', 'g'],
   ['t', 'h', 'r', 'o', 'w', 's'],
   ['r', 'e', 't', 'h', 'r', 'o', 'w', 's']]

/-- The word that names the empty tuple. -/
def voidWord : List Char := ['V', 'o', 'i', 'd']

/-- What a token is reduced to: `Void` is the empty tuple, a stripped word is nothing, and any
other token is itself. -/
def reduceToken (t : List Char) : List Char :=
  if t = voidWord then ['(', ')']
  else if t ∈ strippedWords then []
  else t

/-- The text with each of its tokens reduced. -/
def reduceWords (cs : List Char) : List Char := (tokens cs).flatMap reduceToken

/-- The text without its white space. -/
def removeBlanks (cs : List Char) : List Char := cs.filter (fun c => !isBlank c)

/-- The normal form of a signature given by its characters. -/
def normalForm (cs : List Char) : List Char := reduceWords (removeBlanks (reduceWords cs))

/-- The text in which two signatures are compared. -/
def normalize (signature : String) : String := .ofList (normalForm signature.toList)

@[simp] theorem toList_normalize (s : String) : (normalize s).toList = normalForm s.toList := by
  simp [normalize]

/-! ## 3. Base names -/

/-- Labels begin at `(` and generic parameters at `<`. -/
def endsBaseName (c : Char) : Bool := c == '(' || c == '<'

/-- The base name of a function, such as `f` for `f(a:b:)` and for `f<T>`. -/
def baseName (name : String) : String := .ofList (name.toList.takeWhile (fun c => !endsBaseName c))

@[simp] theorem toList_baseName (s : String) :
    (baseName s).toList = s.toList.takeWhile (fun c => !endsBaseName c) := by
  simp [baseName]

end PassContext.Signature
