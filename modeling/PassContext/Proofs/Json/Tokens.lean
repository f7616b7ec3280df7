/-
# The tokens of a value

A value is spelled with certain tokens, and these can be written in many ways: white space may stand
around each of them, and the characters of a string may be escaped (`Spelled`).  The compact text of
the value is one of these ways (`spelled_text`).

However they are written, a text falls into the tokens that it spells (`tokens_of_spelled`).  Only
two numbers next to each other could run into one token, and the tokens of a value never have that
(`NumbersApart`).
-/
import PassContext.Proofs.Json.Spelling

namespace PassContext.Json

/-! ## 1. Spellings -/

mutual

/-- The tokens that a value is spelled with. -/
def spelling : Json → List Token
  | .null => [.null]
  | .bool b => [.bool b]
  | .int n => [.number (intNumeral n).number?]
  | .string s => [.string (some s)]
  | .array items => .openBracket :: (itemsSpelling items ++ [.closeBracket])
  | .object members => .openBrace :: (membersSpelling members ++ [.closeBrace])

def itemsSpelling : List Json → List Token
  | [] => []
  | [j] => j.spelling
  | j :: js => j.spelling ++ .comma :: itemsSpelling js

def membersSpelling : List (String × Json) → List Token
  | [] => []
  | [(key, j)] => .string (some key) :: .colon :: j.spelling
  | (key, j) :: rest =>
    .string (some key) :: .colon :: (j.spelling ++ .comma :: membersSpelling rest)

end

/-- The characters that may stand between tokens. -/
def whiteSpace : List Char := [' ', '\n', '\t', '\r']

/-- How a token may be written. -/
inductive Lexeme : Token → List Char → Prop
  | openBracket : Lexeme .openBracket ['[']
  | closeBracket : Lexeme .closeBracket [']']
  | openBrace : Lexeme .openBrace ['\x7b']
  | closeBrace : Lexeme .closeBrace ['\x7d']
  | comma : Lexeme .comma [',']
  | colon : Lexeme .colon [':']
  | null : Lexeme .null ['n', 'u', 'l', 'l']
  | on : Lexeme (.bool true) ['t', 'r', 'u', 'e']
  | off : Lexeme (.bool false) ['f', 'a', 'l', 's', 'e']
  | int (n : Int) : Lexeme (.number (intNumeral n).number?) (intChars n)
  | string {s : String} {es : List Char} (h : Escaped s.toList es) :
      Lexeme (.string (some s)) ('"' :: (es ++ ['"']))

/-- A text that spells tokens, with white space wherever it is allowed. -/
inductive Spelled : List Token → List Char → Prop
  | nil : Spelled [] []
  | space {c : Char} {ts : List Token} {cs : List Char} (hc : c ∈ whiteSpace)
      (h : Spelled ts cs) : Spelled ts (c :: cs)
  | token {t : Token} {ts : List Token} {lexeme cs : List Char} (ht : Lexeme t lexeme)
      (h : Spelled ts cs) : Spelled (t :: ts) (lexeme ++ cs)

/-! ## 2. The compact text -/

theorem Spelled.stringChars (s : String) {ts : List Token} {cs : List Char} (h : Spelled ts cs) :
    Spelled (.string (some s) :: ts) (Json.stringChars s ++ cs) :=
  .token (.string (escaped_flatMap s.toList)) h

mutual

theorem spelled_chars : ∀ (j : Json) {ts : List Token} {cs : List Char}, Spelled ts cs →
    Spelled (j.spelling ++ ts) (j.chars ++ cs)
  | .null, _, _, h => .token .null h
  | .bool true, _, _, h => .token .on h
  | .bool false, _, _, h => .token .off h
  | .int n, _, _, h => .token (.int n) h
  | .string s, _, _, h => h.stringChars s
  | .array items, ts, cs, h => by
    have hitems := spelled_itemsChars items (.token .closeBracket h)
    simp only [chars, spelling, List.cons_append, List.append_assoc, List.nil_append]
    exact .token .openBracket hitems
  | .object members, ts, cs, h => by
    have hmembers := spelled_membersChars members (.token .closeBrace h)
    simp only [chars, spelling, List.cons_append, List.append_assoc, List.nil_append]
    exact .token .openBrace hmembers

theorem spelled_itemsChars : ∀ (js : List Json) {ts : List Token} {cs : List Char},
    Spelled ts cs → Spelled (itemsSpelling js ++ ts) (itemsChars js ++ cs)
  | [], _, _, h => h
  | [j], _, _, h => spelled_chars j h
  | j :: k :: js, ts, cs, h => by
    have htail := spelled_itemsChars (k :: js) h
    have hhead := spelled_chars j (.token .comma htail)
    simpa only [itemsChars, itemsSpelling, List.append_assoc, List.cons_append, List.nil_append]
      using hhead

theorem spelled_membersChars : ∀ (members : List (String × Json)) {ts : List Token}
    {cs : List Char}, Spelled ts cs →
    Spelled (membersSpelling members ++ ts) (membersChars members ++ cs)
  | [], _, _, h => h
  | [(key, j)], ts, cs, h => by
    have hvalue := spelled_chars j h
    have hkey := (Spelled.token .colon hvalue).stringChars key
    simpa [membersChars, membersSpelling] using hkey
  | (key, j) :: m :: rest, ts, cs, h => by
    have htail := spelled_membersChars (m :: rest) h
    have hvalue := spelled_chars j (.token .comma htail)
    have hkey := (Spelled.token .colon hvalue).stringChars key
    simpa [membersChars, membersSpelling] using hkey

end

/-- **The compact text of a value spells its tokens.** -/
theorem spelled_text (j : Json) : Spelled j.spelling j.text.toList := by
  have h := spelled_chars j .nil
  simpa [text] using h

/-! ## 3. Numbers that stay apart -/

def Token.isNumber : Token → Bool
  | .number _ => true
  | _ => false

/-- No number stands next to another. -/
def NumbersApart : List Token → Prop
  | t :: u :: ts => ¬ (t.isNumber ∧ u.isNumber) ∧ NumbersApart (u :: ts)
  | _ => True

namespace NumbersApart

variable {t : Token} {ts : List Token}

theorem tail (h : NumbersApart (t :: ts)) : NumbersApart ts := by
  cases ts with
  | nil => trivial
  | cons u ts => exact h.2

theorem cons (ht : t.isNumber = false) (h : NumbersApart ts) : NumbersApart (t :: ts) := by
  cases ts with
  | nil => trivial
  | cons u ts => exact ⟨by simp [ht], h⟩

/-- Any number may stand where one may. -/
theorem number (h : NumbersApart (.number none :: ts)) (n : Option Number) :
    NumbersApart (.number n :: ts) := by
  cases ts with
  | nil => trivial
  | cons u ts => exact h

theorem number_cons (ht : t.isNumber = false) (h : NumbersApart ts) :
    NumbersApart (.number none :: t :: ts) := ⟨by simp [ht], h.cons ht⟩

end NumbersApart

mutual

/-- The tokens of a value keep its numbers apart, also from what may follow a number. -/
theorem numbersApart_spelling : ∀ (j : Json) {ts : List Token},
    NumbersApart (.number none :: ts) → NumbersApart (j.spelling ++ ts)
  | .null, _, h | .bool _, _, h | .string _, _, h => h.tail.cons rfl
  | .int n, _, h => h.number _
  | .array items, ts, h => by
    have hitems := numbersApart_itemsSpelling items (h.tail.number_cons (t := .closeBracket) rfl)
    simp only [spelling, List.cons_append, List.append_assoc]
    exact hitems.cons rfl
  | .object members, ts, h => by
    have hmembers := numbersApart_membersSpelling members
      (h.tail.number_cons (t := .closeBrace) rfl)
    simp only [spelling, List.cons_append, List.append_assoc]
    exact hmembers.cons rfl

theorem numbersApart_itemsSpelling : ∀ (js : List Json) {ts : List Token},
    NumbersApart (.number none :: ts) → NumbersApart (itemsSpelling js ++ ts)
  | [], _, h => h.tail
  | [j], _, h => numbersApart_spelling j h
  | j :: k :: js, ts, h => by
    have htail := numbersApart_itemsSpelling (k :: js) h
    have hhead := numbersApart_spelling j (htail.number_cons (t := .comma) rfl)
    simpa only [itemsSpelling, List.append_assoc, List.cons_append] using hhead

theorem numbersApart_membersSpelling : ∀ (members : List (String × Json)) {ts : List Token},
    NumbersApart (.number none :: ts) → NumbersApart (membersSpelling members ++ ts)
  | [], _, h => h.tail
  | [(key, j)], ts, h => by
    have hvalue := numbersApart_spelling j h
    simp only [membersSpelling, List.cons_append]
    exact (hvalue.cons rfl).cons rfl
  | (key, j) :: m :: rest, ts, h => by
    have htail := numbersApart_membersSpelling (m :: rest) h
    have hvalue := numbersApart_spelling j (htail.number_cons (t := .comma) rfl)
    simp only [membersSpelling, List.cons_append, List.append_assoc]
    exact (hvalue.cons rfl).cons rfl

end

/-! ## 4. Tokens -/

theorem tokens_punctuation {c : Char} {t : Token} (h : punctuation? c = some t)
    (hs : isSpace c = false) (rest : List Char) : tokens (c :: rest) = t :: tokens rest :=
  tokens_some hs (by simp [token?, h])

/-- A numeral begins with a digit or a minus, so it is no other token. -/
theorem token?_number {c : Char} (h : isDigit c = true ∨ c = '-') (rest : List Char) :
    isSpace c = false ∧ token? c rest = number? c rest := by
  have hne : ∀ d : Char, isDigit d = false → d ≠ '-' → c ≠ d := by
    rintro d hd hd' rfl
    rcases h with h | h
    · exact absurd (h.symm.trans hd) (by simp)
    · exact hd' h
  have hspace : isSpace c = false := by
    simp [isSpace, hne ' ' (by decide) (by decide), hne '\n' (by decide) (by decide),
      hne '\t' (by decide) (by decide), hne '\r' (by decide) (by decide)]
  have hpunctuation : punctuation? c = none := by
    simp [punctuation?, hne '[' (by decide) (by decide), hne ']' (by decide) (by decide),
      hne '\x7b' (by decide) (by decide), hne '\x7d' (by decide) (by decide),
      hne ',' (by decide) (by decide), hne ':' (by decide) (by decide)]
  have hstring : string? c rest = none := if_neg (hne '"' (by decide) (by decide))
  have hword : literalWord? c rest = none := by
    simp [literalWord?, hne 'n' (by decide) (by decide), hne 't' (by decide) (by decide),
      hne 'f' (by decide) (by decide)]
  exact ⟨hspace, by simp [token?, hpunctuation, hstring, hword]⟩

theorem tokens_intChars (n : Int) {rest : List Char} (h : EndsNumeral rest) :
    tokens (intChars n ++ rest) = .number (intNumeral n).number? :: tokens rest := by
  cases n with
  | ofNat n =>
    cases hcs : digits n with
    | nil => exact absurd hcs Nat.toDigits_ne_nil
    | cons c cs =>
      have hc : isDigit c = true := isDigit_of_mem_digits (hcs ▸ List.mem_cons_self)
      obtain ⟨hspace, htoken⟩ := token?_number (Or.inl hc) (cs ++ rest)
      have hminus : c ≠ '-' := by
        rintro rfl
        exact absurd hc (by decide)
      have hnumeral := h.numeral?_digits false n
      rw [hcs, List.cons_append] at hnumeral
      show tokens (digits n ++ rest) = _
      rw [hcs, List.cons_append]
      refine tokens_some hspace ?_
      rw [htoken, number?, if_neg hminus, hnumeral]
      simp [intNumeral, hcs]
  | negSucc n =>
    obtain ⟨hspace, htoken⟩ := token?_number (Or.inr rfl) (digits (n + 1) ++ rest)
    show tokens ('-' :: (digits (n + 1) ++ rest)) = _
    refine tokens_some hspace ?_
    rw [htoken, number?, if_pos rfl, h.numeral?_digits true (n + 1)]
    rfl

theorem of_mem_whiteSpace {c : Char} (h : c ∈ whiteSpace) :
    isSpace c = true ∧ isDigit c = false ∧ c ≠ '.' ∧ c ≠ 'e' ∧ c ≠ 'E' := by
  simp only [whiteSpace, List.mem_cons, List.not_mem_nil, or_false] at h
  rcases h with rfl | rfl | rfl | rfl <;> decide

/-- A text of tokens that begin with no number ends any number in front of it. -/
theorem Spelled.endsNumeral {n : Option Number} {ts : List Token} {cs : List Char}
    (h : Spelled ts cs) (happart : NumbersApart (.number n :: ts)) : EndsNumeral cs := by
  cases h with
  | nil => exact fun c hc => absurd hc (by simp)
  | @space c _ cs hc _ =>
    intro d hd
    obtain rfl := Option.some.inj hd
    exact (of_mem_whiteSpace hc).2
  | @token t _ lexeme cs ht _ =>
    cases ht with
    | int => exact absurd ⟨rfl, rfl⟩ happart.1
    | _ =>
      intro d hd
      obtain rfl := Option.some.inj hd
      decide

/-- **A text has the tokens that it spells.** -/
theorem tokens_of_spelled {ts : List Token} {cs : List Char} (h : Spelled ts cs)
    (happart : NumbersApart ts) : tokens cs = ts := by
  induction h with
  | nil => exact tokens_nil
  | space hc _ ih => rw [tokens_space _ (of_mem_whiteSpace hc).1, ih happart]
  | @token t ts lexeme cs ht h ih =>
    have htail := ih happart.tail
    cases ht with
    | openBracket | closeBracket | openBrace | closeBrace | comma | colon =>
      exact (tokens_punctuation (by decide) (by decide) cs).trans (congrArg _ htail)
    | null | on | off => exact (tokens_some (by decide) rfl).trans (congrArg _ htail)
    | int n => rw [tokens_intChars n (h.endsNumeral happart), htail]
    | @string s es hes =>
      have htoken : token? '"' (es ++ '"' :: cs) = some (.string (some s), cs) := by
        have hpunctuation : punctuation? '"' = none := by decide
        simp [token?, hpunctuation, string?, stringLiteral?_of_escaped hes]
      rw [List.cons_append, List.append_assoc]
      exact (tokens_some (by decide) htoken).trans (congrArg _ htail)

/-- **A text that spells a value has its tokens.** -/
theorem tokens_eq_spelling {j : Json} {text : String}
    (h : Spelled j.spelling text.toList) : tokens text.toList = j.spelling := by
  have hapart : NumbersApart (j.spelling ++ []) := numbersApart_spelling j trivial
  rw [List.append_nil] at hapart
  exact tokens_of_spelled h hapart

end PassContext.Json
