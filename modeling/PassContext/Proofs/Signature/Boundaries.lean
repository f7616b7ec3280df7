/-
# Where tokens end

A word is as long as the text allows.  So the tokens of two texts that are put together are the
tokens of both, unless a word of the first goes on in the second; and none does if the second
begins with no word character (`tokens_append`).

Each place between two tokens of a text is such a place, or the first of the two tokens is no
word.  Reduction takes words away and puts `()` in the place of others, and what comes to stand
behind a word then has stood behind a word before (`breaksWord_reduceWords`).  So no two tokens
grow together, and the tokens of a reduced text are those of the text, each reduced
(`tokens_reduceWords`).
-/
import Mathlib.Tactic.Common
import PassContext.Signature

namespace PassContext.Signature

open Text

/-! ## 1. Characters -/

/-- No range of white space meets a range of letters and numbers. -/
theorem blankRanges_apart {r r' : Nat × Nat} (h : r ∈ blankRanges) (h' : r' ∈ alphanumericRanges) :
    r.2 < r'.1 ∨ r'.2 < r.1 := by
  have hall : (blankRanges.all fun r => alphanumericRanges.all fun r' =>
      Nat.blt r.2 r'.1 || Nat.blt r'.2 r.1) = true := by decide +kernel
  have hboth := List.all_eq_true.mp (List.all_eq_true.mp hall r h) r' h'
  simpa [Nat.blt_eq] using hboth

/-- No word goes through white space. -/
theorem isWordChar_of_isBlank {c : Char} (h : isBlank c = true) : isWordChar c = false := by
  have halphanumeric : isAlphanumeric c = false := by
    rw [Bool.eq_false_iff]
    intro hmem
    obtain ⟨r, hr, hlow, hhigh⟩ := exists_mem_of_inRanges h
    obtain ⟨r', hr', hlow', hhigh'⟩ := exists_mem_of_inRanges hmem
    have hapart := blankRanges_apart hr hr'
    omega
  have hunderscore : c ≠ '_' := by
    rintro rfl
    exact absurd h (by decide)
  simp [isWordChar, halphanumeric, hunderscore]

theorem opensWord_of_isBlank {c : Char} (h : isBlank c = true) : opensWord c = false := by
  have hat : c ≠ '@' := by
    rintro rfl
    exact absurd h (by decide)
  simp [opensWord, isWordChar_of_isBlank h, hat]

theorem isWordChar_of_opensWord {c : Char} (h : opensWord c = false) : isWordChar c = false :=
  (Bool.or_eq_false_iff.mp h).2

/-! ## 2. Texts that no word goes on in -/

/-- A text that begins with no word character. -/
def BreaksWord (cs : List Char) : Prop := ∀ c ∈ cs.head?, isWordChar c = false

variable {c : Char} {cs rest : List Char}

@[simp] theorem breaksWord_cons : BreaksWord (c :: cs) ↔ isWordChar c = false := by
  simp [BreaksWord]

theorem breaksWord_dropWhile (cs : List Char) : BreaksWord (cs.dropWhile isWordChar) := by
  intro c hc
  have hhead := List.head?_dropWhile_not isWordChar cs
  rwa [Option.mem_def.mp hc] at hhead

theorem BreaksWord.takeWhile_eq_nil (h : BreaksWord cs) : cs.takeWhile isWordChar = [] := by
  cases cs with
  | nil => rfl
  | cons c cs => rw [List.takeWhile_cons_of_neg (by simp [breaksWord_cons.mp h])]

theorem BreaksWord.dropWhile_eq_self (h : BreaksWord cs) : cs.dropWhile isWordChar = cs := by
  cases cs with
  | nil => rfl
  | cons c cs => rw [List.dropWhile_cons_of_neg (by simp [breaksWord_cons.mp h])]

theorem BreaksWord.takeWhile_append (h : BreaksWord rest) (cs : List Char) :
    (cs ++ rest).takeWhile isWordChar = cs.takeWhile isWordChar := by
  rw [List.takeWhile_append, h.takeWhile_eq_nil, List.append_nil]
  split
  case isTrue hlength => exact ((List.takeWhile_prefix isWordChar).eq_of_length hlength).symm
  case isFalse => rfl

theorem BreaksWord.dropWhile_append (h : BreaksWord rest) (cs : List Char) :
    (cs ++ rest).dropWhile isWordChar = cs.dropWhile isWordChar ++ rest := by
  rw [List.dropWhile_append, h.dropWhile_eq_self]
  split
  case isTrue hempty => rw [List.isEmpty_iff.mp hempty, List.nil_append]
  case isFalse => rfl

/-- **Texts have their own tokens**, if no word of the first goes on in the second. -/
theorem tokens_append (cs : List Char) (h : BreaksWord rest) :
    tokens (cs ++ rest) = tokens cs ++ tokens rest := by
  fun_induction tokens cs with
  | case1 => rfl
  | case2 c cs hc ih =>
    rw [List.cons_append, tokens_cons_word _ hc, h.takeWhile_append, h.dropWhile_append, ih,
      List.cons_append]
  | case3 c cs hc ih =>
    rw [List.cons_append, tokens_cons_other _ (Bool.not_eq_true _ ▸ hc), ih, List.cons_append]

/-- A character that is in no word is a token wherever it stands. -/
theorem tokens_append_cons (cs : List Char) (h : opensWord c = false) (rest : List Char) :
    tokens (cs ++ c :: rest) = tokens cs ++ [c] :: tokens rest := by
  rw [tokens_append cs (breaksWord_cons.mpr (isWordChar_of_opensWord h)), tokens_cons_other rest h]

/-! ## 3. Single tokens -/

/-- A token is a word, or one character that is in no word. -/
inductive IsToken : List Char → Prop
  | word {c : Char} {w : List Char} : opensWord c = true → (∀ x ∈ w, isWordChar x = true) →
      IsToken (c :: w)
  | other {c : Char} : opensWord c = false → IsToken [c]

variable {t : List Char}

/-- A word that is as long as the text allows. -/
theorem isToken_takeWhile (cs : List Char) (h : opensWord c = true) :
    IsToken (c :: cs.takeWhile isWordChar) :=
  .word h (List.all_eq_true.mp List.all_takeWhile)

theorem isToken_of_mem_tokens (h : t ∈ tokens cs) : IsToken t := by
  fun_induction tokens cs with
  | case1 => exact absurd h (by simp)
  | case2 c cs hc ih =>
    rcases List.mem_cons.mp h with rfl | hmem
    · exact isToken_takeWhile cs hc
    · exact ih hmem
  | case3 c cs hc ih =>
    rcases List.mem_cons.mp h with rfl | hmem
    · exact .other (by simpa using hc)
    · exact ih hmem

theorem IsToken.tokens_eq (h : IsToken t) : tokens t = [t] := by
  cases h with
  | @word c w hc hw =>
    have htake : (w ++ []).takeWhile isWordChar = w ++ [] := List.takeWhile_append_of_pos hw
    have hdrop : (w ++ []).dropWhile isWordChar = [] := List.dropWhile_append_of_pos hw
    rw [List.append_nil] at htake hdrop
    rw [tokens_cons_word _ hc, htake, hdrop, tokens_nil]
  | other hc => rw [tokens_cons_other _ hc, tokens_nil]

/-! ## 4. Places between tokens -/

/-- The first token of a text is the first in front of any other text too, if that is empty or
begins in the same way as what follows. -/
theorem exists_tokens_cons (c : Char) (cs : List Char) :
    ∃ t rest, tokens (c :: cs) = t :: tokens rest ∧
      ∀ other : List Char, (∀ x ∈ other.head?, x ∈ rest.head?) →
        tokens (t ++ other) = t :: tokens other := by
  by_cases hc : opensWord c = true
  · refine ⟨_, _, tokens_cons_word cs hc, fun other hhead => ?_⟩
    have hbreaks : BreaksWord other := fun x hx => breaksWord_dropWhile cs x (hhead x hx)
    rw [tokens_append _ hbreaks, (isToken_takeWhile cs hc).tokens_eq, List.singleton_append]
  · have hc : opensWord c = false := by simpa using hc
    exact ⟨[c], cs, tokens_cons_other cs hc, fun other _ => tokens_cons_other other hc⟩

/-- Tokens from the first of a text up to any place, or from there to the last, are the tokens of
their own text. -/
theorem tokens_flatten_of_append {before after : List (List Char)}
    (h : tokens cs = before ++ after) :
    tokens before.flatten = before ∧ tokens after.flatten = after := by
  induction before generalizing cs with
  | nil =>
    refine ⟨tokens_nil, ?_⟩
    rw [← List.nil_append after, ← h, flatten_tokens]
  | cons t before ih =>
    cases cs with
    | nil => exact absurd h (by simp)
    | cons c cs =>
      obtain ⟨t', rest, htokens, hfirst⟩ := exists_tokens_cons c cs
      rw [htokens, List.cons_append, List.cons.injEq] at h
      obtain ⟨rfl, hrest⟩ := h
      obtain ⟨hbefore, hafter⟩ := ih hrest
      have htext : rest = before.flatten ++ after.flatten := by
        rw [← flatten_tokens rest, hrest, List.flatten_append]
      have hhead : ∀ x ∈ before.flatten.head?, x ∈ rest.head? := by
        intro x hx
        rw [htext, List.head?_append, Option.mem_def.mp hx]
        rfl
      refine ⟨?_, hafter⟩
      rw [List.flatten_cons, hfirst _ hhead, hbefore]

/-! ## 5. Reduction -/

theorem removeBlanks_eq_self {cs : List Char} (h : ∀ c ∈ cs, isBlank c = false) :
    removeBlanks cs = cs :=
  List.filter_eq_self.mpr fun c hc => by rw [h c hc, Bool.not_false]

/-- The tokens that a token is reduced to. -/
def reducedTokens (t : List Char) : List (List Char) :=
  if t = voidWord then [['('], [')']]
  else if strippedWords.contains t then []
  else [t]

theorem ne_voidWord_of_stripped (h : t ∈ strippedWords) : t ≠ voidWord := by
  rintro rfl
  exact absurd h (by decide)

theorem reducedTokens_of_stripped (h : t ∈ strippedWords) : reducedTokens t = [] := by
  rw [reducedTokens, if_neg (ne_voidWord_of_stripped h), if_pos (List.contains_iff_mem.mpr h)]

theorem reducedTokens_eq_self (hvoid : t ≠ voidWord) (hstripped : t ∉ strippedWords) :
    reducedTokens t = [t] := by
  rw [reducedTokens, if_neg hvoid, if_neg (List.contains_iff_mem.not.mpr hstripped)]

theorem reducedTokens_cases (t : List Char) :
    t = voidWord ∧ reducedTokens t = [['('], [')']] ∨
      t ∈ strippedWords ∧ reducedTokens t = [] ∨
      t ≠ voidWord ∧ t ∉ strippedWords ∧ reducedTokens t = [t] := by
  by_cases hvoid : t = voidWord
  · exact .inl ⟨hvoid, if_pos hvoid⟩
  · by_cases hstripped : t ∈ strippedWords
    · exact .inr (.inl ⟨hstripped, reducedTokens_of_stripped hstripped⟩)
    · exact .inr (.inr ⟨hvoid, hstripped, reducedTokens_eq_self hvoid hstripped⟩)

theorem reduceToken_eq (t : List Char) : reduceToken t = (reducedTokens t).flatten := by
  rcases reducedTokens_cases t with ⟨hvoid, ht⟩ | ⟨hstripped, ht⟩ | ⟨hvoid, hstripped, ht⟩
  · rw [ht, reduceToken, if_pos hvoid]
    rfl
  · rw [ht, reduceToken, if_neg (ne_voidWord_of_stripped hstripped), if_pos hstripped,
      List.flatten_nil]
  · rw [ht, reduceToken, if_neg hvoid, if_neg hstripped, List.flatten_singleton]

/-- A single character is no word that is reduced. -/
theorem reducedTokens_singleton (c : Char) : reducedTokens [c] = [[c]] :=
  reducedTokens_eq_self (by simp [voidWord]) (by simp [strippedWords])

theorem IsToken.tokens_reduceToken (h : IsToken t) : tokens (reduceToken t) = reducedTokens t := by
  rw [reduceToken_eq]
  rcases reducedTokens_cases t with ⟨-, ht⟩ | ⟨-, ht⟩ | ⟨-, -, ht⟩ <;> rw [ht]
  · show tokens ['(', ')'] = _
    rw [tokens_cons_other _ (by decide), tokens_cons_other _ (by decide), tokens_nil]
  · exact tokens_nil
  · rw [List.flatten_singleton, h.tokens_eq]

theorem reduceWords_nil : reduceWords [] = [] := by
  rw [reduceWords, tokens_nil, List.flatMap_nil]

theorem reduceWords_append (cs : List Char) (h : BreaksWord rest) :
    reduceWords (cs ++ rest) = reduceWords cs ++ reduceWords rest := by
  rw [reduceWords, tokens_append cs h, List.flatMap_append, reduceWords, reduceWords]

theorem reduceWords_cons_word (cs : List Char) (h : opensWord c = true) :
    reduceWords (c :: cs) =
      reduceToken (c :: cs.takeWhile isWordChar) ++ reduceWords (cs.dropWhile isWordChar) := by
  rw [reduceWords, tokens_cons_word cs h, List.flatMap_cons, reduceWords]

theorem reduceWords_cons_other (cs : List Char) (h : opensWord c = false) :
    reduceWords (c :: cs) = c :: reduceWords cs := by
  rw [reduceWords, tokens_cons_other cs h, List.flatMap_cons, reduceToken_eq,
    reducedTokens_singleton, List.flatten_singleton, List.singleton_append, reduceWords]

/-- A text that no word goes on in is still one when it is reduced: a word that is taken away has
no word behind it either. -/
theorem breaksWord_reduceWords (h : BreaksWord cs) : BreaksWord (reduceWords cs) := by
  fun_induction tokens cs with
  | case1 =>
    rw [reduceWords_nil]
    exact h
  | case2 c cs hc ih =>
    rw [reduceWords_cons_word cs hc, reduceToken_eq]
    rcases reducedTokens_cases (c :: cs.takeWhile isWordChar) with
      ⟨-, ht⟩ | ⟨-, ht⟩ | ⟨-, -, ht⟩ <;> rw [ht]
    · exact breaksWord_cons.mpr (by decide)
    · exact ih (breaksWord_dropWhile cs)
    · exact breaksWord_cons.mpr (breaksWord_cons.mp h)
  | case3 c cs hc ih =>
    rw [reduceWords_cons_other cs (by simpa using hc)]
    exact breaksWord_cons.mpr (breaksWord_cons.mp h)

/-- **The tokens of a reduced text** are those of the text, each of them reduced. -/
theorem tokens_reduceWords (cs : List Char) :
    tokens (reduceWords cs) = (tokens cs).flatMap reducedTokens := by
  fun_induction tokens cs with
  | case1 => rw [reduceWords_nil, tokens_nil, List.flatMap_nil]
  | case2 c cs hc ih =>
    rw [reduceWords_cons_word cs hc,
      tokens_append _ (breaksWord_reduceWords (breaksWord_dropWhile cs)),
      (isToken_takeWhile cs hc).tokens_reduceToken, ih, List.flatMap_cons]
  | case3 c cs hc ih =>
    have hc : opensWord c = false := by simpa using hc
    rw [reduceWords_cons_other cs hc, tokens_cons_other _ hc, ih, List.flatMap_cons,
      reducedTokens_singleton, List.singleton_append]

end PassContext.Signature
