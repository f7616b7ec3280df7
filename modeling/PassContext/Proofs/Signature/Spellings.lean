/-
# Spellings of a signature

White space, attributes and markers say nothing about which overload is meant, and `Void` says the
same as `()`.  What is left of the tokens of a signature without all that is `significant`, and the
normal form depends on nothing else (`normalForm_congr`): before its second reduction, the text is
that of the significant tokens (`removeBlanks_reduceWords`).

So a text may be put between two tokens if it adds no significant token, and leaves the others as
they are: no word in front goes on in it, and it does not end in a word itself.
-/
import PassContext.Proofs.Signature.Boundaries

namespace PassContext.Signature

open Text

/-! ## 1. Significant tokens -/

/-- White space as a token. -/
def isBlankToken : List Char → Bool
  | [c] => isBlank c
  | _ => false

/-- The tokens without white space, each of them reduced. -/
def significant (ts : List (List Char)) : List (List Char) :=
  (ts.filter fun t => !isBlankToken t).flatMap reducedTokens

variable {t cs : List Char}

theorem significant_nil : significant [] = [] := rfl

theorem significant_cons (t : List Char) (ts : List (List Char)) :
    significant (t :: ts) = (if isBlankToken t then [] else reducedTokens t) ++ significant ts := by
  unfold significant
  cases h : isBlankToken t <;> simp [h]

theorem significant_append (ts ts' : List (List Char)) :
    significant (ts ++ ts') = significant ts ++ significant ts' := by
  rw [significant, List.filter_append, List.flatMap_append, significant, significant]

theorem IsToken.not_isBlank_of_mem (h : IsToken t) (hblank : isBlankToken t = false) :
    ∀ x ∈ t, isBlank x = false := by
  intro x hx
  cases h with
  | @word c w hc hw =>
    have hopens : opensWord x = true := by
      rcases List.mem_cons.mp hx with rfl | hmem
      · exact hc
      · rw [opensWord, hw x hmem, Bool.or_true]
    rw [Bool.eq_false_iff]
    intro hx
    exact absurd (hopens.symm.trans (opensWord_of_isBlank hx)) (by simp)
  | other hc =>
    obtain rfl := List.mem_singleton.mp hx
    exact hblank

/-- Of the tokens that a token is reduced to, only white space is lost. -/
theorem IsToken.removeBlanks_reduceToken (h : IsToken t) :
    removeBlanks (reduceToken t) = (if isBlankToken t then [] else reducedTokens t).flatten := by
  cases hblank : isBlankToken t with
  | true =>
    obtain ⟨c, rfl, hc⟩ : ∃ c, t = [c] ∧ isBlank c = true := by
      cases h with
      | @word c w hc hw =>
        cases w with
        | nil => exact ⟨c, rfl, hblank⟩
        | cons d w => exact absurd hblank (by simp [isBlankToken])
      | @other c hc => exact ⟨c, rfl, hblank⟩
    rw [reduceToken_eq, reducedTokens_singleton, List.flatten_singleton, if_pos rfl]
    simp [removeBlanks, hc]
  | false =>
    rw [reduceToken_eq, if_neg (by simp)]
    rcases reducedTokens_cases t with ⟨-, ht⟩ | ⟨-, ht⟩ | ⟨-, -, ht⟩ <;> rw [ht]
    · rfl
    · rfl
    · rw [List.flatten_singleton, removeBlanks_eq_self (h.not_isBlank_of_mem hblank)]

/-- **The text that the second reduction gets** is that of the significant tokens. -/
theorem removeBlanks_reduceWords (cs : List Char) :
    removeBlanks (reduceWords cs) = (significant (tokens cs)).flatten := by
  have htokens : ∀ t ∈ tokens cs, IsToken t := fun t ht => isToken_of_mem_tokens ht
  unfold reduceWords
  generalize tokens cs = ts at htokens ⊢
  induction ts with
  | nil => rfl
  | cons t ts ih =>
    have htail := ih fun t' ht' => htokens t' (List.mem_cons_of_mem _ ht')
    have hhead := (htokens t (List.mem_cons_self ..)).removeBlanks_reduceToken
    rw [removeBlanks] at htail hhead ⊢
    rw [List.flatMap_cons, List.filter_append, hhead, htail, significant_cons, List.flatten_append]

theorem normalForm_congr {cs cs' : List Char}
    (h : significant (tokens cs) = significant (tokens cs')) : normalForm cs = normalForm cs' := by
  rw [normalForm, normalForm, removeBlanks_reduceWords, removeBlanks_reduceWords, h]

/-! ## 2. Places in a text -/

/-- A place between tokens: in front of it are some first tokens of the whole text. -/
def Boundary (front back : List Char) : Prop :=
  ∃ before after, tokens (front ++ back) = before ++ after ∧ before.flatten = front

/-- A token of a text, with what is in front of it and behind it. -/
def StandsAlone (front token back : List Char) : Prop :=
  ∃ before after, tokens (front ++ token ++ back) = before ++ token :: after ∧
    before.flatten = front

variable {front back token filler : List Char}

theorem Boundary.tokens_eq (h : Boundary front back) :
    tokens (front ++ back) = tokens front ++ tokens back := by
  obtain ⟨before, after, htokens, rfl⟩ := h
  have htext : before.flatten ++ after.flatten = before.flatten ++ back := by
    rw [← List.flatten_append, ← htokens, flatten_tokens]
  obtain rfl := List.append_cancel_left htext
  obtain ⟨hbefore, hafter⟩ := tokens_flatten_of_append htokens
  rw [htokens, hbefore, hafter]

theorem StandsAlone.tokens_eq (h : StandsAlone front token back) :
    tokens (front ++ token ++ back) = tokens front ++ token :: tokens back := by
  obtain ⟨before, after, htokens, rfl⟩ := h
  have htext : before.flatten ++ token ++ after.flatten = before.flatten ++ token ++ back := by
    rw [← flatten_tokens (before.flatten ++ token ++ back), htokens, List.flatten_append,
      List.flatten_cons, List.append_assoc]
  obtain rfl := List.append_cancel_left htext
  have hbefore := (tokens_flatten_of_append htokens).1
  rw [List.append_cons] at htokens
  have hafter := (tokens_flatten_of_append htokens).2
  rw [htokens, hbefore, hafter, List.append_assoc, List.singleton_append]

/-! ## 3. Texts between tokens -/

/-- A text that no token goes beyond, with no significant token in it. -/
structure Silent (filler : List Char) : Prop where
  ends : ∀ rest, tokens (filler ++ rest) = tokens filler ++ tokens rest
  silent : significant (tokens filler) = []

theorem Silent.append {filler' : List Char} (h : Silent filler) (h' : Silent filler') :
    Silent (filler ++ filler') where
  ends rest := by rw [List.append_assoc, h.ends, h'.ends, h.ends, List.append_assoc]
  silent := by rw [h.ends, significant_append, h.silent, h'.silent, List.append_nil]

theorem silent_blank {c : Char} (h : isBlank c = true) : Silent [c] := by
  have htokens : tokens [c] = [[c]] := (IsToken.other (opensWord_of_isBlank h)).tokens_eq
  have hblank : isBlankToken [c] = true := h
  refine ⟨fun rest => ?_, ?_⟩
  · rw [htokens, List.singleton_append, tokens_cons_other rest (opensWord_of_isBlank h),
      List.singleton_append]
  · rw [htokens, significant_cons, if_pos hblank, significant_nil, List.append_nil]

theorem silent_blanks (h : ∀ c ∈ cs, isBlank c = true) : Silent cs := by
  induction cs with
  | nil => exact ⟨fun rest => by rw [tokens_nil, List.nil_append, List.nil_append],
      by rw [tokens_nil, significant_nil]⟩
  | cons c cs ih =>
    obtain ⟨hc, hcs⟩ := List.forall_mem_cons.mp h
    exact (silent_blank hc).append (ih hcs)

theorem isToken_of_mem_strippedWords (h : t ∈ strippedWords) : IsToken t := by
  simp only [strippedWords, List.mem_cons, List.not_mem_nil, or_false] at h
  rcases h with rfl | rfl | rfl | rfl <;> exact .word rfl (List.all_eq_true.mp rfl)

theorem significant_stripped (h : t ∈ strippedWords) : significant [t] = [] := by
  rw [significant_cons, reducedTokens_of_stripped h, ite_self, significant_nil, List.append_nil]

/-- A stripped word ends at the white space behind it. -/
theorem silent_stripped {c : Char} (h : t ∈ strippedWords) (hc : isBlank c = true) :
    Silent (t ++ [c]) := by
  have htokens : ∀ rest, tokens (t ++ [c] ++ rest) = [t] ++ tokens ([c] ++ rest) := by
    intro rest
    have hbreaks : BreaksWord ([c] ++ rest) := breaksWord_cons.mpr (isWordChar_of_isBlank hc)
    rw [List.append_assoc, tokens_append t hbreaks, (isToken_of_mem_strippedWords h).tokens_eq]
  have htoken : tokens (t ++ [c]) = [t] ++ tokens [c] := by simpa using htokens []
  refine ⟨fun rest => ?_, ?_⟩
  · rw [htokens, (silent_blank hc).ends, htoken, List.append_assoc]
  · rw [htoken, significant_append, significant_stripped h, (silent_blank hc).silent,
      List.append_nil]

/-- The attributes of a parameter. -/
def attributes : List (List Char) :=
  [['@', 'a', 'u', 't', 'o', 'c', 'l', 'o', 's', 'u', 'r', 'e'],
   ['@', 'e', 's', 'c', 'a', 'p', 'i', 'n', 'g']]

/-- The words for functions that throw. -/
def markers : List (List Char) :=
  [['t', 'h', 'r', 'o', 'w', 's'], ['r', 'e', 't', 'h', 'r', 'o', 'w', 's']]

theorem strippedWords_eq : strippedWords = attributes ++ markers := rfl

/-- What a spelling may have between two tokens.  A marker needs white space on both sides, and
an attribute only behind it, because its `@` is in no word. -/
inductive Filler : List Char → Prop
  | blanks {c : Char} {cs : List Char} : isBlank c = true → (∀ x ∈ cs, isBlank x = true) →
      Filler (c :: cs)
  | attributed {w : List Char} {c : Char} : w ∈ attributes → isBlank c = true → Filler (w ++ [c])
  | marked {b c : Char} {w : List Char} : isBlank b = true → w ∈ markers → isBlank c = true →
      Filler (b :: (w ++ [c]))

theorem Filler.silent (h : Filler filler) : Silent filler := by
  cases h with
  | blanks hc hcs => exact silent_blanks (List.forall_mem_cons.mpr ⟨hc, hcs⟩)
  | attributed hw hc =>
    exact silent_stripped (strippedWords_eq ▸ List.mem_append_left markers hw) hc
  | marked hb hw hc =>
    exact (silent_blank hb).append
      (silent_stripped (strippedWords_eq ▸ List.mem_append_right attributes hw) hc)

theorem Filler.breaksWord (h : Filler filler) (rest : List Char) : BreaksWord (filler ++ rest) := by
  cases h with
  | blanks hc _ => exact breaksWord_cons.mpr (isWordChar_of_isBlank hc)
  | attributed hw _ =>
    simp only [attributes, List.mem_cons, List.not_mem_nil, or_false] at hw
    rcases hw with rfl | rfl <;> exact breaksWord_cons.mpr rfl
  | marked hb _ _ => exact breaksWord_cons.mpr (isWordChar_of_isBlank hb)

/-- **Between two tokens a filler says nothing.** -/
theorem Filler.normalForm_eq (h : Filler filler) (hplace : Boundary front back) :
    normalForm (front ++ filler ++ back) = normalForm (front ++ back) := by
  apply normalForm_congr
  rw [List.append_assoc, tokens_append front (h.breaksWord back), h.silent.ends, significant_append,
    significant_append, h.silent.silent, List.nil_append, hplace.tokens_eq, significant_append]

/-- `Void` in a text may be written as the empty tuple. -/
theorem normalForm_void (h : StandsAlone front voidWord back) :
    normalForm (front ++ ['(', ')'] ++ back) = normalForm (front ++ voidWord ++ back) := by
  apply normalForm_congr
  have htuple : tokens (front ++ ['(', ')'] ++ back) =
      tokens front ++ ['('] :: [')'] :: tokens back := by
    rw [List.append_assoc, List.cons_append, List.singleton_append,
      tokens_append_cons front (by decide), tokens_cons_other back (by decide)]
  rw [htuple, h.tokens_eq, significant_append, significant_append]
  rfl

/-! ## 4. Any signatures -/

/-- What a normal form of signatures does not show of the spelling. -/
structure IgnoresSpelling (normal : String → String) : Prop where
  /-- It shows the significant tokens only. -/
  alike : ∀ s t, significant (tokens s.toList) = significant (tokens t.toList) →
    normal s = normal t
  /-- So it does not show white space, attributes or markers between tokens -/
  filler : ∀ front filler back : String, Boundary front.toList back.toList →
    Filler filler.toList → normal (front ++ filler ++ back) = normal (front ++ back)
  /-- nor which spelling of the empty tuple was taken. -/
  void : ∀ front back : String, StandsAlone front.toList "Void".toList back.toList →
    normal (front ++ "()" ++ back) = normal (front ++ "Void" ++ back)

/-- **Normal forms do not show how a signature was spelled.** -/
theorem ignoresSpelling : IgnoresSpelling normalize where
  alike s t h := congrArg String.ofList (normalForm_congr h)
  filler front filler back hplace hfiller := by
    rw [← String.toList_inj, toList_normalize, toList_normalize]
    simp only [String.toList_append]
    exact hfiller.normalForm_eq hplace
  void front back h := by
    rw [← String.toList_inj, toList_normalize, toList_normalize]
    simp only [String.toList_append]
    exact normalForm_void h

/-- A signature as it is recorded, and as it is written at a call. -/
example : normalize "(Int, @escaping () -> Void) throws" = normalize "(Int,()->())" := by cbv

end PassContext.Signature
