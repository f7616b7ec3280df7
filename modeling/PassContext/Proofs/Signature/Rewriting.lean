/-
# Rewriting words

Rewriting a text takes some of its words away and puts two parentheses in the place of others.
What stood around such a word comes together, and the question is whether it grows together too:
into a longer word, or into one that the next run would rewrite.

It does not.  The tokens of a text are said here without the function that finds them: they make
up the text, and no word goes on in the token behind it (`Splits`).  There is one such splitting of
any text, the one that is found (`splits_iff`).  The rewritten text is split into the tokens of the
text, each of them rewritten on its own (`words_rewrite`).  None of these would be rewritten again,
so that a second run changes nothing; and normalizing, which removes white space between its two
runs, is no more than one run where there is no white space.
-/
import Mathlib.Data.List.Chain
import PassContext.Proofs.Signature.NormalForms

namespace PassContext.Signature

open Text

/-! ## 1. Splitting a text -/

/-- A token that a word character behind it would belong to. -/
def IsWord (t : List Char) : Prop := ∃ c ∈ t.head?, opensWord c = true

/-- No word goes on in the token behind it. -/
def Parted (t t' : List Char) : Prop := IsWord t → BreaksWord t'

/-- A text is split into tokens: they make up the text, and each word is as long as it can be. -/
structure Splits (cs : List Char) (ts : List (List Char)) : Prop where
  whole : ts.flatten = cs
  token : ∀ t ∈ ts, IsToken t
  parted : ts.IsChain Parted

variable {c : Char} {cs t rest : List Char} {ts : List (List Char)}

@[simp] theorem isWord_cons : IsWord (c :: cs) ↔ opensWord c = true := by
  simp [IsWord]

theorem IsToken.exists_cons (h : IsToken t) : ∃ c w, t = c :: w := by
  cases h with
  | @word c w _ _ => exact ⟨c, w, rfl⟩
  | @other c _ => exact ⟨c, [], rfl⟩

/-- A token is the first of a text that it begins, unless it is a word that goes on. -/
theorem IsToken.tokens_append (h : IsToken t) (hrest : IsWord t → BreaksWord rest) :
    tokens (t ++ rest) = t :: tokens rest := by
  cases h with
  | @word c w hc hw =>
    have hbreaks : BreaksWord rest := hrest (isWord_cons.mpr hc)
    rw [Signature.tokens_append _ hbreaks, (IsToken.word hc hw).tokens_eq, List.singleton_append]
  | other hc => exact tokens_cons_other rest hc

/-- What is behind a token in a splitting begins as the next token does. -/
theorem breaksWord_flatten (hts : ∀ u ∈ ts, IsToken u) (h : ∀ u ∈ ts.head?, BreaksWord u) :
    BreaksWord ts.flatten := by
  cases ts with
  | nil => exact fun c hc => absurd hc (by simp)
  | cons u ts =>
    obtain ⟨c, w, rfl⟩ := (hts u (List.mem_cons_self ..)).exists_cons
    have hc : BreaksWord (c :: w) := h _ rfl
    exact breaksWord_cons.mpr (breaksWord_cons.mp hc)

/-- The splitting of a text is the one that is found. -/
theorem Splits.tokens_eq (h : Splits cs ts) : tokens cs = ts := by
  obtain ⟨rfl, htoken, hparted⟩ := h
  -- What is behind the first token is split into the others.
  induction ts with
  | nil => exact tokens_nil
  | cons t ts ih =>
    have htail : ∀ u ∈ ts, IsToken u := fun u hu => htoken u (List.mem_cons_of_mem _ hu)
    obtain ⟨hnext, hrest⟩ := List.isChain_cons.mp hparted
    have hbreaks : IsWord t → BreaksWord ts.flatten := fun hword =>
      breaksWord_flatten htail fun u hu => hnext u hu hword
    rw [List.flatten_cons, (htoken t (List.mem_cons_self ..)).tokens_append hbreaks, ih htail hrest]

/-- The first token of a text begins as the text does. -/
theorem breaksWord_of_head?_tokens (h : BreaksWord cs) (ht : t ∈ (tokens cs).head?) :
    BreaksWord t := by
  cases cs with
  | nil => exact absurd ht (by simp)
  | cons c cs =>
    have hc : isWordChar c = false := breaksWord_cons.mp h
    by_cases hopens : opensWord c = true
    · rw [tokens_cons_word cs hopens] at ht
      obtain rfl := Option.some.inj ht
      exact breaksWord_cons.mpr hc
    · rw [tokens_cons_other cs (by simpa using hopens)] at ht
      obtain rfl := Option.some.inj ht
      exact breaksWord_cons.mpr hc

/-- What is found is a splitting. -/
theorem splits_tokens (cs : List Char) : Splits cs (tokens cs) := by
  refine ⟨flatten_tokens cs, fun t ht => isToken_of_mem_tokens ht, ?_⟩
  fun_induction tokens cs with
  | case1 => exact List.isChain_nil
  | case2 c cs hc ih =>
    exact ih.cons fun u hu _ => breaksWord_of_head?_tokens (breaksWord_dropWhile cs) hu
  | case3 c cs hc ih =>
    exact ih.cons fun u _ hword => absurd (isWord_cons.mp hword) hc

/-- **A text is split in one way.** -/
theorem splits_iff : Splits cs ts ↔ tokens cs = ts :=
  ⟨Splits.tokens_eq, fun h => h ▸ splits_tokens cs⟩

/-! ## 2. Rewriting the words of a text -/

/-- The tokens of a text. -/
def words (text : String) : List String := (tokens text.toList).map .ofList

/-- The text with its words rewritten once. -/
def rewrite (text : String) : String := .ofList (reduceWords text.toList)

/-- What rewriting makes of a token. -/
def rewritten (t : String) : List String :=
  if t = "Void" then ["(", ")"]
  else if t ∈ ["@autoclosure", "@escaping", "throws", "rethrows"] then []
  else [t]

@[simp] theorem toList_rewrite (text : String) :
    (rewrite text).toList = reduceWords text.toList := by
  simp [rewrite]

@[simp] theorem map_toList_words (text : String) :
    (words text).map String.toList = tokens text.toList := by
  simp [words, Function.comp_def]

theorem words_eq_iff {text : String} {ts : List String} :
    words text = ts ↔ tokens text.toList = ts.map String.toList := by
  have hinj : Function.Injective String.toList := fun _ _ h => String.toList_injective h
  rw [← map_toList_words, (List.map_injective_iff.mpr hinj).eq_iff]

theorem map_ofList_reducedTokens (t : List Char) :
    (reducedTokens t).map String.ofList = rewritten (.ofList t) := by
  have hvoid : String.ofList t = "Void" ↔ t = voidWord := by
    rw [← String.toList_inj, String.toList_ofList]
    rfl
  have hstripped : String.ofList t ∈ ["@autoclosure", "@escaping", "throws", "rethrows"] ↔
      t ∈ strippedWords := by
    simp only [strippedWords, List.mem_cons, List.not_mem_nil, or_false, ← String.toList_inj,
      String.toList_ofList]
    rfl
  unfold rewritten
  simp only [hvoid, hstripped]
  rcases reducedTokens_cases t with ⟨h, ht⟩ | ⟨h, ht⟩ | ⟨hne, hnot, ht⟩
  · rw [ht, if_pos h]
    rfl
  · rw [ht, if_neg (ne_voidWord_of_stripped h), if_pos h, List.map_nil]
  · rw [ht, if_neg hne, if_neg hnot, List.map_singleton]

/-- **The words of a rewritten text** are those of the text, each rewritten on its own. -/
theorem words_rewrite (text : String) : words (rewrite text) = (words text).flatMap rewritten := by
  rw [words, toList_rewrite, tokens_reduceWords, words, List.map_flatMap, List.flatMap_map]
  exact List.flatMap_congr fun t _ => map_ofList_reducedTokens t

/-! ## 3. Rewriting again -/

/-- A second run changes nothing. -/
theorem reduceWords_reduceWords (cs : List Char) : reduceWords (reduceWords cs) = reduceWords cs :=
  reduceWords_eq_self fun _ ht => kept_of_mem_tokens ht

/-- Where no white space is removed between its runs, normalizing is rewriting. -/
theorem normalForm_eq_reduceWords (h : ∀ c ∈ cs, isBlank c = false) :
    normalForm cs = reduceWords cs := by
  have hblank : ∀ c ∈ reduceWords cs, isBlank c = false := by
    intro c hc
    rcases mem_of_mem_reduceWords hc with hmem | rfl | rfl
    · exact h c hmem
    · decide
    · decide
  rw [normalForm, removeBlanks_eq_self hblank, reduceWords_reduceWords]

/-- What is said of the words of a text and of the text with its words rewritten. -/
structure RewritesWords (text : String) : Prop where
  /-- There is one way to split the text into words and other characters. -/
  split : ∀ ts, Splits text.toList (ts.map String.toList) ↔ words text = ts
  words_eq : words (rewrite text) = (words text).flatMap rewritten
  again : rewrite (rewrite text) = rewrite text
  /-- White space is all that normalizing needs another run for. -/
  once : (∀ c ∈ text.toList, isBlank c = false) → normalize text = rewrite text

/-- **Rewriting words neither joins nor parts what is around them**, in any text. -/
theorem rewritesWords (text : String) : RewritesWords text where
  split ts := by rw [splits_iff, words_eq_iff]
  words_eq := words_rewrite text
  again := by
    rw [← String.toList_inj, toList_rewrite, toList_rewrite, reduceWords_reduceWords]
  once h := by rw [normalize, normalForm_eq_reduceWords h, rewrite]

/-- What is around `@escaping` is not joined, and `@throws` is another word than `throws`. -/
example : words (rewrite "a@escaping@b throws@throws,Void") =
    ["a", "@b", " ", "@throws", ",", "(", ")"] := by cbv

end PassContext.Signature
