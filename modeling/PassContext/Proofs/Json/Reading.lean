/-
# The text of a value read as a tree

The tokens that a value is spelled with make its tree (`readTokens_spelling`).  So every text that
spells the value, and its compact text among them, is read as this tree with nothing behind it
(`readText_of_spelled`).

How deep a text nests is counted on its tokens, so that brackets inside of strings do not count.
For the text of a value this is the depth of the value.
-/
import PassContext.Json.Tree
import PassContext.Proofs.Json.Tokens

namespace PassContext.Json

/-! ## 1. Trees -/

mutual

/-- The tree of a value. -/
def toTree : Json → Tree
  | .null => .null
  | .bool b => .bool b
  | .int n => .number (intNumeral n).number?
  | .string s => .string (some s)
  | .array items => .array (itemsTree items)
  | .object members => .object (membersTree members)

def itemsTree : List Json → Items
  | [] => .closed
  | j :: js => .item j.toTree (itemsTree js)

def membersTree : List (String × Json) → Members
  | [] => .closed
  | (key, j) :: rest => .member (some key) j.toTree (membersTree rest)

end

/-- A token that makes something due is read. -/
theorem readTokens_of_advance {due due' : Due} {frames frames' : List Frame} {t : Token}
    (h : advance frames t due = some (due', frames')) (ts : List Token) :
    readTokens due frames (t :: ts) = readTokens due' frames' ts := by
  rw [readTokens]
  · rw [h]
  · rintro v rfl rfl
    cases t <;> simp [advance] at h

/-- No value begins with a closing bracket. -/
theorem exists_spelling_eq_cons (j : Json) :
    ∃ t ts, j.spelling = t :: ts ∧ t ≠ .closeBracket := by
  cases j with
  | null | bool | int | string | array | object => exact ⟨_, _, rfl, by simp⟩

/-- The first item of an array is a value like others. -/
theorem readTokens_firstItem (j : Json) (frames : List Frame) (ts : List Token) :
    readTokens .firstItem frames (j.spelling ++ ts) =
      readTokens .value frames (j.spelling ++ ts) := by
  obtain ⟨t, ts', hspelling, ht⟩ := exists_spelling_eq_cons j
  have hadvance : advance frames t .firstItem = advance frames t .value := by
    cases t with
    | closeBracket => exact absurd rfl ht
    | _ => rfl
  rw [hspelling, List.cons_append, readTokens, readTokens, hadvance]
  · rfl
  · simp
  · simp

/-- The name of a member and the colon make its value due. -/
theorem readTokens_key (done : List (Option String × Tree)) (key : String) (frames : List Frame)
    (ts : List Token) : readTokens (.key done) frames (.string (some key) :: .colon :: ts) =
      readTokens .value (.object done (some key) :: frames) ts := by
  have hkey : advance frames (.string (some key)) (.key done) =
    some (.colon done (some key), frames) := rfl
  have hcolon : advance frames .colon (.colon done (some key)) =
    some (.value, .object done (some key) :: frames) := rfl
  rw [readTokens_of_advance hkey, readTokens_of_advance hcolon]

/-- The first member of an object is a member like others. -/
theorem readTokens_firstKey (m : String × Json) (rest : List (String × Json))
    (frames : List Frame) (ts : List Token) :
    readTokens .firstKey frames (membersSpelling (m :: rest) ++ ts) =
      readTokens (.key []) frames (membersSpelling (m :: rest) ++ ts) := by
  have hfirst : advance frames (.string (some m.1)) .firstKey =
    some (.colon [] (some m.1), frames) := rfl
  have hkey : advance frames (.string (some m.1)) (.key []) =
    some (.colon [] (some m.1), frames) := rfl
  cases rest with
  | nil =>
    simp only [membersSpelling, List.cons_append]
    rw [readTokens_of_advance hfirst, readTokens_of_advance hkey]
  | cons m' rest =>
    simp only [membersSpelling, List.cons_append]
    rw [readTokens_of_advance hfirst, readTokens_of_advance hkey]

mutual

/-- **The tokens of a value are read as its tree.** -/
theorem readTokens_spelling : ∀ (j : Json) (frames : List Frame) (ts : List Token),
    readTokens .value frames (j.spelling ++ ts) = readTokens (.next j.toTree) frames ts
  | .null, frames, ts => readTokens_of_advance rfl ts
  | .bool b, frames, ts => readTokens_of_advance rfl ts
  | .int n, frames, ts => readTokens_of_advance rfl ts
  | .string s, frames, ts => readTokens_of_advance rfl ts
  | .array items, frames, ts => by
    have hopen : advance frames .openBracket .value = some (.firstItem, .array [] :: frames) := rfl
    have hitems := readTokens_itemsSpelling items [] frames ts
    simp only [spelling, List.cons_append, List.append_assoc, List.nil_append, toTree]
    rw [readTokens_of_advance hopen]
    cases items with
    | nil => exact readTokens_of_advance rfl ts
    | cons j js =>
      refine Eq.trans ?_ (hitems (by simp))
      cases js with
      | nil => exact readTokens_firstItem j _ _
      | cons k js =>
        simp only [itemsSpelling, List.append_assoc]
        exact readTokens_firstItem j _ _
  | .object members, frames, ts => by
    have hopen : advance frames .openBrace .value = some (.firstKey, frames) := rfl
    have hmembers := readTokens_membersSpelling members [] frames ts
    simp only [spelling, List.cons_append, List.append_assoc, List.nil_append, toTree]
    rw [readTokens_of_advance hopen]
    cases members with
    | nil => exact readTokens_of_advance rfl ts
    | cons m rest =>
      refine Eq.trans ?_ (hmembers (by simp))
      exact readTokens_firstKey m rest frames _

theorem readTokens_itemsSpelling : ∀ (js : List Json) (done : List Tree) (frames : List Frame)
    (ts : List Token), js ≠ [] →
    readTokens .value (.array done :: frames) (itemsSpelling js ++ .closeBracket :: ts) =
      readTokens (.next (.array (.prepend done (itemsTree js)))) frames ts
  | [], _, _, _, h => absurd rfl h
  | [j], done, frames, ts, _ => by
    rw [itemsSpelling, readTokens_spelling j]
    exact readTokens_of_advance rfl ts
  | j :: k :: js, done, frames, ts, _ => by
    have htail := readTokens_itemsSpelling (k :: js) (j.toTree :: done) frames ts (by simp)
    simp only [itemsSpelling, List.append_assoc, List.cons_append] at htail ⊢
    rw [readTokens_spelling j]
    exact (readTokens_of_advance rfl _).trans htail

theorem readTokens_membersSpelling : ∀ (members : List (String × Json))
    (done : List (Option String × Tree)) (frames : List Frame) (ts : List Token), members ≠ [] →
    readTokens (.key done) frames (membersSpelling members ++ .closeBrace :: ts) =
      readTokens (.next (.object (.prepend done (membersTree members)))) frames ts
  | [], _, _, _, h => absurd rfl h
  | [(key, j)], done, frames, ts, _ => by
    rw [membersSpelling, List.cons_append, List.cons_append, readTokens_key,
      readTokens_spelling j]
    exact readTokens_of_advance rfl ts
  | (key, j) :: m :: rest, done, frames, ts, _ => by
    have htail := readTokens_membersSpelling (m :: rest) ((some key, j.toTree) :: done) frames ts
      (by simp)
    rw [membersSpelling, List.cons_append, List.cons_append, readTokens_key, List.append_assoc,
      readTokens_spelling j]
    · exact (readTokens_of_advance rfl _).trans htail
    · simp

end

/-- **A text that spells a value is read as its tree**, and nothing is left over. -/
theorem readText_of_spelled {j : Json} {text : String} (h : Spelled j.spelling text.toList) :
    readText text = ⟨j.toTree, true⟩ := by
  have hread := readTokens_spelling j [] []
  rw [List.append_nil] at hread
  rw [readText, tokens_eq_spelling h, hread]
  rfl

theorem readText_text (j : Json) : readText j.text = ⟨j.toTree, true⟩ :=
  readText_of_spelled (spelled_text j)

/-! ## 2. Nesting -/

/-- How many arrays and objects are open behind a token, where `n` are open in front of it. -/
def Token.openAfter (n : Nat) : Token → Nat
  | .openBracket | .openBrace => n + 1
  | .closeBracket | .closeBrace => n - 1
  | _ => n

/-- The most arrays and objects that are open at once in tokens, where `n` are open in front. -/
def mostOpen : Nat → List Token → Nat
  | n, [] => n
  | n, t :: ts => max n (mostOpen (t.openAfter n) ts)

/-- The most arrays and objects that are open at once in a text. -/
def nesting (text : String) : Nat := mostOpen 0 (tokens text.toList)

theorem le_mostOpen (n : Nat) (ts : List Token) : n ≤ mostOpen n ts := by
  cases ts with
  | nil => exact Nat.le_refl n
  | cons t ts => exact Nat.le_max_left ..

mutual

theorem mostOpen_spelling : ∀ (j : Json) (n : Nat) (ts : List Token),
    mostOpen n (j.spelling ++ ts) = max (n + j.depth) (mostOpen n ts)
  | .null, n, ts => rfl
  | .bool b, n, ts => rfl
  | .int i, n, ts => rfl
  | .string s, n, ts => rfl
  | .array items, n, ts => by
    have hitems := mostOpen_itemsSpelling items (n + 1) (.closeBracket :: ts)
    have hclose : mostOpen (n + 1) (.closeBracket :: ts) = max (n + 1) (mostOpen n ts) := rfl
    have hle := le_mostOpen n ts
    simp only [spelling, List.cons_append, List.append_assoc, List.nil_append, mostOpen,
      Token.openAfter, depth]
    rw [hitems, hclose]
    omega
  | .object members, n, ts => by
    have hmembers := mostOpen_membersSpelling members (n + 1) (.closeBrace :: ts)
    have hclose : mostOpen (n + 1) (.closeBrace :: ts) = max (n + 1) (mostOpen n ts) := rfl
    have hle := le_mostOpen n ts
    simp only [spelling, List.cons_append, List.append_assoc, List.nil_append, mostOpen,
      Token.openAfter, depth]
    rw [hmembers, hclose]
    omega

theorem mostOpen_itemsSpelling : ∀ (js : List Json) (n : Nat) (ts : List Token),
    mostOpen n (itemsSpelling js ++ ts) = max (n + itemsDepth js) (mostOpen n ts)
  | [], n, ts => by
    have hle := le_mostOpen n ts
    simp only [itemsSpelling, itemsDepth, List.nil_append]
    omega
  | [j], n, ts => by
    have hhead := mostOpen_spelling j n ts
    simp only [itemsSpelling, itemsDepth]
    rw [hhead]
    omega
  | j :: k :: js, n, ts => by
    have hhead := mostOpen_spelling j n (.comma :: (itemsSpelling (k :: js) ++ ts))
    have htail := mostOpen_itemsSpelling (k :: js) n ts
    have hcomma : mostOpen n (.comma :: (itemsSpelling (k :: js) ++ ts)) =
      max n (mostOpen n (itemsSpelling (k :: js) ++ ts)) := rfl
    have hdepth : itemsDepth (j :: k :: js) = max j.depth (itemsDepth (k :: js)) := rfl
    rw [itemsSpelling, List.append_assoc, List.cons_append, hhead, hcomma, htail, hdepth]
    · omega
    · simp

theorem mostOpen_membersSpelling : ∀ (members : List (String × Json)) (n : Nat)
    (ts : List Token),
    mostOpen n (membersSpelling members ++ ts) = max (n + membersDepth members) (mostOpen n ts)
  | [], n, ts => by
    have hle := le_mostOpen n ts
    simp only [membersSpelling, membersDepth, List.nil_append]
    omega
  | [(key, j)], n, ts => by
    have hvalue := mostOpen_spelling j n ts
    simp only [membersSpelling, membersDepth, List.cons_append, mostOpen, Token.openAfter]
    rw [hvalue]
    omega
  | (key, j) :: m :: rest, n, ts => by
    have hvalue := mostOpen_spelling j n (.comma :: (membersSpelling (m :: rest) ++ ts))
    have htail := mostOpen_membersSpelling (m :: rest) n ts
    have hcomma : mostOpen n (.comma :: (membersSpelling (m :: rest) ++ ts)) =
      max n (mostOpen n (membersSpelling (m :: rest) ++ ts)) := rfl
    have hdepth : membersDepth ((key, j) :: m :: rest) = max j.depth (membersDepth (m :: rest)) :=
      rfl
    rw [membersSpelling, List.cons_append, List.cons_append, List.append_assoc, List.cons_append]
    · simp only [mostOpen, Token.openAfter] at hvalue hcomma htail ⊢
      rw [hvalue, htail, hdepth]
      omega
    · simp

end

theorem itemsDepth_le_iff {js : List Json} {n : Nat} :
    itemsDepth js ≤ n ↔ ∀ j ∈ js, j.depth ≤ n := by
  induction js with
  | nil => simp [itemsDepth]
  | cons j js ih => simp only [itemsDepth, Nat.max_le, ih, List.forall_mem_cons]

theorem membersDepth_le_iff {members : List (String × Json)} {n : Nat} :
    membersDepth members ≤ n ↔ ∀ m ∈ members, m.2.depth ≤ n := by
  induction members with
  | nil => simp [membersDepth]
  | cons m members ih => simp only [membersDepth, Nat.max_le, ih, List.forall_mem_cons]

/-- **A written text nests as deep as its value.** -/
theorem nesting_text (j : Json) : nesting j.text = j.depth := by
  have h := mostOpen_spelling j 0 []
  rw [List.append_nil] at h
  rw [nesting, tokens_eq_spelling (spelled_text j), h]
  simp [mostOpen]

end PassContext.Json
