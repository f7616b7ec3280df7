/-
# The integers of a text

A number that is an integer is read from a numeral that fits into 64 bits, so it is not below the
least signed word.  Reading a text as tokens, and its tokens as a tree, makes no numbers of its own.
Hence all integers in the tree of any text are in this range (`inRange_readText`), be the text sound
or not.  From above they are bounded by the greatest unsigned word only; whoever wants a signed one
has to check that.
-/
import Mathlib.Tactic.Common
import PassContext.Json.Tree

namespace PassContext.Json

/-! ## 1. Numbers and tokens -/

/-- An integer is not below the least signed word. -/
def Number.InRange : Number → Prop
  | .integer n => -(maxNegative : Int) ≤ n
  | .float _ => True

theorem Numeral.inRange_scale {n : Numeral} {word : Nat} {shift : Int} {x : Number}
    (h : n.scale word shift = some x) : x.InRange := by
  have hsigned : ∀ {y : Option Decimal.Binary64}, y.map n.signed = some x → x.InRange := by
    intro y hy
    obtain ⟨z, -, rfl⟩ := Option.map_eq_some_iff.mp hy
    exact trivial
  unfold scale at h
  cases hexp : n.exponent with
  | none =>
    simp only [hexp] at h
    exact hsigned h
  | some e =>
    simp only [hexp] at h
    split at h
    · split at h
      · exact absurd h (by simp)
      · obtain rfl := Option.some.inj h
        exact trivial
    · exact hsigned h

theorem Numeral.inRange_number? {n : Numeral} {x : Number} (h : n.number? = some x) :
    x.InRange := by
  unfold number? at h
  rcases hword : leadingWord 0 n.whole with ⟨word, dropped⟩
  cases hfraction : n.fraction with
  | some digits =>
    simp only [hword, hfraction] at h
    exact inRange_scale h
  | none =>
    simp only [hword, hfraction] at h
    split at h
    · exact inRange_scale h
    split at h
    · obtain rfl := Option.some.inj h
      simp only [Number.InRange, maxNegative]
      omega
    split at h
    · exact inRange_scale h
    · rename_i hsmall
      obtain rfl := Option.some.inj h
      simp only [Number.InRange, maxNegative] at hsmall ⊢
      omega

/-- What is said of the numbers of a token. -/
def Token.InRange : Token → Prop
  | .number (some x) => x.InRange
  | _ => True

theorem inRange_token? {c : Char} {rest after : List Char} {t : Token}
    (h : token? c rest = some (t, after)) : t.InRange := by
  simp only [token?, Option.orElse_eq_orElse, Option.orElse_eq_or, Option.or_eq_some_iff,
    Option.map_eq_some_iff, Prod.mk.injEq] at h
  rcases h with ⟨t, hpunctuation, rfl, -⟩ | ⟨-, hstring | ⟨-, hword | ⟨-, hnumber⟩⟩⟩
  · unfold punctuation? at hpunctuation
    split_ifs at hpunctuation <;> obtain rfl := Option.some.inj hpunctuation <;> exact trivial
  · unfold string? at hstring
    split at hstring
    · obtain ⟨⟨s, r⟩, -, ht⟩ := Option.map_eq_some_iff.mp hstring
      obtain ⟨rfl, -⟩ := Prod.mk.inj ht
      exact trivial
    · exact absurd hstring (by simp)
  · unfold literalWord? at hword
    split_ifs at hword <;> obtain ⟨r, -, ht⟩ := Option.map_eq_some_iff.mp hword <;>
      obtain ⟨rfl, -⟩ := Prod.mk.inj ht <;> exact trivial
  · obtain ⟨⟨n, r⟩, -, ht⟩ := Option.map_eq_some_iff.mp hnumber
    obtain ⟨rfl, -⟩ := Prod.mk.inj ht
    cases hx : n.number? with
    | none => exact trivial
    | some x => exact Numeral.inRange_number? hx

theorem inRange_tokens (cs : List Char) : ∀ t ∈ tokens cs, t.InRange := by
  fun_induction tokens cs with
  | case1 => simp
  | case2 c rest hspace ih => exact ih
  | case3 c rest hspace hnone =>
    intro t ht
    obtain rfl := List.mem_singleton.mp ht
    exact trivial
  | case4 c rest hspace t after htoken ih =>
    intro u hu
    rcases List.mem_cons.mp hu with rfl | hu
    · exact inRange_token? htoken
    · exact ih u hu

/-! ## 2. Trees -/

mutual

/-- What is said of the numbers of a tree. -/
def Tree.InRange : Tree → Prop
  | .number (some x) => x.InRange
  | .array items => items.InRange
  | .object members => members.InRange
  | _ => True

def Items.InRange : Items → Prop
  | .item t tail => t.InRange ∧ tail.InRange
  | _ => True

def Members.InRange : Members → Prop
  | .member _ t tail => t.InRange ∧ tail.InRange
  | _ => True

end

theorem Items.inRange_prepend {ts : List Tree} {tail : Items} (hts : ∀ t ∈ ts, t.InRange)
    (htail : tail.InRange) : (Items.prepend ts tail).InRange := by
  induction ts generalizing tail with
  | nil => exact htail
  | cons t ts ih =>
    obtain ⟨ht, hts⟩ := List.forall_mem_cons.mp hts
    exact ih hts ⟨ht, htail⟩

theorem Members.inRange_prepend {ms : List (Option String × Tree)} {tail : Members}
    (hms : ∀ m ∈ ms, m.2.InRange) (htail : tail.InRange) :
    (Members.prepend ms tail).InRange := by
  induction ms generalizing tail with
  | nil => exact htail
  | cons m ms ih =>
    obtain ⟨hm, hms⟩ := List.forall_mem_cons.mp hms
    exact ih hms ⟨hm, htail⟩

def Frame.InRange : Frame → Prop
  | .array items => ∀ t ∈ items, t.InRange
  | .object members _ => ∀ m ∈ members, m.2.InRange

def Due.InRange : Due → Prop
  | .key members | .colon members _ => ∀ m ∈ members, m.2.InRange
  | .next t => t.InRange
  | _ => True

theorem inRange_breakOff {frames : List Frame} {t : Tree} (ht : t.InRange)
    (hframes : ∀ f ∈ frames, f.InRange) : (breakOff t frames).InRange := by
  induction frames generalizing t with
  | nil => exact ht
  | cons f frames ih =>
    obtain ⟨hf, hrest⟩ := List.forall_mem_cons.mp hframes
    cases f with
    | array items =>
      have hcut : Items.cut.InRange := trivial
      exact ih (Items.inRange_prepend (List.forall_mem_cons.mpr ⟨ht, hf⟩) hcut) hrest
    | object members key =>
      have hcut : Members.cut.InRange := trivial
      have hmembers : ∀ m ∈ (key, t) :: members, m.2.InRange :=
        List.forall_mem_cons.mpr ⟨ht, hf⟩
      exact ih (Members.inRange_prepend hmembers hcut) hrest

variable {due due' : Due} {frames frames' : List Frame} {t : Token}

theorem Due.inRange_breakOff (hdue : due.InRange) (hframes : ∀ f ∈ frames, f.InRange) :
    (due.breakOff frames).InRange := by
  have hbroken : Tree.broken.InRange := trivial
  have hcut : Members.cut.InRange := trivial
  cases due with
  | value | firstItem => exact Json.inRange_breakOff hbroken hframes
  | firstKey => exact Json.inRange_breakOff (t := .object .cut) hcut hframes
  | key members =>
    exact Json.inRange_breakOff (t := .object _) (Members.inRange_prepend hdue hcut) hframes
  | colon members key =>
    exact Json.inRange_breakOff hbroken (List.forall_mem_cons.mpr ⟨hdue, hframes⟩)
  | next t => exact Json.inRange_breakOff hdue hframes

theorem inRange_beginValue (ht : t.InRange) (hframes : ∀ f ∈ frames, f.InRange)
    (h : beginValue frames t = some (due', frames')) :
    due'.InRange ∧ ∀ f ∈ frames', f.InRange := by
  cases t with
  | openBracket =>
    obtain ⟨rfl, rfl⟩ := Prod.mk.inj (Option.some.inj h)
    have hnew : (Frame.array []).InRange := by simp [Frame.InRange]
    exact ⟨trivial, List.forall_mem_cons.mpr ⟨hnew, hframes⟩⟩
  | null | bool | string | openBrace =>
    obtain ⟨rfl, rfl⟩ := Prod.mk.inj (Option.some.inj h)
    exact ⟨trivial, hframes⟩
  | number x =>
    obtain ⟨rfl, rfl⟩ := Prod.mk.inj (Option.some.inj h)
    refine ⟨?_, hframes⟩
    cases x with
    | none => exact trivial
    | some x => exact ht
  | closeBracket | closeBrace | comma | colon | junk => exact absurd h (by simp [beginValue])

/-- A token leaves all numbers in range. -/
theorem inRange_advance (ht : t.InRange) (hdue : due.InRange) (hframes : ∀ f ∈ frames, f.InRange)
    (h : advance frames t due = some (due', frames')) :
    due'.InRange ∧ ∀ f ∈ frames', f.InRange := by
  have hitems : Items.closed.InRange := trivial
  have hmembers : Members.closed.InRange := trivial
  cases due with
  | value => exact inRange_beginValue ht hframes h
  | firstItem =>
    simp only [advance] at h
    split at h
    · obtain ⟨rfl, rfl⟩ := Prod.mk.inj (Option.some.inj h)
      exact ⟨hitems, (List.forall_mem_cons.mp hframes).2⟩
    · exact inRange_beginValue ht hframes h
  | firstKey =>
    simp only [advance] at h
    split at h
    · obtain ⟨rfl, rfl⟩ := Prod.mk.inj (Option.some.inj h)
      exact ⟨hmembers, hframes⟩
    · obtain ⟨rfl, rfl⟩ := Prod.mk.inj (Option.some.inj h)
      exact ⟨by simp [Due.InRange], hframes⟩
    · exact absurd h (by simp)
  | key members =>
    simp only [advance] at h
    split at h
    · obtain ⟨rfl, rfl⟩ := Prod.mk.inj (Option.some.inj h)
      exact ⟨hdue, hframes⟩
    · exact absurd h (by simp)
  | colon members key =>
    simp only [advance] at h
    split at h
    · obtain ⟨rfl, rfl⟩ := Prod.mk.inj (Option.some.inj h)
      exact ⟨trivial, List.forall_mem_cons.mpr ⟨hdue, hframes⟩⟩
    · exact absurd h (by simp)
  | next v =>
    simp only [advance] at h
    split at h
    · obtain ⟨rfl, rfl⟩ := Prod.mk.inj (Option.some.inj h)
      obtain ⟨hf, hframes⟩ := List.forall_mem_cons.mp hframes
      exact ⟨trivial, List.forall_mem_cons.mpr ⟨List.forall_mem_cons.mpr ⟨hdue, hf⟩, hframes⟩⟩
    · obtain ⟨rfl, rfl⟩ := Prod.mk.inj (Option.some.inj h)
      obtain ⟨hf, hframes⟩ := List.forall_mem_cons.mp hframes
      exact ⟨Items.inRange_prepend (List.forall_mem_cons.mpr ⟨hdue, hf⟩) hitems, hframes⟩
    · obtain ⟨rfl, rfl⟩ := Prod.mk.inj (Option.some.inj h)
      obtain ⟨hf, hframes⟩ := List.forall_mem_cons.mp hframes
      exact ⟨List.forall_mem_cons.mpr ⟨hdue, hf⟩, hframes⟩
    · obtain ⟨rfl, rfl⟩ := Prod.mk.inj (Option.some.inj h)
      obtain ⟨hf, hframes⟩ := List.forall_mem_cons.mp hframes
      exact ⟨Members.inRange_prepend (List.forall_mem_cons.mpr ⟨hdue, hf⟩) hmembers, hframes⟩
    · exact absurd h (by simp)

theorem inRange_readTokens {ts : List Token} (hts : ∀ t ∈ ts, t.InRange) (hdue : due.InRange)
    (hframes : ∀ f ∈ frames, f.InRange) : (readTokens due frames ts).tree.InRange := by
  fun_induction readTokens due frames ts with
  | case1 due frames => exact Due.inRange_breakOff hdue hframes
  | case2 t ts v => exact hdue
  | case3 t ts due frames _ due' frames' hadvance ih =>
    obtain ⟨ht, hts⟩ := List.forall_mem_cons.mp hts
    obtain ⟨hdue', hframes'⟩ := inRange_advance ht hdue hframes hadvance
    exact ih hts hdue' hframes'
  | case4 t ts due frames _ hnone => exact Due.inRange_breakOff hdue hframes

/-- **All integers in the tree of a text are in range.** -/
theorem inRange_readText (text : String) : (readText text).tree.InRange :=
  inRange_readTokens (inRange_tokens _) trivial (by simp)

end PassContext.Json
