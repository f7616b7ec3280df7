/-
# Which functions keep to their own rules

A rule is found by the base name of a call, which is cut from the name at the first `(` or `<`.  The
base name of an identifier ends there: labels begin with `(` and generic parameters with `<`.  An
operator has labels only, and it may contain `<` itself.  Then the cut leaves what is in front of
that, which may be nothing at all (`ApiName.baseName_eq`).

So two functions are taken for one exactly if their base names are the same up to the first `<`; and
unless they are one function, both are operators and one of them contains `<` (`front_eq_iff`).
Rules of other functions are found just in the vocabularies in which two such operators meet
(`toldApart_iff`).  Where `<` and `<=` are used at one type, a call of the one may be translated by
the rule for the other (`rule_of_other_function`).

Of the characters that operators begin with nothing has to be known but that `<` is one
(`OperatorSigns`).
-/
import Mathlib.Data.List.TakeWhile
import Mathlib.Data.Set.Defs
import PassContext.Proofs.Registry.FirstRule

namespace PassContext

open Signature

/-! ## 1. Names of functions -/

/-- A text between two characters, if there is one at all. -/
def enclosed (left right : Char) : Option String → String
  | none => ""
  | some inside => String.singleton left ++ inside ++ String.singleton right

/-- Generic parameters, such as `<T>`. -/
def genericList : Option String → String := enclosed '<' '>'

/-- Labels, such as `(of:)`. -/
def labelList : Option String → String := enclosed '(' ')'

/-- The characters that operators begin with.  None of them is in an identifier. -/
structure OperatorSigns where
  opens : Char → Bool
  opens_less : opens '<' = true

/-- The operator characters of ASCII. -/
def OperatorSigns.ascii : OperatorSigns where
  opens c := ['/', '=', '-', '+', '!', '*', '%', '<', '>', '&', '|', '^', '~', '?', '.'].contains c
  opens_less := rfl

/-- A base name without operator characters. -/
structure IsIdentifier (signs : OperatorSigns) (base : String) : Prop where
  nonempty : base ≠ ""
  plain : ∀ c ∈ base.toList, signs.opens c = false
  noLabel : ∀ c ∈ base.toList, c ≠ '('

/-- A base name that begins with an operator character. -/
structure IsOperator (signs : OperatorSigns) (base : String) : Prop where
  opening : ∃ c ∈ base.toList.head?, signs.opens c = true
  noLabel : ∀ c ∈ base.toList, c ≠ '('

/-- The name of a function, with its base name. -/
inductive ApiName (signs : OperatorSigns) : String → String → Prop
  | identifier {base : String} (generics labels : Option String) : IsIdentifier signs base →
      ApiName signs (base ++ (genericList generics ++ labelList labels)) base
  | operator {base : String} (labels : Option String) : IsOperator signs base →
      ApiName signs (base ++ labelList labels) base

variable {signs : OperatorSigns} {base base' text : String}

theorem IsIdentifier.noLess (h : IsIdentifier signs base) : ∀ c ∈ base.toList, c ≠ '<' := by
  rintro c hc rfl
  exact absurd (h.plain _ hc) (by simp [signs.opens_less])

theorem IsOperator.exists_cons (h : IsOperator signs base) :
    ∃ c cs, base.toList = c :: cs ∧ signs.opens c = true := by
  obtain ⟨c, hc, hopens⟩ := h.opening
  obtain ⟨cs, hcs⟩ := List.head?_eq_some_iff.mp hc
  exact ⟨c, cs, hcs, hopens⟩

/-- An operator alone is a name. -/
theorem IsOperator.apiName (h : IsOperator signs base) : ApiName signs base base := by
  have hname : ApiName signs (base ++ labelList none) base := .operator none h
  rwa [labelList, enclosed, String.append_empty] at hname

theorem ApiName.isIdentifier_or_isOperator (h : ApiName signs text base) :
    IsIdentifier signs base ∨ IsOperator signs base := by
  cases h with
  | identifier _ _ hbase => exact .inl hbase
  | operator _ hbase => exact .inr hbase

/-! ## 2. What is cut from a name -/

/-- What is in front of the first `<`. -/
def front (base : String) : String := .ofList (base.toList.takeWhile fun c => c != '<')

@[simp] theorem toList_front (base : String) :
    (front base).toList = base.toList.takeWhile fun c => c != '<' := by
  simp [front]

theorem front_eq_self (h : ∀ c ∈ base.toList, c ≠ '<') : front base = base := by
  rw [← String.toList_inj, toList_front, List.takeWhile_eq_self_iff]
  intro c hc
  simpa using h c hc

theorem isSuffix_enclosed {left : Char} (h : endsBaseName left = true) (right : Char)
    (inside : Option String) : CallRules.IsSuffix (enclosed left right inside) := by
  intro c hc
  cases inside with
  | none => exact absurd hc (by simp [enclosed])
  | some inside =>
    obtain rfl : left = c := by simpa [enclosed] using hc
    exact h

theorem isSuffix_append {suffix suffix' : String} (h : CallRules.IsSuffix suffix)
    (h' : CallRules.IsSuffix suffix') : CallRules.IsSuffix (suffix ++ suffix') := by
  intro c hc
  rw [String.toList_append, List.head?_append, Option.mem_def, Option.or_eq_some_iff] at hc
  rcases hc with hc | ⟨-, hc⟩
  · exact h c hc
  · exact h' c hc

/-- A cut at `(` or `<` is one at `<`, where no labels begin. -/
theorem baseName_eq_front (h : ∀ c ∈ base.toList, c ≠ '(') : baseName base = front base := by
  rw [← String.toList_inj, toList_baseName, toList_front]
  generalize base.toList = cs at h ⊢
  induction cs with
  | nil => rfl
  | cons c cs ih =>
    obtain ⟨hc, hcs⟩ := List.forall_mem_cons.mp h
    have hends : (!endsBaseName c) = (c != '<') := by simp [endsBaseName, hc, bne]
    rw [List.takeWhile_cons, List.takeWhile_cons, hends, ih hcs]

/-- **What is cut from the name of a function** is what its base name has in front of the first
`<`. -/
theorem ApiName.baseName_eq (h : ApiName signs text base) : baseName text = front base := by
  cases h with
  | identifier generics labels hbase =>
    have hsuffix : CallRules.IsSuffix (genericList generics ++ labelList labels) :=
      isSuffix_append (isSuffix_enclosed rfl _ _) (isSuffix_enclosed rfl _ _)
    rw [CallRules.baseName_append hsuffix, baseName_eq_front hbase.noLabel]
  | operator labels hbase =>
    have hsuffix : CallRules.IsSuffix (labelList labels) := isSuffix_enclosed rfl _ _
    rw [CallRules.baseName_append hsuffix, baseName_eq_front hbase.noLabel]

/-! ## 3. Names that are cut alike -/

/-- Two operators that are the same up to a `<`. -/
structure Alike (signs : OperatorSigns) (base base' : String) : Prop where
  left : IsOperator signs base
  right : IsOperator signs base'
  less : '<' ∈ base.toList ∨ '<' ∈ base'.toList
  front_eq : front base = front base'

/-- What is cut from an operator is empty, or begins as no identifier does. -/
theorem IsOperator.front_ne (h : IsOperator signs base) (h' : IsIdentifier signs base') :
    front base ≠ base' := by
  rintro rfl
  obtain ⟨c, cs, hbase, hopens⟩ := h.exists_cons
  by_cases hless : c = '<'
  · have hempty : front base = "" := by
      rw [← String.toList_inj, toList_front, hbase, hless]
      rfl
    exact h'.nonempty hempty
  · have hmem : c ∈ (front base).toList := by simp [hbase, hless]
    exact absurd (h'.plain c hmem) (by simp [hopens])

/-- **Base names are cut alike** if they are the same, or two operators with a `<` in one. -/
theorem front_eq_iff (h : IsIdentifier signs base ∨ IsOperator signs base)
    (h' : IsIdentifier signs base' ∨ IsOperator signs base') :
    front base = front base' ↔ base = base' ∨ Alike signs base base' := by
  constructor
  · intro hfront
    -- An identifier is left whole, and what is left of an operator is no identifier.
    rcases h with hbase | hbase <;> rcases h' with hbase' | hbase'
    · rw [front_eq_self hbase.noLess, front_eq_self hbase'.noLess] at hfront
      exact .inl hfront
    · rw [front_eq_self hbase.noLess] at hfront
      exact absurd hfront.symm (hbase'.front_ne hbase)
    · rw [front_eq_self hbase'.noLess] at hfront
      exact absurd hfront (hbase.front_ne hbase')
    · by_cases hless : '<' ∈ base.toList ∨ '<' ∈ base'.toList
      · exact .inr ⟨hbase, hbase', hless, hfront⟩
      · obtain ⟨hnot, hnot'⟩ := not_or.mp hless
        rw [front_eq_self fun c hc => ne_of_mem_of_not_mem hc hnot,
          front_eq_self fun c hc => ne_of_mem_of_not_mem hc hnot'] at hfront
        exact .inl hfront
  · rintro (rfl | halike)
    · rfl
    · exact halike.front_eq

/-- An operator is what its name has in front of the labels. -/
theorem ApiName.takeWhile_eq (h : ApiName signs text base) (hbase : IsOperator signs base) :
    (text.toList.takeWhile fun c => c != '(') = base.toList := by
  cases h with
  | identifier _ _ hidentifier =>
    exact absurd (front_eq_self hidentifier.noLess) (hbase.front_ne hidentifier)
  | operator labels _ =>
    have hplain : ∀ c ∈ base.toList, (c != '(') = true := fun c hc => by
      simpa using hbase.noLabel c hc
    rw [String.toList_append, List.takeWhile_append_of_pos hplain]
    cases labels <;> simp [labelList, enclosed]

/-- A name has one base name. -/
theorem ApiName.unique (h : ApiName signs text base) (h' : ApiName signs text base') :
    base = base' := by
  have hfront : front base = front base' := h.baseName_eq.symm.trans h'.baseName_eq
  rcases (front_eq_iff h.isIdentifier_or_isOperator h'.isIdentifier_or_isOperator).mp hfront with
    hsame | halike
  · exact hsame
  · rw [← String.toList_inj, ← h.takeWhile_eq halike.left, h'.takeWhile_eq halike.right]

/-! ## 4. Rules of other functions -/

/-- The rules are for functions of a vocabulary, which is given by their base names. -/
def Declares (signs : OperatorSigns) (vocabulary : Set String) (added : List CallRule) : Prop :=
  ∀ r ∈ added, ∃ base ∈ vocabulary, ApiName signs r.apiName base

/-- A rule is for a function, or for an operator like it, at the type of a call. -/
def Serves (signs : OperatorSigns) (r : CallRule) (base signature : String) : Prop :=
  (∃ base', ApiName signs r.apiName base' ∧ (base' = base ∨ Alike signs base' base)) ∧
    normalize r.typeSignature = normalize signature

/-- No function of the vocabulary is ever translated by the rule of another one. -/
def ToldApart (signs : OperatorSigns) (vocabulary : Set String) : Prop :=
  ∀ added, Declares signs vocabulary added →
    ∀ text base signature r, base ∈ vocabulary → ApiName signs text base →
      (CallRules.empty.addAll added).find? text signature = some r → ApiName signs r.apiName base

variable {signature : String} {r : CallRule} {added : List CallRule} {vocabulary : Set String}

/-- The rules that fit a call by what is cut from the names. -/
theorem fits_iff_serves (hr : ∃ base', ApiName signs r.apiName base')
    (h : ApiName signs text base) : r.Fits text signature ↔ Serves signs r base signature := by
  obtain ⟨base', hbase'⟩ := hr
  have hcut : baseName r.apiName = baseName text ↔ base' = base ∨ Alike signs base' base := by
    rw [hbase'.baseName_eq, h.baseName_eq]
    exact front_eq_iff hbase'.isIdentifier_or_isOperator h.isIdentifier_or_isOperator
  refine and_congr_left fun _ => hcut.trans ⟨fun halike => ⟨base', hbase', halike⟩, ?_⟩
  rintro ⟨base'', hbase'', halike⟩
  rwa [hbase'.unique hbase'']

theorem Declares.fits_iff (hadded : Declares signs vocabulary added) (hr : r ∈ added)
    (h : ApiName signs text base) : r.Fits text signature ↔ Serves signs r base signature := by
  obtain ⟨base', -, hbase'⟩ := hadded r hr
  exact fits_iff_serves ⟨base', hbase'⟩ h

theorem CallRules.mem_of_find?_addAll
    (h : (CallRules.empty.addAll added).find? text signature = some r) :
    r ∈ added ∧ r.Fits text signature := by
  obtain ⟨earlier, later, rfl, hfits, -⟩ :=
    (CallRules.find?_addAll_eq_some_iff text signature added r).mp h
  exact ⟨by simp, hfits⟩

/-- **The vocabularies whose functions keep to their own rules** are those in which no two operators
are the same up to a `<`. -/
theorem toldApart_iff :
    ToldApart signs vocabulary ↔
      ∀ base ∈ vocabulary, ∀ base' ∈ vocabulary, Alike signs base base' → base = base' := by
  constructor
  · intro h base hbase base' hbase' halike
    -- A rule for the first operator, and a call of the second one.
    let r : CallRule := ⟨base, "", "", []⟩
    have hname : ApiName signs r.apiName base := halike.left.apiName
    have hfound : (CallRules.empty.addAll [r]).find? base' "" = some r := by
      refine (CallRules.find?_addAll_eq_some_iff base' "" [r] r).mpr ⟨[], [], rfl, ?_, by simp⟩
      exact (fits_iff_serves ⟨base, hname⟩ halike.right.apiName).mpr
        ⟨⟨base, hname, .inr halike⟩, rfl⟩
    have hdeclares : Declares signs vocabulary [r] := by
      intro r' hr'
      obtain rfl := List.mem_singleton.mp hr'
      exact ⟨base, hbase, hname⟩
    exact hname.unique (h [r] hdeclares base' base' "" r hbase' halike.right.apiName hfound)
  · intro h added hadded text base signature r hbase hname hfound
    obtain ⟨hmem, hfits⟩ := CallRules.mem_of_find?_addAll hfound
    obtain ⟨base', hbase', hname'⟩ := hadded r hmem
    obtain ⟨⟨base'', hname'', halike⟩, -⟩ := (hadded.fits_iff hmem hname).mp hfits
    obtain rfl := hname'.unique hname''
    rcases halike with rfl | halike
    · exact hname'
    · obtain rfl := h base' hbase' base hbase halike
      exact hname'

/-- What calls get by the names of functions, whatever rules are added in whatever order. -/
structure FindsByName (signs : OperatorSigns) : Prop where
  /-- A call gets the rule added first among those for its function or for an operator like it. -/
  found : ∀ added, Declares signs Set.univ added →
    ∀ text base signature r, ApiName signs text base →
      ((CallRules.empty.addAll added).find? text signature = some r ↔
        ∃ earlier later, added = earlier ++ r :: later ∧ Serves signs r base signature ∧
          ∀ r' ∈ earlier, ¬ Serves signs r' base signature)
  missing : ∀ added, Declares signs Set.univ added →
    ∀ text base signature, ApiName signs text base →
      ((CallRules.empty.addAll added).find? text signature = none ↔
        ∀ r ∈ added, ¬ Serves signs r base signature)
  /-- An identifier gets rules of its own function only, whatever operators there are. -/
  identifier : ∀ added, Declares signs Set.univ added →
    ∀ text base signature r, IsIdentifier signs base → ApiName signs text base →
      (CallRules.empty.addAll added).find? text signature = some r → ApiName signs r.apiName base
  /-- So do all functions of a vocabulary, exactly if no two of its operators are alike. -/
  toldApart : ∀ vocabulary, ToldApart signs vocabulary ↔
    ∀ base ∈ vocabulary, ∀ base' ∈ vocabulary, Alike signs base base' → base = base'
  /-- In particular, if there is no `<` in any of its operators. -/
  withoutLess : ∀ vocabulary : Set String,
    (∀ base ∈ vocabulary, IsOperator signs base → '<' ∉ base.toList) → ToldApart signs vocabulary

theorem find?_eq_some_iff_serves (hadded : Declares signs Set.univ added)
    (h : ApiName signs text base) :
    (CallRules.empty.addAll added).find? text signature = some r ↔
      ∃ earlier later, added = earlier ++ r :: later ∧ Serves signs r base signature ∧
        ∀ r' ∈ earlier, ¬ Serves signs r' base signature := by
  rw [CallRules.find?_addAll_eq_some_iff]
  refine exists_congr fun earlier => exists_congr fun later => and_congr_right ?_
  rintro rfl
  refine and_congr (hadded.fits_iff (by simp) h) (forall₂_congr fun r' hr' => not_congr ?_)
  exact hadded.fits_iff (List.mem_append_left _ hr') h

/-- **Calls get rules by the names of functions**, and operators that are the same up to a `<` share
theirs. -/
theorem findsByName (signs : OperatorSigns) : FindsByName signs where
  found added hadded text base signature r hname := find?_eq_some_iff_serves hadded hname
  missing added hadded text base signature hname := by
    rw [CallRules.find?_addAll_eq_none_iff]
    exact forall₂_congr fun r hr => not_congr (hadded.fits_iff hr hname)
  identifier added hadded text base signature r hbase hname hfound := by
    obtain ⟨-, -, -, ⟨⟨base', hbase', halike⟩, -⟩, -⟩ :=
      (find?_eq_some_iff_serves hadded hname).mp hfound
    rcases halike with rfl | halike
    · exact hbase'
    · exact absurd (front_eq_self hbase.noLess) (halike.right.front_ne hbase)
  toldApart vocabulary := toldApart_iff
  withoutLess vocabulary hless := by
    refine toldApart_iff.mpr fun base hbase base' hbase' halike => ?_
    rcases halike.less with h | h
    · exact absurd h (hless base hbase halike.left)
    · exact absurd h (hless base' hbase' halike.right)

/-- A rule for the operator `<` of integers. -/
def lessRule : CallRule := ⟨"<(_:_:)", "(Int, Int) -> Bool", "lessThan", []⟩

theorem isOperator_less : IsOperator .ascii "<" := ⟨⟨'<', rfl, rfl⟩, by simp⟩

theorem isOperator_lessEqual : IsOperator .ascii "<=" := ⟨⟨'<', rfl, rfl⟩, by simp⟩

/-- **A function may be translated by the rule of another one**: a call of `<=` gets the rule for
`<`, because nothing is left of either when their names are cut. -/
theorem rule_of_other_function : ¬ ToldApart .ascii Set.univ := by
  intro hapart
  have hless : ApiName .ascii "<(_:_:)" "<" := .operator (some "_:_:") isOperator_less
  have hlessEqual : ApiName .ascii "<=(_:_:)" "<=" := .operator (some "_:_:") isOperator_lessEqual
  have hdeclares : Declares .ascii Set.univ [lessRule] := by
    intro r hr
    obtain rfl := List.mem_singleton.mp hr
    exact ⟨"<", trivial, hless⟩
  have hfound : (CallRules.empty.addAll [lessRule]).find? "<=(_:_:)" "(Int, Int) -> Bool" =
      some lessRule := by cbv
  have hname : ApiName .ascii "<(_:_:)" "<=" :=
    hapart [lessRule] hdeclares "<=(_:_:)" "<=" _ lessRule trivial hlessEqual hfound
  exact absurd (hless.unique hname) (by decide)

end PassContext
