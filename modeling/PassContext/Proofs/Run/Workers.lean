/-
# Workers do not disturb each other

Workers share the context of a run, and each does its own registrations in order; how they
interleave is up to the schedule.  As long as no two workers register the same thing (an
enumeration with one encoding and name, the inherited types of one type, a rule for the same
calls), what the context answers in the end does not depend on the schedule.

An interleaving is a list that can be split among the workers (`Woven`), and so is the part of it
that one registry takes in, since taking a part and splitting commute.  Two kinds of answers are
left.  Some are told by the registrations of one thing: these are all by one worker, whose order
is the order in every schedule (`Woven.eq_of_alone`).  The others are told by lists that grow:
their members are the same in every schedule, with repetitions (`Woven.perm`).
-/
import PassContext.Proofs.Run.Registrations

namespace PassContext

/-! ## 1. Interleavings -/

section Interleavings

variable {ι α β : Type} [DecidableEq ι]

/-- What one worker does in a schedule. -/
def ownPart (schedule : List (ι × α)) (w : ι) : List α :=
  (schedule.filter (·.1 = w)).map Prod.snd

/-- A list is an interleaving of the lists of workers: its items can be given to the workers so
that each of them has its own list. -/
def Woven (lists : ι → List α) (l : List α) : Prop :=
  ∃ schedule : List (ι × α), schedule.map Prod.snd = l ∧ ∀ w, ownPart schedule w = lists w

theorem ownPart_cons_self (w : ι) (x : α) (schedule : List (ι × α)) :
    ownPart ((w, x) :: schedule) w = x :: ownPart schedule w := by
  rw [ownPart, List.filter_cons_of_pos (by simp), List.map_cons, ownPart]

theorem ownPart_cons_of_ne {w w' : ι} (h : w' ≠ w) (x : α) (schedule : List (ι × α)) :
    ownPart ((w', x) :: schedule) w = ownPart schedule w := by
  rw [ownPart, List.filter_cons_of_neg (by simp [h]), ownPart]

theorem mem_ownPart_iff {schedule : List (ι × α)} {w : ι} {x : α} :
    x ∈ ownPart schedule w ↔ (w, x) ∈ schedule := by
  simp [ownPart]

/-- An item is in the part of a worker as often as it is in the schedule for that worker. -/
theorem count_ownPart [DecidableEq α] (schedule : List (ι × α)) (w : ι) (x : α) :
    (ownPart schedule w).count x = schedule.count (w, x) := by
  induction schedule with
  | nil => rfl
  | cons e schedule ih =>
    obtain ⟨w', x'⟩ := e
    by_cases hw : w' = w
    · subst hw
      rw [ownPart_cons_self, List.count_cons, List.count_cons, ih]
      simp
    · rw [ownPart_cons_of_ne hw, ih, List.count_cons_of_ne (by simp [hw])]

/-- The part of a worker in a part of a schedule. -/
theorem ownPart_filterMap (f : α → Option β) (schedule : List (ι × α)) (w : ι) :
    ownPart (schedule.filterMap fun e => (f e.2).map (e.1, ·)) w =
      (ownPart schedule w).filterMap f := by
  induction schedule with
  | nil => rfl
  | cons e schedule ih =>
    obtain ⟨w', x⟩ := e
    by_cases hw : w' = w
    · subst hw
      rw [ownPart_cons_self, List.filterMap_cons, List.filterMap_cons]
      cases f x with
      | none => exact ih
      | some y => rw [Option.map_some, ownPart_cons_self, ih]
    · rw [ownPart_cons_of_ne hw, List.filterMap_cons, ← ih]
      cases f x with
      | none => rfl
      | some y => exact ownPart_cons_of_ne hw y _

namespace Woven

variable {lists : ι → List α} {l l' : List α}

/-- **Two interleavings have the same items**, with repetitions. -/
theorem perm (h : Woven lists l) (h' : Woven lists l') : l.Perm l' := by
  classical
  obtain ⟨schedule, rfl, hparts⟩ := h
  obtain ⟨schedule', rfl, hparts'⟩ := h'
  refine List.Perm.map _ (List.perm_iff_count.mpr fun e => ?_)
  rw [← count_ownPart, ← count_ownPart, hparts, hparts']

/-- A part of an interleaving is an interleaving of the parts. -/
theorem filterMap (h : Woven lists l) (f : α → Option β) :
    Woven (fun w => (lists w).filterMap f) (l.filterMap f) := by
  obtain ⟨schedule, rfl, hparts⟩ := h
  refine ⟨schedule.filterMap fun e => (f e.2).map (e.1, ·), ?_, fun w => ?_⟩
  · rw [List.map_filterMap, List.filterMap_map]
    exact List.filterMap_congr fun e _ => by cases h : f e.2 <;> simp [h]
  · rw [ownPart_filterMap, hparts]

theorem reverse (h : Woven lists l) : Woven (fun w => (lists w).reverse) l.reverse := by
  obtain ⟨schedule, rfl, hparts⟩ := h
  refine ⟨schedule.reverse, List.map_reverse, fun w => ?_⟩
  show ownPart schedule.reverse w = (lists w).reverse
  rw [← hparts, ownPart, List.filter_reverse, List.map_reverse, ownPart]

theorem mem_iff (h : Woven lists l) {x : α} : x ∈ l ↔ ∃ w, x ∈ lists w := by
  obtain ⟨schedule, rfl, hparts⟩ := h
  simp only [← hparts, mem_ownPart_iff, List.mem_map, Prod.exists, exists_eq_right]

/-- **If one worker has all items, its list is the only interleaving.** -/
theorem eq_of_alone (h : Woven lists l) {w : ι} (halone : ∀ w', w' ≠ w → lists w' = []) :
    l = lists w := by
  obtain ⟨schedule, rfl, hparts⟩ := h
  rw [← hparts w, ownPart, List.filter_eq_self.mpr]
  rintro ⟨w', x⟩ hmem
  by_contra hw
  have hx : x ∈ lists w' := by rwa [← hparts w', mem_ownPart_iff]
  rw [halone w' (by simpa using hw)] at hx
  exact List.not_mem_nil hx

end Woven

end Interleavings

/-! ## 2. Taking turns -/

section Turns

variable {ι α : Type} [DecidableEq ι]

/-- The list of a worker. -/
def listOf (named : List (ι × List α)) (w : ι) : List α := findEntry? w named |>.getD []

/-- The workers that have something to do, with the first of it. -/
def firsts (named : List (ι × List α)) : List (ι × α) :=
  named.filterMap fun e => e.2.head?.map (e.1, ·)

/-- The workers that have something to do, without the first of it. -/
def remaining (named : List (ι × List α)) : List (ι × List α) :=
  (named.filter (·.2 ≠ [])).map fun e => (e.1, e.2.tail)

omit [DecidableEq ι] in
theorem takeHeads_named (named : List (ι × List α)) :
    takeHeads (named.map Prod.snd) =
      ((firsts named).map Prod.snd, (remaining named).map Prod.snd) := by
  induction named with
  | nil => rfl
  | cons e named ih =>
    obtain ⟨w, _ | ⟨x, l⟩⟩ := e
    · exact ih
    · rw [List.map_cons, takeHeads, ih]
      rfl

omit [DecidableEq ι] in
theorem nodup_remaining {named : List (ι × List α)} (h : (named.map Prod.fst).Nodup) :
    ((remaining named).map Prod.fst).Nodup := by
  rw [remaining, List.map_map]
  exact h.sublist (List.filter_sublist.map Prod.fst)

theorem listOf_cons_self (w : ι) (l : List α) (named : List (ι × List α)) :
    listOf ((w, l) :: named) w = l := by
  rw [listOf, findEntry?_cons_of_eq (e := (w, l)) rfl, Option.getD_some]

theorem listOf_cons_of_ne {w w' : ι} (h : w' ≠ w) (l : List α) (named : List (ι × List α)) :
    listOf ((w', l) :: named) w = listOf named w := by
  rw [listOf, findEntry?_cons_of_ne h, listOf]

theorem listOf_of_not_mem {named : List (ι × List α)} {w : ι} (h : w ∉ named.map Prod.fst) :
    listOf named w = [] := by
  rw [mem_keys_iff, not_not] at h
  rw [listOf, h, Option.getD_none]

theorem ownPart_firsts {named : List (ι × List α)} (h : (named.map Prod.fst).Nodup) (w : ι) :
    ownPart (firsts named) w = (listOf named w).head?.toList := by
  induction named with
  | nil => rfl
  | cons e named ih =>
    obtain ⟨w', l⟩ := e
    rw [List.map_cons, List.nodup_cons] at h
    by_cases hw : w' = w
    · subst hw
      have hrest : ownPart (firsts named) w' = [] := by
        rw [ih h.2, listOf_of_not_mem h.1]
        rfl
      rw [listOf_cons_self]
      cases l with
      | nil => exact hrest
      | cons x l => exact (ownPart_cons_self w' x _).trans (congrArg (x :: ·) hrest)
    · rw [listOf_cons_of_ne hw, ← ih h.2]
      cases l with
      | nil => rfl
      | cons x l => exact ownPart_cons_of_ne hw x _

theorem listOf_remaining {named : List (ι × List α)} (h : (named.map Prod.fst).Nodup) (w : ι) :
    listOf (remaining named) w = (listOf named w).tail := by
  induction named with
  | nil => rfl
  | cons e named ih =>
    obtain ⟨w', l⟩ := e
    rw [List.map_cons, List.nodup_cons] at h
    by_cases hw : w' = w
    · subst hw
      rw [listOf_cons_self]
      cases l with
      | nil =>
        have hrest : listOf (remaining named) w' = [] := by
          rw [ih h.2, listOf_of_not_mem h.1]
          rfl
        exact hrest
      | cons x l => exact listOf_cons_self w' l _
    · rw [listOf_cons_of_ne hw, ← ih h.2]
      cases l with
      | nil => rfl
      | cons x l => exact listOf_cons_of_ne hw l _

/-- What the workers have done after a number of turns. -/
theorem woven_takeTurns (n : Nat) {named : List (ι × List α)} (h : (named.map Prod.fst).Nodup) :
    Woven (fun w => (listOf named w).take n) (takeTurns n (named.map Prod.snd)) := by
  induction n generalizing named with
  | zero => exact ⟨[], rfl, fun w => rfl⟩
  | succ n ih =>
    obtain ⟨schedule, hschedule, hparts⟩ := ih (nodup_remaining h)
    refine ⟨firsts named ++ schedule, ?_, fun w => ?_⟩
    · rw [List.map_append, hschedule, takeTurns, takeHeads_named]
    · have hrest : ownPart schedule w = ((listOf named w).tail).take n := by
        rw [← listOf_remaining h w]
        exact hparts w
      rw [ownPart, List.filter_append, List.map_append, ← ownPart, ← ownPart, ownPart_firsts h,
        hrest]
      cases hlist : listOf named w with
      | nil => simp [hlist]
      | cons x l => simp [hlist]

theorem length_listOf_le (named : List (ι × List α)) (w : ι) :
    (listOf named w).length ≤ ((named.map Prod.snd).map List.length).foldr max 0 := by
  induction named with
  | nil => exact Nat.zero_le _
  | cons e named ih =>
    obtain ⟨w', l⟩ := e
    rw [List.map_cons, List.map_cons, List.foldr_cons]
    by_cases hw : w' = w
    · subst hw
      rw [listOf_cons_self]
      exact Nat.le_max_left _ _
    · rw [listOf_cons_of_ne hw]
      exact ih.trans (Nat.le_max_right _ _)

/-- **Workers that take turns interleave.** -/
theorem woven_interleave {named : List (ι × List α)} (h : (named.map Prod.fst).Nodup) :
    Woven (listOf named) (interleave (named.map Prod.snd)) := by
  have hwoven := woven_takeTurns (((named.map Prod.snd).map List.length).foldr max 0) h
  rwa [funext fun w => List.take_of_length_le (length_listOf_le named w)] at hwoven

end Turns

/-! ## 3. Registrations of the same thing -/

/-- What a registration is about, if it is about something that another one can be about. -/
inductive Subject
  | enum (key : EnumKey)
  | inheritance (typeName : String)
  | calls (key : String × String)

namespace Update

def subject? : Update → Option Subject
  | .addEnum encoding d => some (.enum (encoding, d.name))
  | .setInheritance typeName _ => some (.inheritance typeName)
  | .addCallRule t => some (.calls t.key)
  | .addTemplate _ => none
  | .addProtocol _ => none
  | .recordPure _ => none

/-- The enumeration that is registered under a key. -/
def enumFor? (key : EnumKey) (u : Update) : Option EnumDecl := u.declaration?.bind (·.enumFor? key)

/-- The inherited types that are set for a type. -/
def inheritsFor? (typeName : String) (u : Update) : Option (List String) :=
  u.declaration?.bind (·.inheritsFor? typeName)

/-- The protocol that is added. -/
def protocol? (u : Update) : Option String := u.declaration?.bind (·.protocol?)

/-- The rule that is added, if it is for the calls with the given key. -/
def callRuleFor? (key : String × String) (u : Update) : Option CallRule :=
  u.callRule?.filter (·.key == key)

variable {u : Update}

theorem subject?_of_enumFor? {key : EnumKey} {d : EnumDecl} (h : u.enumFor? key = some d) :
    u.subject? = some (.enum key) := by
  cases u with
  | addEnum encoding d' =>
    have hregistered : (Declarations.Registration.enum encoding d').enumFor? key = some d := h
    obtain ⟨heq, hname⟩ := Declarations.Registration.enumFor?_eq_some_iff.mp hregistered
    obtain ⟨rfl, rfl⟩ := Declarations.Registration.enum.inj heq
    rw [subject?, hname]
  | addProtocol | setInheritance | addTemplate | addCallRule | recordPure =>
    exact absurd h (Option.some_ne_none d).symm

theorem subject?_of_inheritsFor? {typeName : String} {inherits : List String}
    (h : u.inheritsFor? typeName = some inherits) :
    u.subject? = some (.inheritance typeName) := by
  cases u with
  | setInheritance typeName' inherits' =>
    have hregistered : (Declarations.Registration.inheritance typeName' inherits').inheritsFor?
        typeName = some inherits := h
    have heq := Declarations.Registration.inheritsFor?_eq_some_iff.mp hregistered
    rw [subject?, (Declarations.Registration.inheritance.inj heq).1]
  | addEnum | addProtocol | addTemplate | addCallRule | recordPure =>
    exact absurd h (Option.some_ne_none inherits).symm

theorem subject?_of_callRuleFor? {key : String × String} {t : CallRule}
    (h : u.callRuleFor? key = some t) : u.subject? = some (.calls key) := by
  cases u with
  | addCallRule t' =>
    obtain ⟨ht, hkey⟩ := Option.filter_eq_some_iff.mp h
    obtain rfl := Option.some.inj ht
    rw [subject?, beq_iff_eq.mp hkey]
  | addEnum | addProtocol | setInheritance | addTemplate | recordPure =>
    exact absurd h (Option.some_ne_none t).symm

end Update

/-! ## 4. What a context answers -/

theorem Declarations.shown_congr {d d' : Declarations} (henums : d.enums.size = d'.enums.size)
    (hprotocols : d.protocols.length = d'.protocols.length)
    (hinheritances : d.inheritances.size = d'.inheritances.size) : d.shown = d'.shown := by
  unfold shown
  rw [henums, hprotocols, hinheritances]

namespace Context

variable (c : Context) (us : List Update)

theorem enum?_applyAll (encoding : EnumEncoding) (name : String) :
    (c.applyAll us).declarations.enum? encoding name =
      ((us.filterMap (Update.enumFor? (encoding, name))).getLast?).or
        (c.declarations.enum? encoding name) := by
  rw [declarations_applyAll, Declarations.enum?_registerAll, List.filterMap_filterMap]
  rfl

theorem inheritance?_applyAll (typeName : String) :
    (c.applyAll us).declarations.inheritance? typeName =
      ((us.filterMap (Update.inheritsFor? typeName)).getLast?).or
        (c.declarations.inheritance? typeName) := by
  rw [declarations_applyAll, Declarations.inheritance?_registerAll, List.filterMap_filterMap]
  rfl

theorem protocols_applyAll :
    (c.applyAll us).declarations.protocols =
      c.declarations.protocols ++ us.filterMap Update.protocol? := by
  rw [declarations_applyAll, Declarations.protocols_registerAll, List.filterMap_filterMap]
  rfl

/-- The rule that is found is the first among those for the calls in question. -/
theorem find?_applyAll (name signature : String) :
    (c.applyAll us).callRules.find? name signature =
      (c.callRules.find? name signature).or
        (us.filterMap (Update.callRuleFor? (callKey name signature))).head? := by
  have hfilter : us.filterMap (Update.callRuleFor? (callKey name signature)) =
      (us.filterMap Update.callRule?).filter (·.key == callKey name signature) :=
    List.filter_filterMap.symm
  rw [hfilter, List.head?_filter]
  simp only [CallRules.find?, callRules_applyAll, List.find?_append]

/-- What is shown of a context is its options, its version, and sizes. -/
theorem shown_congr {c c' : Context} (hoptions : c.options = c'.options)
    (hversion : c.version = c'.version) (htemplates : c.templates.size = c'.templates.size)
    (hdeclarations : c.declarations.shown = c'.declarations.shown)
    (hcallRules : c.callRules.size = c'.callRules.size)
    (hpure : c.pureFunctions.size = c'.pureFunctions.size) : c.shown = c'.shown := by
  unfold shown CallRules.shown PureFunctions.shown
  rw [hoptions, hversion, htemplates, hdeclarations, hcallRules, hpure]

end Context

/-! ## 5. Workers -/

section Workers

variable {ι : Type} [DecidableEq ι]

/-- No two workers register the same thing. -/
def Apart (scripts : ι → List Update) : Prop :=
  ∀ w w' u u' subject, u ∈ scripts w → u' ∈ scripts w' →
    u.subject? = some subject → u'.subject? = some subject → w = w'

variable {scripts : ι → List Update} {us us' : List Update}

/-- **The registrations of one thing come in the same order in every schedule**, since they are
all by one worker. -/
theorem Apart.filterMap_eq {β : Type} (hapart : Apart scripts) (h : Woven scripts us)
    (h' : Woven scripts us') {f : Update → Option β} {subject : Subject}
    (hf : ∀ u x, f u = some x → u.subject? = some subject) : us.filterMap f = us'.filterMap f := by
  by_cases hnone : ∀ w, (scripts w).filterMap f = []
  · have hnil {us : List Update} (h : Woven scripts us) : us.filterMap f = [] := by
      refine List.eq_nil_iff_forall_not_mem.mpr fun x hx => ?_
      obtain ⟨w, hw⟩ := (h.filterMap f).mem_iff.mp hx
      rw [hnone w] at hw
      exact List.not_mem_nil hw
    rw [hnil h, hnil h']
  · obtain ⟨w, hw⟩ := not_forall.mp hnone
    obtain ⟨x, hx⟩ := List.exists_mem_of_ne_nil _ hw
    obtain ⟨u, hu, hux⟩ := List.mem_filterMap.mp hx
    have halone (w' : ι) (hne : w' ≠ w) : (scripts w').filterMap f = [] := by
      refine List.eq_nil_iff_forall_not_mem.mpr fun x' hx' => hne ?_
      obtain ⟨u', hu', hux'⟩ := List.mem_filterMap.mp hx'
      exact hapart w' w u' u subject hu' hu (hf u' x' hux') (hf u x hux)
    rw [(h.filterMap f).eq_of_alone halone, (h'.filterMap f).eq_of_alone halone]

/-- **The lists that grow have the same members in every schedule**, with repetitions. -/
theorem Woven.perm_filterMap {β : Type} (h : Woven scripts us) (h' : Woven scripts us')
    (f : Update → Option β) : (us.filterMap f).Perm (us'.filterMap f) :=
  (h.filterMap f).perm (h'.filterMap f)

/-- What a context holds of the lists to which several workers add. -/
structure KeepsOrder (c : Context) (scripts : ι → List Update) (us : List Update) : Prop where
  /-- The protocols that were there, and then those of the workers, each in the order of adding. -/
  protocols : ∃ added, (c.applyAll us).declarations.protocols = c.declarations.protocols ++ added ∧
    Woven (fun w => (scripts w).filterMap Update.protocol?) added
  /-- The templates of the workers, each in the reverse order of adding, and then those that were
  there. -/
  templates : ∃ added, (c.applyAll us).templates.toList = added ++ c.templates.toList ∧
    Woven (fun w => ((scripts w).filterMap Update.template?).reverse) added

/-- What is the same for two schedules of the same workers. -/
structure Undisturbed (c : Context) (scripts : ι → List Update) (us us' : List Update) : Prop where
  enum : ∀ encoding name, (c.applyAll us).declarations.enum? encoding name =
    (c.applyAll us').declarations.enum? encoding name
  hasEnum : ∀ encoding name, (c.applyAll us).declarations.hasEnum encoding name =
    (c.applyAll us').declarations.hasEnum encoding name
  /-- The enumerations by their names alone, and the list of all of them. -/
  enums : Declarations.EnumsAlike (c.applyAll us).declarations (c.applyAll us').declarations
  inheritance : ∀ typeName, (c.applyAll us).declarations.inheritance? typeName =
    (c.applyAll us').declarations.inheritance? typeName
  hasProtocol : ∀ name, (c.applyAll us).declarations.hasProtocol name =
    (c.applyAll us').declarations.hasProtocol name
  callRule : ∀ name signature, (c.applyAll us).callRules.find? name signature =
    (c.applyAll us').callRules.find? name signature
  isPure : ∀ call, (c.applyAll us).pureFunctions.isPure call =
    (c.applyAll us').pureFunctions.isPure call
  templateCount : (c.applyAll us).templates.size = (c.applyAll us').templates.size
  callRuleCount : (c.applyAll us).callRules.size = (c.applyAll us').callRules.size
  pureFunctionCount : (c.applyAll us).pureFunctions.size = (c.applyAll us').pureFunctions.size
  /-- What is shown for inspection: all sizes, those of the declarations among them. -/
  shown : (c.applyAll us).shown = (c.applyAll us').shown
  protocols : (c.applyAll us).declarations.protocols.Perm (c.applyAll us').declarations.protocols
  templates : (c.applyAll us).templates.toList.Perm (c.applyAll us').templates.toList
  order : KeepsOrder c scripts us
  order' : KeepsOrder c scripts us'

theorem keepsOrder (c : Context) (h : Woven scripts us) : KeepsOrder c scripts us where
  protocols := ⟨_, c.protocols_applyAll us, h.filterMap Update.protocol?⟩
  templates := ⟨_, c.templates_applyAll us, (h.filterMap Update.template?).reverse⟩

/-- **Workers that register different things do not disturb each other**: whatever is asked of the
context that they share, the answer is the same for any two schedules. -/
theorem undisturbed (c : Context) (hapart : Apart scripts) (h : Woven scripts us)
    (h' : Woven scripts us') : Undisturbed c scripts us us' := by
  have henum (encoding : EnumEncoding) (name : String) :
      (c.applyAll us).declarations.enum? encoding name =
        (c.applyAll us').declarations.enum? encoding name := by
    rw [c.enum?_applyAll, c.enum?_applyAll,
      hapart.filterMap_eq h h' fun _ _ => Update.subject?_of_enumFor?]
  have hinheritance (typeName : String) :
      (c.applyAll us).declarations.inheritance? typeName =
        (c.applyAll us').declarations.inheritance? typeName := by
    rw [c.inheritance?_applyAll, c.inheritance?_applyAll,
      hapart.filterMap_eq h h' fun _ _ => Update.subject?_of_inheritsFor?]
  have hprotocols : (c.applyAll us).declarations.protocols.Perm
      (c.applyAll us').declarations.protocols := by
    rw [c.protocols_applyAll, c.protocols_applyAll]
    exact (h.perm_filterMap h' _).append_left _
  have htemplates : (c.applyAll us).templates.toList.Perm (c.applyAll us').templates.toList := by
    rw [c.templates_applyAll, c.templates_applyAll]
    refine List.Perm.append_right _ ?_
    exact (List.reverse_perm _).trans ((h.perm_filterMap h' _).trans (List.reverse_perm _).symm)
  have hcallRules : (c.applyAll us).callRules.toList.Perm (c.applyAll us').callRules.toList := by
    rw [c.callRules_applyAll, c.callRules_applyAll]
    exact (h.perm_filterMap h' _).append_left _
  have hpure : (c.applyAll us).pureFunctions.toList.Perm
      (c.applyAll us').pureFunctions.toList := by
    rw [c.pureFunctions_applyAll, c.pureFunctions_applyAll]
    exact (h.perm_filterMap h' _).append_left _
  exact {
    enum := henum
    hasEnum := fun encoding name => congrArg Option.isSome (henum encoding name)
    enums := .of_enum? henum
    inheritance := hinheritance
    hasProtocol := fun name => by
      rw [Declarations.hasProtocol, Declarations.hasProtocol, Bool.eq_iff_iff,
        List.contains_iff_mem, List.contains_iff_mem, hprotocols.mem_iff]
    callRule := fun name signature => by
      rw [c.find?_applyAll, c.find?_applyAll,
        hapart.filterMap_eq h h' fun _ _ => Update.subject?_of_callRuleFor?]
    isPure := fun call => by
      rw [PureFunctions.isPure, PureFunctions.isPure]
      cases call.function.finalMember.declReference? with
      | none => rfl
      | some r => exact hpure.any_eq
    templateCount := htemplates.length_eq
    callRuleCount := hcallRules.length_eq
    pureFunctionCount := hpure.length_eq
    shown := by
      have henums : (c.applyAll us).declarations.enums.size =
          (c.applyAll us').declarations.enums.size :=
        Table.size_congr fun key => congrArg Option.isSome (henum key.1 key.2)
      have hinheritances : (c.applyAll us).declarations.inheritances.size =
          (c.applyAll us').declarations.inheritances.size :=
        Table.size_congr fun typeName => congrArg Option.isSome (hinheritance typeName)
      refine Context.shown_congr ?_ ?_ htemplates.length_eq ?_ hcallRules.length_eq hpure.length_eq
      · rw [c.options_applyAll, c.options_applyAll]
      · rw [c.version_applyAll, c.version_applyAll]
      · exact Declarations.shown_congr henums hprotocols.length_eq hinheritances
    protocols := hprotocols
    templates := htemplates
    order := keepsOrder c h
    order' := keepsOrder c h' }

/-- Two workers register the same names, one as enum classes and one as sealed classes, and add
protocols and templates.  They take turns, or one comes after the other. -/
theorem undisturbed_twoWorkers :
    let t : Template := ⟨.reference "a" "Int", .reference "b" "Int"⟩
    let own : List Update := [.addEnum .enumClass (.named "E"), .addProtocol "P", .addTemplate t]
    let other : List Update := [.addProtocol "Q", .addEnum .sealedClass (.named "E")]
    let scripts : Bool → List Update := fun w => if w then own else other
    Apart scripts ∧ Woven scripts (own ++ other) ∧ Woven scripts (interleave [own, other]) ∧
      Undisturbed (.start .default "5.1" .empty) scripts (own ++ other)
        (interleave [own, other]) := by
  intro t own other scripts
  have hapart : Apart scripts := by
    have hsubjects : ∀ u ∈ own, ∀ u' ∈ other, ∀ x, u.subject? = some x → u'.subject? ≠ some x := by
      simp [own, other, Update.subject?]
    rintro (_ | _) (_ | _) u u' subject hu hu' hs hs'
    · rfl
    · exact absurd hs (hsubjects u' hu' u hu subject hs')
    · exact absurd hs' (hsubjects u hu u' hu' subject hs)
    · rfl
  have hafter : Woven scripts (own ++ other) :=
    ⟨own.map (true, ·) ++ other.map (false, ·), rfl, by rintro (_ | _) <;> rfl⟩
  have hturns : Woven scripts (interleave [own, other]) := by
    have hwoven : Woven (listOf [(true, own), (false, other)]) (interleave [own, other]) :=
      woven_interleave (by decide)
    have hlists : listOf [(true, own), (false, other)] = scripts := by
      funext w
      cases w <;> rfl
    rwa [hlists] at hwoven
  exact ⟨hapart, hafter, hturns, undisturbed _ hapart hafter hturns⟩

end Workers

end PassContext
