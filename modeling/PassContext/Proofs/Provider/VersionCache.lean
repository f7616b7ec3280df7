/-
# The cache for versions, seen from outside

A version is kept by the name of its toolchain, and the default toolchain is kept by the empty name.
But a toolchain can be asked for by the empty name too, with a query of its own and with failures
of its own.  So the name in the cache, the query and the failure are three functions of the
toolchain, and the name alone does not tell these two apart.

Where the tools answer a query by nothing but the query, that is all there is to see of the cache.
A provider that was asked for versions, in any order and with any successes and failures, answers
as one that was not used would answer for the toolchain that decides (`versionAfter_eq`): the first
one asked for under the same name that has a version, or else the toolchain itself.
-/
import Mathlib.Data.List.Induction
import PassContext.Proofs.Memo.Lookup
import PassContext.Proofs.Provider.CacheInvariant

namespace PassContext

/-- Tools whose answer to a query depends on the query only. -/
def Tools.Steady {τ : Type} (tools : Tools τ) : Prop :=
  ∀ c state state', (tools.run c state).1 = (tools.run c state').1

/-- The version in the cache for a name. -/
def Session.version? {τ : Type} (s : Session τ) (name : String) : Option String :=
  s.caches.get? (Provider.Key.version name)

namespace Provider

variable {τ : Type} (p : Provider) (tools : Tools τ) (state : τ)

/-- The version of a toolchain by its query, without a cache. -/
def queriedVersion (toolchain : Option String) : Except Failure String :=
  p.settings.versionOfAnswer toolchain (tools.run (p.settings.versionQuery toolchain) state).1

/-- A provider that was asked for the versions of toolchains. -/
def askedFor (earlier : List (Option String)) : Session τ :=
  (Session.start p state).applyAll tools (earlier.map .version)

/-- What it answers for a toolchain then. -/
def versionAfter (earlier : List (Option String)) (toolchain : Option String) :
    Except Failure Session.Result :=
  ((p.askedFor tools state earlier).apply tools (.version toolchain)).1

/-- A toolchain is kept under a name and has a version. -/
def speaksFor (name : String) (toolchain : Option String) : Bool :=
  decide (toolchain.getD "" = name) && (p.versionAfter tools state [] toolchain).toBool

/-- The toolchain whose answer is given for a toolchain. -/
def deciding (earlier : List (Option String)) (toolchain : Option String) : Option String :=
  (earlier.find? (p.speaksFor tools state (toolchain.getD ""))).getD toolchain

variable {p tools state}

/-! ## 1. One request -/

/-- A version that is in its cache is given, and nothing changes. -/
theorem apply_version_of_some {s : Session τ} {toolchain : Option String} {version : String}
    (hkept : s.version? (toolchain.getD "") = some version) :
    s.apply tools (.version toolchain) = (.ok (.text version), s) :=
  Session.apply_version tools s hkept

variable (tools) in
/-- A version that is not in its cache is asked for, and kept if there is one. -/
theorem apply_version_of_none {s : Session τ} {toolchain : Option String}
    (hnone : s.version? (toolchain.getD "") = none) :
    ∃ s', s.apply tools (.version toolchain) =
        ((s.provider.queriedVersion tools s.world.tools toolchain).map .text, s') ∧
      s'.provider = s.provider ∧
      s'.version? (toolchain.getD "") =
        (s.provider.queriedVersion tools s.world.tools toolchain).toOption ∧
      ∀ name ≠ toolchain.getD "", s'.version? name = s.version? name := by
  have hnone : s.caches.get? (versionKey toolchain) = none := hnone
  have hreserve := Memo.get?_reserve s.caches (versionKey toolchain)
  rcases htools : tools.run (s.provider.settings.versionQuery toolchain) s.world.tools with
    ⟨answer, after⟩
  have hrun : (s.provider.versionJob toolchain).run (World.respond tools)
      (s.caches.reserve (versionKey toolchain), s.world) =
      (s.provider.settings.versionOfAnswer toolchain answer,
        (s.caches.reserve (versionKey toolchain), { s.world with tools := after })) := by
    simp only [versionJob, Job.run, World.respond, htools]
    rfl
  obtain ⟨m, hfetch, hvalue, hother⟩ :=
    Memo.exists_fetch_eq hnone hrun ((hreserve _).trans hnone)
  have hqueried : s.provider.queriedVersion tools s.world.tools toolchain =
      s.provider.settings.versionOfAnswer toolchain answer := by
    rw [queriedVersion, htools]
  refine ⟨{ s with caches := m, world := { s.world with tools := after } }, ?_, rfl, ?_, ?_⟩
  · simp only [Session.apply, Session.Operation.program?, Session.perform, version, Program.run,
      hnone]
    rw [hfetch, hqueried]
  · rw [hqueried]
    exact hvalue
  · intro name hne
    have hkey : Key.version name ≠ versionKey toolchain := fun heq => hne (Key.version.inj heq)
    exact (hother _ hkey).trans (hreserve _)

/-- A provider that was not used answers by the query. -/
theorem versionAfter_nil (toolchain : Option String) :
    p.versionAfter tools state [] toolchain =
      (p.queriedVersion tools state toolchain).map .text := by
  have hnone : (Session.start p state).version? (toolchain.getD "") = none := Memo.get?_empty _
  obtain ⟨s', happly, -⟩ := apply_version_of_none tools hnone
  exact congrArg Prod.fst happly

theorem speaksFor_eq_true {name : String} {toolchain : Option String} :
    p.speaksFor tools state name toolchain = true ↔
      toolchain.getD "" = name ∧
        ∃ version, p.queriedVersion tools state toolchain = .ok version := by
  rw [speaksFor, versionAfter_nil, Bool.and_eq_true, decide_eq_true_iff]
  cases p.queriedVersion tools state toolchain <;> simp [Except.map, Except.toBool]

/-! ## 2. Any requests -/

/-- What is in the cache for a name after requests: the version of the first toolchain that speaks
for it. -/
def firstVersion? (p : Provider) (tools : Tools τ) (state : τ) (earlier : List (Option String))
    (name : String) : Option String :=
  (earlier.find? (p.speaksFor tools state name)).bind fun first =>
    (p.queriedVersion tools state first).toOption

/-- One toolchain more matters to its own name only, and only if that has no version yet. -/
theorem firstVersion?_concat (earlier : List (Option String)) (asked : Option String)
    (name : String) :
    p.firstVersion? tools state (earlier ++ [asked]) name =
      (p.firstVersion? tools state earlier name).or
        (if asked.getD "" = name then (p.queriedVersion tools state asked).toOption else none) := by
  rw [firstVersion?, firstVersion?, List.find?_append]
  cases hfirst : earlier.find? (p.speaksFor tools state name) with
  | some first =>
    obtain ⟨-, version, hversion⟩ := speaksFor_eq_true.mp (List.find?_some hfirst)
    rw [Option.some_or, Option.bind_some, hversion]
    rfl
  | none =>
    rw [Option.none_or, Option.bind_none, Option.none_or, List.find?_singleton]
    by_cases hname : asked.getD "" = name
    · rw [if_pos hname]
      cases hversion : p.queriedVersion tools state asked with
      | ok version =>
        rw [if_pos (speaksFor_eq_true.mpr ⟨hname, version, hversion⟩), Option.bind_some, hversion]
      | error e =>
        have hsilent : ¬p.speaksFor tools state name asked = true := fun hspeaks => by
          obtain ⟨-, version, hok⟩ := speaksFor_eq_true.mp hspeaks
          exact absurd (hversion.symm.trans hok) (by simp)
        rw [if_neg hsilent]
        rfl
    · rw [if_neg hname, if_neg fun hspeaks => hname (speaksFor_eq_true.mp hspeaks).1]
      rfl

section Steady

variable (h : tools.Steady)
include h

theorem queriedVersion_steady (state state' : τ) (toolchain : Option String) :
    p.queriedVersion tools state toolchain = p.queriedVersion tools state' toolchain := by
  unfold queriedVersion
  rw [h]

/-- **For each name, the cache holds what the first success said.** -/
theorem version?_askedFor (state state' : τ) (earlier : List (Option String)) :
    (p.askedFor tools state earlier).provider = p ∧
    ∀ name, (p.askedFor tools state earlier).version? name =
      p.firstVersion? tools state' earlier name := by
  induction earlier using List.reverseRecOn with
  | nil => exact ⟨rfl, fun name => Memo.get?_empty _⟩
  | append_singleton earlier asked ih =>
    obtain ⟨hprovider, hversions⟩ := ih
    have hstep : p.askedFor tools state (earlier ++ [asked]) =
        ((p.askedFor tools state earlier).apply tools (.version asked)).2 := by
      rw [askedFor, List.map_append, Session.applyAll_append]
      rfl
    rw [hstep]
    cases hkept : (p.askedFor tools state earlier).version? (asked.getD "") with
    | some version =>
      rw [apply_version_of_some hkept]
      refine ⟨hprovider, fun name => ?_⟩
      rw [firstVersion?_concat, ← hversions]
      split
      case isTrue hname => rw [← hname, hkept, Option.some_or]
      case isFalse => rw [Option.or_none]
    | none =>
      obtain ⟨s', happly, hprovider', hvalue, hnames⟩ := apply_version_of_none tools hkept
      rw [hprovider, queriedVersion_steady h _ state'] at hvalue
      rw [happly]
      refine ⟨hprovider'.trans hprovider, fun name => ?_⟩
      rw [firstVersion?_concat, ← hversions]
      split
      case isTrue hname => rw [← hname, hkept, hvalue, Option.none_or]
      case isFalse hname => rw [hnames name (Ne.symm hname), Option.or_none]

end Steady

/-! ## 3. What a caller sees -/

/-- How the answer for a toolchain depends on the toolchains that were asked for earlier, in
comparison with a provider that was not used and whose tools are in any state. -/
structure SeesOneDefault (p : Provider) (tools : Tools τ) (state state' : τ)
    (earlier : List (Option String)) (toolchain : Option String) : Prop where
  /-- It is the answer for the toolchain that decides. -/
  decided : p.versionAfter tools state earlier toolchain =
    p.versionAfter tools state' [] (p.deciding tools state' earlier toolchain)
  /-- So it is the own answer, unless the default toolchain was asked for in the other way. -/
  own : (toolchain = none → some "" ∉ earlier) → (toolchain = some "" → none ∉ earlier) →
    p.versionAfter tools state earlier toolchain = p.versionAfter tools state' [] toolchain

theorem getD_eq_getD_iff {t t' : Option String} :
    t.getD "" = t'.getD "" ↔ t = t' ∨ t = none ∧ t' = some "" ∨ t = some "" ∧ t' = none := by
  cases t <;> cases t' <;> simp [eq_comm]

theorem deciding_eq_self {earlier : List (Option String)} {toolchain : Option String}
    (hnone : toolchain = none → some "" ∉ earlier)
    (hempty : toolchain = some "" → none ∉ earlier) :
    p.deciding tools state earlier toolchain = toolchain := by
  unfold deciding
  cases hfirst : earlier.find? (p.speaksFor tools state (toolchain.getD "")) with
  | none => rfl
  | some first =>
    have hmem := List.mem_of_find?_eq_some hfirst
    have hname := (speaksFor_eq_true.mp (List.find?_some hfirst)).1
    rcases getD_eq_getD_iff.mp hname with rfl | ⟨rfl, rfl⟩ | ⟨rfl, rfl⟩
    · rfl
    · exact absurd hmem (hempty rfl)
    · exact absurd hmem (hnone rfl)

/-- **Versions asked for earlier make no difference**, but for one thing: the default toolchain and
a toolchain with the empty name have one place in the cache. -/
theorem versionAfter_eq (h : tools.Steady) (state state' : τ) (earlier : List (Option String))
    (toolchain : Option String) : p.SeesOneDefault tools state state' earlier toolchain := by
  have hdecided : p.versionAfter tools state earlier toolchain =
      p.versionAfter tools state' [] (p.deciding tools state' earlier toolchain) := by
    obtain ⟨hprovider, hversions⟩ := version?_askedFor (p := p) h state state' earlier
    have hkept := hversions (toolchain.getD "")
    unfold versionAfter deciding
    cases hfirst : earlier.find? (p.speaksFor tools state' (toolchain.getD "")) with
    | some first =>
      obtain ⟨-, version, hversion⟩ := speaksFor_eq_true.mp (List.find?_some hfirst)
      rw [firstVersion?, hfirst, Option.bind_some, hversion] at hkept
      rw [apply_version_of_some hkept, Option.getD_some]
      exact ((versionAfter_nil first).trans (by rw [hversion]; rfl)).symm
    | none =>
      rw [firstVersion?, hfirst] at hkept
      obtain ⟨s', happly, -⟩ := apply_version_of_none tools hkept
      rw [happly, Option.getD_none, hprovider, queriedVersion_steady h _ state']
      exact (versionAfter_nil toolchain).symm
  refine ⟨hdecided, fun hnone hempty => ?_⟩
  rw [hdecided, deciding_eq_self hnone hempty]

/-- Tools for which the compiler that is run directly is older than the one that the runner
chooses. -/
def twoCompilers : Tools Unit where
  run c state := (.ok (.succeeded (if c.program = "swift" then "5.1" else "5.2")), state)
  load _ _ _ state := (.ok [], state)

/-- The toolchain with the empty name, behind the default one. -/
theorem versionAfter_eq_twoCompilers :
    twoCompilers.Steady ∧
      let p : Provider := ⟨.default, ⟨"library.json"⟩⟩
      p.SeesOneDefault twoCompilers () () [some "next", none, some "next"] (some "") ∧
      p.deciding twoCompilers () [some "next", none, some "next"] (some "") = none :=
  ⟨fun _ _ _ => rfl, versionAfter_eq (fun _ _ _ => rfl) () () _ _, rfl⟩

/-- The cache can be seen: a toolchain with the empty name gets the version of the default one. -/
theorem versionAfter_ne :
    ¬∀ (p : Provider) (tools : Tools Unit), tools.Steady → ∀ earlier toolchain,
      p.versionAfter tools () earlier toolchain = p.versionAfter tools () [] toolchain := by
  intro hinvisible
  have hequal := hinvisible ⟨.default, ⟨"library.json"⟩⟩ twoCompilers (fun _ _ _ => rfl)
    [none] (some "")
  have hkept : Except.ok (Session.Result.text "5.1") = Except.ok (.text "5.2") := hequal
  exact absurd hkept (by simp)

end Provider

end PassContext
