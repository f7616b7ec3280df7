/-
# Declarations are four stores

Enum classes and sealed classes share one table under compound keys, and the declarations of all
kinds share one record.  Each kind of declaration is still a store of its own: its answers are
told by the registrations of that kind, in their order, as if there were no others.

An answer under a key is told by the last registration with that key (`lastWritten`, once for the
enumerations and once for the inherited types).  So every other registration can be left out, and
this is how one kind does not disturb another (`alike_filter`).  The keys of the enumerations are
strictly increasing, and a strictly increasing list is told by its members: their listing depends on
the pairs registered, and not on when, how often, or with what declaration.
-/
import Mathlib.Data.List.Sort
import Mathlib.Data.String.Basic
import PassContext.Proofs.Registry.Entries
import PassContext.Registry.Declarations

namespace PassContext

/-! ## 1. What was written -/

/-- **What is read is what was written last**, when a step either writes what is read or leaves it
as it was. -/
theorem lastWritten {σ ρ υ : Type} {step : σ → ρ → σ} {write? : ρ → Option υ} (read : σ → Option υ)
    (hstep : ∀ s r, read (step s r) = (write? r).or (read s)) (s : σ) (rs : List ρ) :
    read (rs.foldl step s) = ((rs.filterMap write?).getLast?).or (read s) := by
  induction rs generalizing s with
  | nil => rfl
  | cons r rs ih =>
    rw [List.foldl_cons, ih, hstep, ← Option.or_assoc, List.filterMap_cons]
    cases write? r with
    | none => rw [Option.or_none]
    | some v => rw [List.getLast?_cons, Option.or_some]

/-- **What is read is what was there and then all that was added**, when a step either adds to what
is read or leaves it as it was. -/
theorem collected {σ ρ υ : Type} {step : σ → ρ → σ} {add? : ρ → Option υ} (read : σ → List υ)
    (hstep : ∀ s r, read (step s r) = read s ++ (add? r).toList) (s : σ) (rs : List ρ) :
    read (rs.foldl step s) = read s ++ rs.filterMap add? := by
  induction rs generalizing s with
  | nil => exact (List.append_nil _).symm
  | cons r rs ih =>
    rw [List.foldl_cons, ih, hstep, List.append_assoc, List.filterMap_cons]
    cases add? r <;> rfl

/-- A value is the last one of those written exactly if something writes it and nothing later
writes. -/
theorem getLast?_filterMap_eq_some_iff {ρ υ : Type} {write? : ρ → Option υ} {rs : List ρ} {v : υ} :
    (rs.filterMap write?).getLast? = some v ↔
      ∃ earlier r later, rs = earlier ++ r :: later ∧ write? r = some v ∧
        ∀ r' ∈ later, write? r' = none := by
  rw [List.getLast?_filterMap, List.findSome?_eq_some_iff]
  constructor
  · rintro ⟨later, r, earlier, heq, hr, hlater⟩
    refine ⟨earlier.reverse, r, later.reverse, ?_, hr, fun r' h => ?_⟩
    · rw [← List.reverse_reverse rs, heq, List.reverse_append, List.reverse_cons, List.append_assoc,
        List.singleton_append]
    · exact hlater r' (List.mem_reverse.mp h)
  · rintro ⟨earlier, r, later, rfl, hr, hlater⟩
    refine ⟨later.reverse, r, earlier.reverse, ?_, hr, fun r' h => ?_⟩
    · rw [List.reverse_append, List.reverse_cons, List.append_assoc, List.singleton_append]
    · exact hlater r' (List.mem_reverse.mp h)

theorem getLast?_filterMap_eq_none_iff {ρ υ : Type} {write? : ρ → Option υ} {rs : List ρ} :
    (rs.filterMap write?).getLast? = none ↔ ∀ r ∈ rs, write? r = none := by
  rw [List.getLast?_filterMap, List.findSome?_eq_none_iff]
  exact ⟨fun h r hr => h r (List.mem_reverse.mpr hr), fun h r hr => h r (List.mem_reverse.mp hr)⟩

/-! ## 2. The order of enum keys -/

namespace EnumKey

/-- By encoding, then by name, and not the same. -/
def Lt (a b : EnumKey) : Prop := a.1.rank < b.1.rank ∨ a.1 = b.1 ∧ a.2 < b.2

theorem rank_injective {e e' : EnumEncoding} (h : e.rank = e'.rank) : e = e' := by
  cases e <;> cases e' <;> first | rfl | exact absurd h (by decide)

theorem le_iff {a b : EnumKey} :
    EnumKey.le a b = true ↔ a.1.rank < b.1.rank ∨ a.1 = b.1 ∧ a.2 ≤ b.2 := by
  simp only [EnumKey.le, Bool.or_eq_true, decide_eq_true_eq, Bool.and_eq_true, beq_iff_eq]
  exact or_congr_right (and_congr_left fun _ => ⟨rank_injective, congrArg EnumEncoding.rank⟩)

theorem le_trans {a b c : EnumKey} (hab : EnumKey.le a b = true) (hbc : EnumKey.le b c = true) :
    EnumKey.le a c = true := by
  rw [le_iff] at *
  rcases hab with hab | ⟨hab, hab'⟩ <;> rcases hbc with hbc | ⟨hbc, hbc'⟩
  · exact .inl (hab.trans hbc)
  · exact .inl (hbc ▸ hab)
  · exact .inl (hab ▸ hbc)
  · exact .inr ⟨hab.trans hbc, String.le_trans hab' hbc'⟩

theorem le_total (a b : EnumKey) : (EnumKey.le a b || EnumKey.le b a) = true := by
  rw [Bool.or_eq_true, le_iff, le_iff]
  rcases Nat.lt_trichotomy a.1.rank b.1.rank with h | h | h
  · exact .inl (.inl h)
  · have he := rank_injective h
    exact (String.le_total a.2 b.2).imp (fun hle => .inr ⟨he, hle⟩) fun hle => .inr ⟨he.symm, hle⟩
  · exact .inr (.inl h)

theorem lt_of_le_of_ne {a b : EnumKey} (h : EnumKey.le a b = true) (hne : a ≠ b) : Lt a b := by
  rcases le_iff.mp h with h | ⟨he, hle⟩
  · exact .inl h
  · refine .inr ⟨he, Std.lt_of_le_of_ne hle fun h => hne ?_⟩
    exact Prod.ext he h

theorem lt_asymm {a b : EnumKey} (h : Lt a b) : ¬ Lt b a := by
  rintro (h' | ⟨he, h'⟩) <;> rcases h with h | ⟨he', h⟩
  · exact Nat.lt_asymm h h'
  · exact absurd h' (by rw [he']; exact Nat.lt_irrefl _)
  · exact absurd h (by rw [he]; exact Nat.lt_irrefl _)
  · exact String.lt_asymm h h'

end EnumKey

namespace Declarations

/-! ## 3. Registrations -/

/-- The kinds of declarations that are kept. -/
inductive Kind
  | enum (encoding : EnumEncoding)
  | protocol
  | inheritance
deriving DecidableEq

/-- A registration of a declaration. -/
inductive Registration
  | enum (encoding : EnumEncoding) (decl : EnumDecl)
  | protocol (name : String)
  | inheritance (typeName : String) (inherits : List String)

namespace Registration

def kind : Registration → Kind
  | .enum encoding _ => .enum encoding
  | .protocol _ => .protocol
  | .inheritance .. => .inheritance

/-- The key under which an enumeration is registered. -/
def enumKey? : Registration → Option EnumKey
  | .enum encoding decl => some (encoding, decl.name)
  | .protocol _ => none
  | .inheritance .. => none

/-- What is registered under a key of enumerations. -/
def enumFor? (key : EnumKey) : Registration → Option EnumDecl
  | .enum encoding decl => if (encoding, decl.name) = key then some decl else none
  | .protocol _ => none
  | .inheritance .. => none

def protocol? : Registration → Option String
  | .enum .. => none
  | .protocol name => some name
  | .inheritance .. => none

/-- The inherited types that are set for a type. -/
def inheritsFor? (typeName : String) : Registration → Option (List String)
  | .enum .. => none
  | .protocol _ => none
  | .inheritance typeName' inherits => if typeName' = typeName then some inherits else none

variable {key : EnumKey} {decl : EnumDecl} {typeName : String} {inherits : List String}

theorem enumFor?_eq_some_iff {r : Registration} :
    r.enumFor? key = some decl ↔ r = .enum key.1 decl ∧ decl.name = key.2 := by
  obtain ⟨encoding, name⟩ := key
  cases r with
  | enum encoding' decl' =>
    simp only [enumFor?, Prod.mk.injEq, Option.ite_none_right_eq_some, Option.some.injEq,
      Registration.enum.injEq]
    constructor
    · rintro ⟨⟨rfl, rfl⟩, rfl⟩
      exact ⟨⟨rfl, rfl⟩, rfl⟩
    · rintro ⟨⟨rfl, rfl⟩, rfl⟩
      exact ⟨⟨rfl, rfl⟩, rfl⟩
  | protocol name => simp [enumFor?]
  | inheritance typeName inherits => simp [enumFor?]

theorem enumFor?_eq_none_iff {r : Registration} :
    r.enumFor? key = none ↔ r.enumKey? ≠ some key := by
  cases r <;> simp [enumFor?, enumKey?]

theorem inheritsFor?_eq_some_iff {r : Registration} :
    r.inheritsFor? typeName = some inherits ↔ r = .inheritance typeName inherits := by
  cases r <;> simp [inheritsFor?]

/-- A registration writes only for its own kind. -/
theorem kind_of_enumFor? {r : Registration} (h : r.enumFor? key = some decl) :
    r.kind = .enum key.1 := by
  rw [(enumFor?_eq_some_iff.mp h).1]
  rfl

theorem kind_of_protocol? {r : Registration} {name : String} (h : r.protocol? = some name) :
    r.kind = .protocol := by
  cases r with
  | enum encoding decl => exact absurd h (Option.some_ne_none name).symm
  | protocol name => rfl
  | inheritance typeName inherits => exact absurd h (Option.some_ne_none name).symm

theorem kind_of_inheritsFor? {r : Registration} (h : r.inheritsFor? typeName = some inherits) :
    r.kind = .inheritance := by
  rw [inheritsFor?_eq_some_iff.mp h]
  rfl

end Registration

def register (d : Declarations) : Registration → Declarations
  | .enum encoding decl => d.addEnum encoding decl
  | .protocol name => d.addProtocol name
  | .inheritance typeName inherits => d.setInheritance typeName inherits

def registerAll (d : Declarations) (rs : List Registration) : Declarations := rs.foldl register d

/-- The declarations after registrations in the given order. -/
def after (rs : List Registration) : Declarations := empty.registerAll rs

open Registration

/-! ## 4. What is read after registrations -/

variable (d : Declarations) (rs : List Registration)

theorem enum?_registerAll (encoding : EnumEncoding) (name : String) :
    (d.registerAll rs).enum? encoding name =
      ((rs.filterMap (enumFor? (encoding, name))).getLast?).or (d.enum? encoding name) := by
  refine lastWritten (enum? · encoding name) (fun d r => ?_) d rs
  cases r with
  | enum encoding' decl =>
    simp only [register, enum?, addEnum, Table.get?_insert, enumFor?]
    split <;> rfl
  | protocol name => rfl
  | inheritance typeName inherits => rfl

theorem inheritance?_registerAll (typeName : String) :
    (d.registerAll rs).inheritance? typeName =
      ((rs.filterMap (inheritsFor? typeName)).getLast?).or (d.inheritance? typeName) := by
  refine lastWritten (inheritance? · typeName) (fun d r => ?_) d rs
  cases r with
  | enum encoding decl => rfl
  | protocol name => rfl
  | inheritance typeName' inherits =>
    simp only [register, inheritance?, setInheritance, Table.get?_insert, inheritsFor?]
    split <;> rfl

theorem protocols_registerAll :
    (d.registerAll rs).protocols = d.protocols ++ rs.filterMap protocol? := by
  refine collected protocols (fun d r => ?_) d rs
  cases r with
  | protocol name => rfl
  | enum | inheritance => exact (List.append_nil d.protocols).symm

theorem registerAll_append (more : List Registration) :
    d.registerAll (rs ++ more) = (d.registerAll rs).registerAll more := List.foldl_append ..

theorem enum?_after (encoding : EnumEncoding) (name : String) :
    (after rs).enum? encoding name =
      (rs.filterMap (enumFor? (encoding, name))).getLast? := by
  rw [after, enum?_registerAll]
  exact Option.or_none

theorem inheritance?_after (typeName : String) :
    (after rs).inheritance? typeName = (rs.filterMap (inheritsFor? typeName)).getLast? := by
  rw [after, inheritance?_registerAll]
  exact Option.or_none

variable {rs}

theorem enum?_after_eq_some_iff {encoding : EnumEncoding} {name : String} {decl : EnumDecl} :
    (after rs).enum? encoding name = some decl ↔
      decl.name = name ∧ ∃ earlier later, rs = earlier ++ .enum encoding decl :: later ∧
        ∀ r ∈ later, r.enumKey? ≠ some (encoding, name) := by
  rw [enum?_after, getLast?_filterMap_eq_some_iff]
  simp only [enumFor?_eq_some_iff, enumFor?_eq_none_iff]
  constructor
  · rintro ⟨earlier, r, later, hrs, ⟨rfl, hname⟩, hlater⟩
    exact ⟨hname, earlier, later, hrs, hlater⟩
  · rintro ⟨hname, earlier, later, hrs, hlater⟩
    exact ⟨earlier, _, later, hrs, ⟨rfl, hname⟩, hlater⟩

theorem enum?_after_eq_none_iff {encoding : EnumEncoding} {name : String} :
    (after rs).enum? encoding name = none ↔ ∀ r ∈ rs, r.enumKey? ≠ some (encoding, name) := by
  rw [enum?_after, getLast?_filterMap_eq_none_iff]
  simp only [enumFor?_eq_none_iff]

theorem inheritance?_after_eq_some_iff {typeName : String} {inherits : List String} :
    (after rs).inheritance? typeName = some inherits ↔
      ∃ earlier later, rs = earlier ++ .inheritance typeName inherits :: later ∧
        ∀ inherits', .inheritance typeName inherits' ∉ later := by
  rw [inheritance?_after, getLast?_filterMap_eq_some_iff]
  simp only [inheritsFor?_eq_some_iff, Option.eq_none_iff_forall_ne_some, ne_eq]
  constructor
  · rintro ⟨earlier, r, later, hrs, rfl, hlater⟩
    exact ⟨earlier, later, hrs, fun inherits' h => hlater _ h inherits' rfl⟩
  · rintro ⟨earlier, later, hrs, hlater⟩
    exact ⟨earlier, _, later, hrs, rfl, fun r hr inherits' h => hlater inherits' (h ▸ hr)⟩

theorem inheritance?_after_eq_none_iff {typeName : String} :
    (after rs).inheritance? typeName = none ↔
      ∀ inherits, .inheritance typeName inherits ∉ rs := by
  rw [inheritance?_after, getLast?_filterMap_eq_none_iff]
  simp only [Option.eq_none_iff_forall_ne_some, ne_eq, inheritsFor?_eq_some_iff]
  constructor
  · exact fun h inherits hmem => h _ hmem inherits rfl
  · exact fun h r hr inherits he => h inherits (he ▸ hr)

/-! ## 5. The keys of the enumerations -/

variable {d}

theorem mem_enumKeys_iff {key : EnumKey} :
    key ∈ d.enumKeys ↔ (d.enum? key.1 key.2).isSome := by
  rw [enumKeys, List.mem_mergeSort, Table.keys, mem_keys_iff, Option.isSome_iff_ne_none]
  rfl

theorem nodup_enumKeys : d.enumKeys.Nodup :=
  (List.mergeSort_perm d.enums.keys EnumKey.le).nodup_iff.mpr d.enums.nodup_keys

theorem pairwise_enumKeys : d.enumKeys.Pairwise EnumKey.Lt := by
  have hle : d.enumKeys.Pairwise fun a b => EnumKey.le a b = true := by
    apply List.pairwise_mergeSort
    · exact fun _ _ _ => EnumKey.le_trans
    · exact EnumKey.le_total
  exact (hle.and nodup_enumKeys).imp fun h => EnumKey.lt_of_le_of_ne h.1 h.2

/-- Keys in strictly increasing order are told by which there are. -/
theorem eq_of_mem_iff {keys keys' : List EnumKey} (hkeys : keys.Pairwise EnumKey.Lt)
    (hkeys' : keys'.Pairwise EnumKey.Lt) (h : ∀ key, key ∈ keys ↔ key ∈ keys') : keys = keys' := by
  have hnodup {ks : List EnumKey} (hks : ks.Pairwise EnumKey.Lt) : ks.Nodup :=
    List.nodup_iff_pairwise_ne.mpr (hks.imp fun {a b} hlt heq => by
      subst heq
      exact EnumKey.lt_asymm hlt hlt)
  have hperm := (List.perm_ext_iff_of_nodup (hnodup hkeys) (hnodup hkeys')).mpr h
  exact hperm.eq_of_pairwise (fun a b _ _ hab hba => absurd hba (EnumKey.lt_asymm hab)) hkeys hkeys'

theorem mem_enumKeys_after_iff {key : EnumKey} :
    key ∈ (after rs).enumKeys ↔ key ∈ rs.filterMap enumKey? := by
  rw [mem_enumKeys_iff, Option.isSome_iff_ne_none, ne_eq, enum?_after_eq_none_iff,
    List.mem_filterMap]
  simp

/-- The table of enumerations holds each one under its own name. -/
theorem mem_entries_after {key : EnumKey} {decl : EnumDecl}
    (h : (key, decl) ∈ (after rs).enums.entries) : decl.name = key.2 := by
  have hfound : (after rs).enum? key.1 key.2 = some decl :=
    findEntry?_of_mem (after rs).enums.nodup h
  exact (enum?_after_eq_some_iff.mp hfound).1

/-! ## 6. Kinds apart -/

/-- The answers of one kind are the same. -/
def Alike (d d' : Declarations) : Kind → Prop
  | .enum encoding =>
    (∀ name, d.enum? encoding name = d'.enum? encoding name) ∧
      (∀ name, d.hasEnum encoding name = d'.hasEnum encoding name) ∧
      d.enumKeys.filter (·.1 = encoding) = d'.enumKeys.filter (·.1 = encoding)
  | .protocol =>
    d.protocols = d'.protocols ∧ ∀ name, d.hasProtocol name = d'.hasProtocol name
  | .inheritance => ∀ typeName, d.inheritance? typeName = d'.inheritance? typeName

/-- The keys with one encoding are told by the answers under them. -/
theorem filter_enumKeys_congr {d' : Declarations} {encoding : EnumEncoding}
    (h : ∀ name, d.enum? encoding name = d'.enum? encoding name) :
    d.enumKeys.filter (·.1 = encoding) = d'.enumKeys.filter (·.1 = encoding) := by
  refine eq_of_mem_iff (pairwise_enumKeys.filter _) (pairwise_enumKeys.filter _) fun key => ?_
  simp only [List.mem_filter, mem_enumKeys_iff, decide_eq_true_eq]
  refine and_congr_left ?_
  rintro rfl
  rw [h]

/-- What a kind writes is written by the registrations of that kind. -/
theorem filterMap_filter_kind {υ : Type} {write? : Registration → Option υ} {k : Kind}
    (h : ∀ r v, write? r = some v → r.kind = k) (rs : List Registration) :
    (rs.filter (·.kind = k)).filterMap write? = rs.filterMap write? := by
  rw [List.filterMap_filter]
  refine List.filterMap_congr fun r _ => ?_
  cases hw : write? r with
  | none => rw [ite_self]
  | some v => rw [if_pos (by simp [h r v hw])]

/-- **The answers of a kind are told by the registrations of that kind.** -/
theorem alike_filter (d : Declarations) (rs : List Registration) (k : Kind) :
    Alike (d.registerAll rs) (d.registerAll (rs.filter (·.kind = k))) k := by
  cases k with
  | enum encoding =>
    have henum (name : String) : (d.registerAll rs).enum? encoding name =
        (d.registerAll (rs.filter (·.kind = .enum encoding))).enum? encoding name := by
      rw [enum?_registerAll, enum?_registerAll,
        filterMap_filter_kind (k := .enum encoding) fun _ _ => kind_of_enumFor?]
    exact ⟨henum, fun name => congrArg Option.isSome (henum name), filter_enumKeys_congr henum⟩
  | protocol =>
    have hprotocols : (d.registerAll rs).protocols =
        (d.registerAll (rs.filter (·.kind = .protocol))).protocols := by
      rw [protocols_registerAll, protocols_registerAll,
        filterMap_filter_kind fun _ _ => kind_of_protocol?]
    refine ⟨hprotocols, fun name => ?_⟩
    rw [hasProtocol, hprotocols, hasProtocol]
  | inheritance =>
    intro typeName
    rw [inheritance?_registerAll, inheritance?_registerAll,
      filterMap_filter_kind fun _ _ => kind_of_inheritsFor?]

/-- **A registration of one kind leaves the answers of the others.** -/
theorem alike_register (d : Declarations) {r : Registration} {k : Kind} (h : r.kind ≠ k) :
    Alike (d.register r) d k := by
  have hfilter := alike_filter d [r] k
  rwa [List.filter_cons_of_neg (by simp [h])] at hfilter

/-- The answers about the enumerations of both encodings together are the same. -/
structure EnumsAlike (d d' : Declarations) : Prop where
  found : ∀ name, d.anyEnum? name = d'.anyEnum? name
  known : ∀ name, d.hasAnyEnum name = d'.hasAnyEnum name
  listed : d.enumKeys = d'.enumKeys

theorem EnumsAlike.of_enum? {d' : Declarations}
    (h : ∀ encoding name, d.enum? encoding name = d'.enum? encoding name) : EnumsAlike d d' := by
  have hfound (name : String) : d.anyEnum? name = d'.anyEnum? name := by
    rw [anyEnum?, anyEnum?, h, h]
  refine ⟨hfound, fun name => congrArg Option.isSome (hfound name), ?_⟩
  refine eq_of_mem_iff pairwise_enumKeys pairwise_enumKeys fun key => ?_
  rw [mem_enumKeys_iff, mem_enumKeys_iff, h]

/-! ## 7. The four stores -/

/-- What is answered after registrations in the given order. -/
structure FourStores (rs : List Registration) : Prop where
  /-- An enumeration is found if it is the one registered last with its encoding and its name. -/
  enums : ∀ encoding name decl, (after rs).enum? encoding name = some decl ↔
    decl.name = name ∧ ∃ earlier later, rs = earlier ++ .enum encoding decl :: later ∧
      ∀ r ∈ later, r.enumKey? ≠ some (encoding, name)
  noEnum : ∀ encoding name, (after rs).enum? encoding name = none ↔
    ∀ r ∈ rs, r.enumKey? ≠ some (encoding, name)
  /-- Each enumeration is kept under its own name. -/
  ownNames : ∀ key decl, (key, decl) ∈ (after rs).enums.entries → decl.name = key.2
  hasEnum : ∀ encoding name,
    (after rs).hasEnum encoding name ↔ ∃ decl, (after rs).enum? encoding name = some decl
  /-- An enum class comes before a sealed class of the same name. -/
  anyEnum : ∀ name, (after rs).anyEnum? name =
    match (after rs).enum? .enumClass name with
    | some decl => some decl
    | none => (after rs).enum? .sealedClass name
  hasAnyEnum : ∀ name, (after rs).hasAnyEnum name ↔
    (after rs).hasEnum .enumClass name ∨ (after rs).hasEnum .sealedClass name
  increasing : (after rs).enumKeys.Pairwise EnumKey.Lt
  listed : ∀ encoding name,
    (encoding, name) ∈ (after rs).enumKeys ↔ ((after rs).enum? encoding name).isSome
  /-- The listing depends on the pairs registered only. -/
  listedAlike : ∀ rs', (∀ key, key ∈ rs.filterMap enumKey? ↔ key ∈ rs'.filterMap enumKey?) →
    (after rs).enumKeys = (after rs').enumKeys
  protocols : (after rs).protocols = rs.filterMap protocol?
  hasProtocol : ∀ name, (after rs).hasProtocol name ↔ name ∈ (after rs).protocols
  /-- The inherited types of a type are the whole list set last for it. -/
  inheritances : ∀ typeName inherits, (after rs).inheritance? typeName = some inherits ↔
    ∃ earlier later, rs = earlier ++ .inheritance typeName inherits :: later ∧
      ∀ inherits', .inheritance typeName inherits' ∉ later
  noInheritance : ∀ typeName, (after rs).inheritance? typeName = none ↔
    ∀ inherits, .inheritance typeName inherits ∉ rs
  /-- Each kind answers as if the others had not been registered. -/
  apart : ∀ kind, Alike (after rs) (after (rs.filter (·.kind = kind))) kind
  /-- A registration of one kind changes no answer of another. -/
  untouched : ∀ r kind, r.kind ≠ kind → Alike (after (rs ++ [r])) (after rs) kind
  enumsUntouched : ∀ r, (∀ encoding, r.kind ≠ .enum encoding) →
    EnumsAlike (after (rs ++ [r])) (after rs)

/-- **The declarations of a run are four independent stores**, whatever is registered in whatever
order. -/
theorem fourStores (rs : List Registration) : FourStores rs where
  enums _ _ _ := enum?_after_eq_some_iff
  noEnum _ _ := enum?_after_eq_none_iff
  ownNames _ _ h := mem_entries_after h
  hasEnum _ _ := Option.isSome_iff_exists
  anyEnum name := by
    rw [anyEnum?]
    cases (after rs).enum? .enumClass name <;> rfl
  hasAnyEnum name := by
    simp only [hasAnyEnum, anyEnum?, hasEnum]
    cases (after rs).enum? .enumClass name <;> simp
  increasing := pairwise_enumKeys
  listed _ _ := mem_enumKeys_iff
  listedAlike rs' h := by
    refine eq_of_mem_iff pairwise_enumKeys pairwise_enumKeys fun key => ?_
    rw [mem_enumKeys_after_iff, mem_enumKeys_after_iff, h]
  protocols := by
    rw [after, protocols_registerAll]
    rfl
  hasProtocol _ := List.contains_iff_mem
  inheritances _ _ := inheritance?_after_eq_some_iff
  noInheritance _ := inheritance?_after_eq_none_iff
  apart kind := alike_filter empty rs kind
  untouched r kind h := by
    rw [after, registerAll_append]
    exact alike_register _ h
  enumsUntouched r h := by
    refine EnumsAlike.of_enum? fun encoding => ?_
    rw [after, registerAll_append]
    exact (alike_register _ (h encoding)).1

end Declarations

end PassContext
