/-
# Threads that share caches

Here the programs of many threads run side by side, one atomic step of one thread at a time.  Each
cache has a lock, held only to find, make or take away a slot, and each slot has a lock, held while
its value is read or computed.  A slot is referred to by the cache and by every call that works
with it; a failed call takes the slot out of the cache only if no other call refers to it.

A slot is known by its key and a number: when a key gets a slot again after an eviction, it is a
new one.  What happened is kept as a list of events, the latest first.

A count goes through the slots of its cache as a hash map gives them, which is in no order that one
could name.  So each turn says whose it is and also in which order slots would be gone through, and
all that is proved holds for any turns.
-/
import PassContext.Memo.Job

namespace PassContext.Machine

/-! ## 1. Threads -/

variable (S : Service) (ρ : Type)

/-- Who gets the outcome of a fetch: the caller, or a computation for another key, which waits
with its slot locked. -/
inductive Stack : S.Key → Type
  | caller {key : S.Key} (next : S.Outcome key → Program S ρ) : Stack key
  | computation {key : S.Key} (outer : S.Key) (slot : Nat) (next : S.Outcome key → Job S outer)
      (below : Stack outer) : Stack key

/-- A slot: its key and its number. -/
abbrev SlotRef : Type := S.Key × Nat

/-- What a thread is about to do. -/
inductive Activity
  /-- To take the next step of its program. -/
  | running (p : Program S ρ)
  /-- To lock a slot that it only looks at. -/
  | looking (key : S.Key) (slot : Nat) (next : Option (S.Value key) → Program S ρ)
  /-- To read the slot it has locked, and to unlock it. -/
  | reading (key : S.Key) (slot : Nat) (next : Option (S.Value key) → Program S ρ)
  /-- To give up its reference to a slot that it looked at. -/
  | departing (key : S.Key) (slot : Nat) (p : Program S ρ)
  /-- To lock the first of the slots it counts. -/
  | counting (cache : S.Cache) (todo done : List (SlotRef S)) (n : Nat)
      (next : Nat → Program S ρ)
  /-- To read the slot it counts and has locked, and to unlock it. -/
  | tallying (cache : S.Cache) (key : S.Key) (slot : Nat) (todo done : List (SlotRef S))
      (n : Nat) (next : Nat → Program S ρ)
  /-- To give up its references to the slots it counted, one after the other. -/
  | releasing (done : List (SlotRef S)) (p : Program S ρ)
  /-- To lock the slot of a key that it fetches. -/
  | wanting (key : S.Key) (slot : Nat) (init : Job S key) (stack : Stack S ρ key)
  /-- To look whether the slot it has locked holds a value. -/
  | entered (key : S.Key) (slot : Nat) (init : Job S key) (stack : Stack S ρ key)
  /-- To take the next step of a computation, with the slot locked. -/
  | computing (key : S.Key) (slot : Nat) (job : Job S key) (stack : Stack S ρ key)
  /-- To take the slot out of the cache after a failure, if no one else refers to it. -/
  | evicting (key : S.Key) (slot : Nat) (e : S.Error) (stack : Stack S ρ key)
  /-- To give up its reference to a slot and hand on the outcome. -/
  | leaving (key : S.Key) (slot : Nat) (outcome : S.Outcome key) (stack : Stack S ρ key)

/-- A thread: what it is about to do, and whether it holds the lock of the cache it needs for
that. -/
structure Thread where
  activity : Activity S ρ
  inCache : Bool

/-- Something that happened. -/
inductive Event
  /-- A computation for a key began. -/
  | began (thread : Nat) (key : S.Key)
  /-- A computation for a key asked the outside world. -/
  | asked (thread : Nat) (key : S.Key) (q : S.Query) (a : S.Answer q)
  /-- A computation for a key ended. -/
  | ended (thread : Nat) (key : S.Key) (outcome : S.Outcome key)
  /-- A fetch returned. -/
  | fetched (thread : Nat) (key : S.Key) (outcome : S.Outcome key)
  /-- A look at a key returned. -/
  | found (thread : Nat) (key : S.Key) (value : Option (S.Value key))
  /-- A count returned. -/
  | counted (thread : Nat) (cache : S.Cache) (n : Nat)

/-- The state of all threads and of what they share. -/
structure State (σ : Type) where
  /-- The number of the slot that a key has in its cache. -/
  current : S.Key → Option Nat
  /-- How many slots a key has had. -/
  made : S.Key → Nat
  /-- What a slot holds. -/
  value : (key : S.Key) → Nat → Option (S.Value key)
  /-- The thread that has locked a slot. -/
  holder : S.Key → Nat → Option Nat
  /-- The thread that has locked a cache. -/
  cacheHolder : S.Cache → Option Nat
  /-- The keys that have ever had a slot. -/
  keys : List S.Key
  threads : List (Thread S ρ)
  world : σ
  events : List (Event S)

variable {S ρ} {σ : Type}

/-! ## 2. References and locks -/

/-- The slots that a stack refers to. -/
def Stack.slots : {key : S.Key} → Stack S ρ key → List (SlotRef S)
  | _, .caller _ => []
  | _, .computation outer slot _ below => (outer, slot) :: below.slots

namespace Activity

/-- The slots that a thread refers to. -/
def slots : Activity S ρ → List (SlotRef S)
  | .running _ => []
  | .looking key slot _ | .reading key slot _ | .departing key slot _ => [(key, slot)]
  | .counting _ todo done _ _ => todo ++ done
  | .tallying _ key slot todo done _ _ => (key, slot) :: todo ++ done
  | .releasing done _ => done
  | .wanting key slot _ stack | .entered key slot _ stack | .computing key slot _ stack
  | .evicting key slot _ stack | .leaving key slot _ stack => (key, slot) :: stack.slots

/-- The slots that a thread has locked. -/
def locked : Activity S ρ → List (SlotRef S)
  | .running _ | .looking .. | .departing .. | .counting .. | .releasing .. => []
  | .reading key slot _ | .tallying _ key slot .. => [(key, slot)]
  | .entered key slot _ stack | .computing key slot _ stack => (key, slot) :: stack.slots
  | .wanting _ _ _ stack | .evicting _ _ _ stack | .leaving _ _ _ stack => stack.slots

/-- The cache whose lock the next step needs. -/
def cache? : Activity S ρ → Option S.Cache
  | .running (.get key _) | .running (.fetch key _ _) => some (S.cacheOf key)
  | .running (.count cache _) => some cache
  | .computing _ _ (.fetch inner _ _) _ => some (S.cacheOf inner)
  | .evicting key _ _ _ => some (S.cacheOf key)
  | _ => none

/-- Whether a thread has come to its result. -/
def result? : Activity S ρ → Option ρ
  | .running (.result r) => some r
  | _ => none

end Activity

namespace State

/-- How many references to a slot there are: one of the cache, and those of the threads. -/
def owners (s : State S ρ σ) (key : S.Key) (slot : Nat) : Nat :=
  (if s.current key = some slot then 1 else 0) +
    (s.threads.flatMap fun t => t.activity.slots).count (key, slot)

/-! ## 3. Changes -/

/-- A thread goes on to another activity. -/
def become (s : State S ρ σ) (t : Nat) (a : Activity S ρ) : State S ρ σ :=
  { s with threads := s.threads.set t ⟨a, false⟩ }

def record (s : State S ρ σ) (e : Event S) : State S ρ σ := { s with events := e :: s.events }

/-- Sets what the slot of a key is in its cache. -/
def setCurrent (s : State S ρ σ) (key : S.Key) (slot : Option Nat) : State S ρ σ :=
  { s with current := fun k => if k = key then slot else s.current k }

def setHolder (s : State S ρ σ) (key : S.Key) (slot : Nat) (t : Option Nat) : State S ρ σ :=
  { s with holder := fun k n => if k = key ∧ n = slot then t else s.holder k n }

def setCacheHolder (s : State S ρ σ) (cache : S.Cache) (t : Option Nat) : State S ρ σ :=
  { s with cacheHolder := fun c => if c = cache then t else s.cacheHolder c }

def setValue (s : State S ρ σ) (key : S.Key) (slot : Nat) (v : S.Value key) : State S ρ σ :=
  { s with
    value := fun k n => if h : k = key ∧ n = slot then some (h.1 ▸ v) else s.value k n }

/-- The slot of a key in its cache, made if there is none. -/
def slotFor (s : State S ρ σ) (key : S.Key) : Nat × State S ρ σ :=
  match s.current key with
  | some slot => (slot, s)
  | none =>
    let slot := s.made key
    (slot,
      { s.setCurrent key (some slot) with
        made := fun k => if k = key then slot + 1 else s.made k
        keys := if key ∈ s.keys then s.keys else s.keys ++ [key] })

/-- The slots that a cache has, in one order of many. -/
def slotsOf (s : State S ρ σ) (cache : S.Cache) : List (SlotRef S) :=
  (s.keys.filter fun key => S.cacheOf key == cache).filterMap fun key =>
    (s.current key).map fun slot => (key, slot)

end State

/-! ## 4. Steps -/

variable (S) in
/-- An order in which slots are gone through. -/
structure Order where
  arrange : List (SlotRef S) → List (SlotRef S)
  perm : ∀ refs, (arrange refs).Perm refs

/-- The slots as they are listed. -/
def Order.listed : Order S := ⟨id, fun _ => .refl _⟩

variable (S) in
/-- A turn: the thread that takes its next step, and the order in which it goes through slots if it
begins or ends a count. -/
structure Turn where
  thread : Nat
  order : Order S

/-- A turn in which slots are gone through as they are listed. -/
def Turn.plain (t : Nat) : Turn S := ⟨t, .listed⟩

namespace State

/-- Thread `t` locks a slot and goes on, if no thread has locked it. -/
def lock (s : State S ρ σ) (t : Nat) (key : S.Key) (slot : Nat) (a : Activity S ρ) :
    Option (State S ρ σ) :=
  match s.holder key slot with
  | some _ => none
  | none => some ((s.setHolder key slot (some t)).become t a)

/-- Thread `t` hands the outcome of a fetch to whoever waits for it. -/
def handOn (s : State S ρ σ) (t : Nat) {key : S.Key} (outcome : S.Outcome key) :
    Stack S ρ key → State S ρ σ
  | .caller next => s.become t (.running (next outcome))
  | .computation outer slot next below => s.become t (.computing outer slot (next outcome) below)

/-- What thread `t` does next, with the lock of the cache it needs. -/
def act (respond : S.Respond σ) (order : Order S) (s : State S ρ σ) (t : Nat) :
    Activity S ρ → Option (State S ρ σ)
  | .running (.result _) => none
  | .running (.ask q next) =>
    let (a, world) := respond q s.world
    some ({ s with world := world }.become t (.running (next a)))
  | .running (.get key next) =>
    match s.current key with
    | none => some ((s.record (.found t key none)).become t (.running (next none)))
    | some slot => some (s.become t (.looking key slot next))
  | .running (.fetch key init next) =>
    let (slot, s) := s.slotFor key
    some (s.become t (.wanting key slot init (.caller next)))
  | .running (.count cache next) =>
    some (s.become t (.counting cache (order.arrange (s.slotsOf cache)) [] 0 next))
  | .looking key slot next => s.lock t key slot (.reading key slot next)
  | .reading key slot next =>
    let v := s.value key slot
    some (((s.setHolder key slot none).record (.found t key v)).become t
      (.departing key slot (next v)))
  | .departing _ _ p => some (s.become t (.running p))
  | .counting cache [] done n next =>
    some ((s.record (.counted t cache n)).become t (.releasing (order.arrange done) (next n)))
  | .counting cache ((key, slot) :: todo) done n next =>
    s.lock t key slot (.tallying cache key slot todo done n next)
  | .tallying cache key slot todo done n next =>
    let n := if (s.value key slot).isSome then n + 1 else n
    some ((s.setHolder key slot none).become t (.counting cache todo ((key, slot) :: done) n next))
  | .releasing [] p => some (s.become t (.running p))
  | .releasing (_ :: done) p => some (s.become t (.releasing done p))
  | .wanting key slot init stack => s.lock t key slot (.entered key slot init stack)
  | .entered key slot init stack =>
    match s.value key slot with
    | some v => some ((s.setHolder key slot none).become t (.leaving key slot (.ok v) stack))
    | none => some ((s.record (.began t key)).become t (.computing key slot init stack))
  | .computing key slot (.finish (.ok v)) stack =>
    some ((((s.setValue key slot v).setHolder key slot none).record (.ended t key (.ok v))).become
      t (.leaving key slot (.ok v) stack))
  | .computing key slot (.finish (.error e)) stack =>
    some (((s.setHolder key slot none).record (.ended t key (.error e))).become t
      (.evicting key slot e stack))
  | .computing key slot (.ask q next) stack =>
    let (a, world) := respond q s.world
    some (({ s with world := world }.record (.asked t key q a)).become t
      (.computing key slot (next a) stack))
  | .computing key slot (.fetch inner init next) stack =>
    let (n, s) := s.slotFor inner
    some (s.become t (.wanting inner n init (.computation key slot next stack)))
  | .evicting key slot e stack =>
    let alone := s.current key = some slot ∧ s.owners key slot = 2
    let free := s.holder key slot = none ∧ (s.value key slot).isNone
    let s := if alone ∧ free then s.setCurrent key none else s
    some (s.become t (.leaving key slot (.error e) stack))
  | .leaving key _ outcome stack =>
    some ((s.record (.fetched t key outcome)).handOn t outcome stack)

/-- The next step of the thread whose turn it is, if it can take one: to lock the cache it needs,
or else to act and unlock the cache again. -/
def step (respond : S.Respond σ) (s : State S ρ σ) (turn : Turn S) : Option (State S ρ σ) :=
  match s.threads[turn.thread]? with
  | none => none
  | some th =>
    match th.activity.cache? with
    | none => s.act respond turn.order turn.thread th.activity
    | some cache =>
      if th.inCache then
        (s.act respond turn.order turn.thread th.activity).map (·.setCacheHolder cache none)
      else
        match s.cacheHolder cache with
        | some _ => none
        | none =>
          some ({ s with
            threads := s.threads.set turn.thread { th with inCache := true } }.setCacheHolder
            cache (some turn.thread))

/-! ## 5. Whole runs -/

/-- Threads with programs that have not begun, over caches as they are. -/
def start (m : S.Caches) (programs : List (Program S ρ)) (world : σ) : State S ρ σ where
  current key := (m.slot? key).map fun _ => 0
  made key := if (m.slot? key).isSome then 1 else 0
  value key slot := if slot = 0 then m.get? key else none
  holder _ _ := none
  cacheHolder _ := none
  keys := m.keys
  threads := programs.map fun p => ⟨.running p, false⟩
  world := world
  events := []

/-- The caches as the threads left them. -/
def caches (s : State S ρ σ) : S.Caches :=
  ⟨s.keys.filterMap fun key => (s.current key).map fun slot => ⟨key, s.value key slot⟩⟩

/-- The results of the threads that have come to one. -/
def results (s : State S ρ σ) : List ρ := s.threads.filterMap (·.activity.result?)

/-- One step of each of the given threads that can take one, in turn. -/
def take (respond : S.Respond σ) (s : State S ρ σ) (threads : List Nat) : State S ρ σ :=
  threads.foldl (fun s t => (s.step respond (.plain t)).getD s) s

/-- One step of each thread that can take one, in turn. -/
def round (respond : S.Respond σ) (s : State S ρ σ) : State S ρ σ :=
  s.take respond (List.range s.threads.length)

/-- So many rounds. -/
def rounds (respond : S.Respond σ) : Nat → State S ρ σ → State S ρ σ
  | 0, s => s
  | n + 1, s => rounds respond n (s.round respond)

/-- One step after another, in any turns. -/
inductive Reaches (respond : S.Respond σ) : State S ρ σ → State S ρ σ → Prop
  | refl (s : State S ρ σ) : Reaches respond s s
  | step {s u v : State S ρ σ} {turn : Turn S} (h : Reaches respond s u)
      (h' : u.step respond turn = some v) : Reaches respond s v

end State

end PassContext.Machine
