/-
# Callers that race for one key

Many threads fetch one key of a map from texts to texts at the same time.  The computations are
numbered as they run, those up to a bound fail, and a later one gives its number.
-/
import PassContext.Memo.Machine

namespace PassContext.Memo

/-- A map from texts to texts. -/
abbrev TextMap := Memo String fun _ => String

/-- One cache from texts to texts, whose computations are answered from outside. -/
def textService : Service where
  Cache := Unit
  Key := String
  cacheOf _ := ()
  Value _ := String
  Error := Unit
  Query := Unit
  Answer _ := Except Unit String

/-- The next computation: it is numbered, and fails if its number is not above `failures`.  The
state is how many there were. -/
def numbered (failures : Nat) : textService.Respond Nat := fun _ ran =>
  (if ran + 1 ≤ failures then Except.error () else Except.ok (s!"v{ran + 1}"), ran + 1)

/-- Fetches a key, asking for its value if it has none. -/
def fetchText (key : String) : Program textService (Except Unit String) :=
  .fetch key (.ask () fun answer => .finish answer) .result

/-- How a race ended. -/
structure RaceResult where
  /-- How many computations ran. -/
  calls : Nat
  /-- The values that callers got. -/
  values : List String
  /-- How many callers failed. -/
  failed : Nat
  map : TextMap

/-- Lets `threads` callers race for a key.  Each caller takes at most a dozen steps, and in every
round at least one of them takes one. -/
def race (m : TextMap) (key : String) (threads failures : Nat) : RaceResult :=
  let started := Machine.State.start (S := textService) m (List.replicate threads (fetchText key)) 0
  let ended := started.rounds (numbered failures) (16 * threads + 16)
  { calls := ended.world
    values := ended.results.filterMap Except.toOption
    failed := (ended.results.filter fun r => !r.toBool).length
    map := ended.caches }

end PassContext.Memo
