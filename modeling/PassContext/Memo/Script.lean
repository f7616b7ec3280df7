/-
# Scripts of requests

A script is a list of requests to one memo table, in which each computation may itself run a
script.  Running it gives the answers to all requests, and with each request that computed
something the answers to the requests inside.  A race is one request: it is over before the next
one is answered.
-/
import PassContext.Memo.Race

namespace PassContext.Memo

/-- A request to a map from texts to texts. -/
inductive Request
  /-- The value of a key, if it has one. -/
  | get (key : String)
  /-- The value of a key, computed if it has none: the requests `inside` run, and then the
  computation ends with `outcome`. -/
  | fetch (key : String) (outcome : Except String String) (inside : List Request)
  /-- Callers that fetch a key at once; so many computations fail. -/
  | race (key : String) (threads failures : Nat)
  /-- How many keys have a value. -/
  | count
  /-- How the map is shown. -/
  | display

/-- The answer to a request. -/
inductive Reply
  | found (value : Option String)
  /-- The outcome of a fetch, and the answers inside if the computation ran. -/
  | fetched (outcome : Except String String) (inside : Option (List Reply))
  /-- How a race ended, and the value of its key afterwards. -/
  | raced (result : RaceResult) (value : Option String)
  | counted (n : Nat)
  | shown (text : String)

mutual

/-- The answer to a request, and the map behind it. -/
def Request.run : Request → TextMap → Reply × TextMap
  | .get key, m => (.found (m.get? key), m)
  | .fetch key outcome inside, m =>
    let init (s : TextMap × Option (List Reply)) :
        Except String String × (TextMap × Option (List Reply)) :=
      let (replies, m) := runAll inside s.1
      (outcome, (m, some replies))
    let (r, (m, ran)) := Memo.fetch key init (m, none)
    (.fetched r ran, m)
  | .race key threads failures, m =>
    let r := Memo.race m key threads failures
    (.raced r (r.map.get? key), r.map)
  | .count, m => (.counted (m.count fun _ => true), m)
  | .display, m => (.shown (Memo.shown (m.slotCount fun _ => true)), m)

/-- The answers to requests, and the map behind them. -/
def runAll : List Request → TextMap → List Reply × TextMap
  | [], m => ([], m)
  | r :: rs, m =>
    let (reply, m) := r.run m
    let (replies, m) := runAll rs m
    (reply :: replies, m)

end

end PassContext.Memo
