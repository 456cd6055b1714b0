import ApiReview.Remote.Download

/-!
Downloaded schemas, each kept after its first success. Where a download fails the bundled
schema of the dialect stands in, and the next use tries the download again. Only calls that
have waited for a failed attempt share its error instead of trying themselves.

Validators are numbered in the order in which they were built, so that two uses can be seen
to share one.
-/
namespace ApiReview.Remote

/-- What a validator is kept for. -/
inductive Key where
  | remote (dialect : Dialect) (url : String)
  | bundled (dialect : Dialect)
  deriving DecidableEq

/-- A validator with its number. -/
abbrev Numbered := Nat × Schema.Validator

/-- What is known for a key: how many attempts have failed, the validator once one has
succeeded, and the text of the last error before that. -/
structure Slot where
  failures : UInt64 := 0
  validator : Option Numbered := none
  lastError : Option String := none

/-- Where a schema came from. -/
inductive Source where
  | remote (url : String)
  | bundled (reason : Failure)

def Source.text : Source → String
  | remote url => "remote schema " ++ url
  | bundled reason => "bundled schema (" ++ reason.message ++ ")"

structure Cache where
  /-- All validators that have been built. -/
  validators : Array Schema.Validator := #[]
  slots : List (Key × Slot) := []

/-- A validator in use: its number, itself, where it came from, and whether its URL was asked for. -/
structure Loaded where
  number : Nat
  validator : Schema.Validator
  source : Source
  requested : Bool

/-- How a call at a slot comes out. -/
inductive Turn (ε : Type) where
  | kept (found : Numbered)
  /-- The error of the attempt that the call has waited for. -/
  | shared (reason : String)
  | built (found : Numbered)
  | failed (e : ε)

namespace Turn

variable {ε : Type}

/-- The validator or the error; `earlier` tells an error again. -/
def result (earlier : String → ε) : Turn ε → Except ε Numbered
  | kept found | built found => .ok found
  | shared reason => .error (earlier reason)
  | failed e => .error e

/-- Whether the call made an attempt itself. -/
def attempted : Turn ε → Bool
  | kept _ | shared _ => false
  | built _ | failed _ => true

end Turn

namespace Cache

def empty : Cache := {}

/-- The slot of a key; one that was not asked for yet is empty. -/
def slot (c : Cache) (key : Key) : Slot := (c.slots.lookup key).getD {}

def setSlot (c : Cache) (key : Key) (s : Slot) : Cache :=
  { c with slots := (key, s) :: c.slots.filter (·.1 ≠ key) }

/-- Whatever is asked of a key, its slot is there afterwards. -/
def enter (c : Cache) (key : Key) : Cache :=
  if (c.slots.lookup key).isSome then c else c.setSlot key {}

/-- A call arrives at a slot and sees how many attempts have failed so far. -/
def arrive (c : Cache) (key : Key) : Cache × UInt64 :=
  let c := c.enter key
  (c, (c.slot key).failures)

/-- A call has its turn at a slot: what is in there, the last error if an attempt has failed
since the call arrived, or what comes of an attempt. -/
def proceed {ε : Type} (c : Cache) (key : Key) (seen : UInt64) (shown : ε → String)
    (build : Except ε Schema.Validator) : Cache × Turn ε :=
  let s := c.slot key
  match s.validator, (if s.failures = seen then none else s.lastError), build with
  | some found, _, _ => (c, .kept found)
  | none, some reason, _ => (c, .shared reason)
  | none, none, .ok v =>
    let found := (c.validators.size, v)
    ({ c with validators := c.validators.push v }.setSlot key
      { s with validator := some found, lastError := none }, .built found)
  | none, none, .error e =>
    (c.setSlot key { s with failures := s.failures + 1, lastError := some (shown e) }, .failed e)

/-- A call that does not have to wait. -/
def obtain {ε : Type} (c : Cache) (key : Key) (shown : ε → String)
    (build : Except ε Schema.Validator) : Cache × Turn ε :=
  let (c, seen) := c.arrive key
  c.proceed key seen shown build

/-- The bundled schema of a dialect. -/
def bundled (c : Cache) (d : Dialect) : Cache × Except Schema.Error Numbered :=
  let (c, turn) := c.obtain (.bundled d) Schema.Error.message (Bundled.validator d)
  (c, turn.result .earlier)

/-- Looks whether a download for a dialect has succeeded. -/
def look (c : Cache) (d : Dialect) (url : String) : Cache × Bool :=
  let c := c.enter (.remote d url)
  (c, (c.slot (.remote d url)).validator.isSome)

def isCached (c : Cache) (d : Dialect) (url : String) : Bool := (c.look d url).2

/-- The schema for a dialect from a URL, or else the bundled one. -/
def load (server : Server) (c : Cache) (d : Dialect) (url : String) :
    Cache × Except Schema.Error Loaded :=
  let (c, turn) := c.obtain (.remote d url) Failure.message (download server url)
  match turn.result .earlier with
  | .ok (number, v) => (c, .ok ⟨number, v, .remote url, turn.attempted⟩)
  | .error reason =>
    let (c, found) := c.bundled d
    (c, found.map fun (number, v) => ⟨number, v, .bundled reason, turn.attempted⟩)

end Cache
end ApiReview.Remote
