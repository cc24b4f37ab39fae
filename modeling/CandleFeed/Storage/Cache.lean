import CandleFeed.Storage.Clock
import CandleFeed.Storage.Table

/-!
# A cache whose entries expire

A **`Cache`** maps keys to texts, each with an optional deadline.  An entry lives until its deadline
is reached; reading passes over entries that have expired, and **`Cache.set`** sweeps them out
before it writes.

A cache may be out of reach.  A **`CacheLink`** is a cache together with the calls that fail and
the reasons they give; every call on it counts, whether it fails or not.
-/

namespace CandleFeed

/-- What a key has in the cache. -/
structure CacheEntry where
  /-- The text. -/
  value : String
  /-- When it expires, if it does. -/
  deadline : Option Nat
deriving DecidableEq

/-- The entry has not expired. -/
def CacheEntry.isLive (e : CacheEntry) (now : Nat) : Bool :=
  match e.deadline with
  | some deadline => decide (now < deadline)
  | none => true

/-- A map from keys to texts that expire. -/
structure Cache where
  /-- The entries, among them perhaps some that have expired. -/
  entries : Table String CacheEntry

namespace Cache

/-- The cache without entries. -/
def empty : Cache := ⟨.empty⟩

/-- The text of a key. -/
def get? (c : Cache) (now : Nat) (key : String) : Option String :=
  ((c.entries.get? key).filter (·.isLive now)).map (·.value)

/-- The key has a text. -/
def contains (c : Cache) (now : Nat) (key : String) : Bool := (c.get? now key).isSome

/-- The cache without the entries that have expired. -/
def sweep (c : Cache) (now : Nat) : Cache := ⟨c.entries.filter fun _ e => e.isLive now⟩

/-- The cache without a key. -/
def erase (c : Cache) (key : String) : Cache := ⟨c.entries.erase key⟩

/-- Sweeps, then gives a key a text that expires after a length of time, or never.  The second
part says whether the deadline exists; if it does not, nothing is written. -/
def set (c : Cache) (now : Nat) (key value : String) (ttl : Option Nat) : Cache × Bool :=
  let swept := c.sweep now
  match ttl with
  | none => (⟨swept.entries.insert key ⟨value, none⟩⟩, true)
  | some ttl =>
    match Clock.deadline? now ttl with
    | some deadline => (⟨swept.entries.insert key ⟨value, some deadline⟩⟩, true)
    | none => (swept, false)

/-- How many entries have not expired. -/
def size (c : Cache) (now : Nat) : Nat :=
  (c.entries.entries.filter fun e => e.2.isLive now).length

end Cache

/-- Why a cache does not do what it is asked. -/
inductive CacheFault where
  /-- It cannot be reached. -/
  | operationFailed (reason : String)
  /-- What it holds is not what it should hold. -/
  | encoding
  /-- An entry would expire after the last instant. -/
  | outOfTime
deriving DecidableEq, Repr

/-- The message for a fault, where there is one. -/
def CacheFault.message? : CacheFault → Option String
  | operationFailed reason => some ("operation failed: " ++ reason)
  | _ => none

/-- A cache that may fail. -/
structure CacheLink where
  /-- The cache. -/
  cache : Cache
  /-- How many calls there have been. -/
  calls : Nat
  /-- Why the call with a number fails, if it does. -/
  failure : Nat → Option String

namespace CacheLink

/-- A link to an empty cache that never fails. -/
def reliable : CacheLink := ⟨.empty, 0, fun _ => none⟩

/-- A link to an empty cache on which every call fails. -/
def broken (reason : String) : CacheLink := ⟨.empty, 0, fun _ => some reason⟩

/-- Makes one call. -/
def call {α : Type} (l : CacheLink) (f : Cache → Cache × Except CacheFault α) :
    CacheLink × Except CacheFault α :=
  let counted := { l with calls := l.calls + 1 }
  match l.failure l.calls with
  | some reason => (counted, .error (.operationFailed reason))
  | none =>
    let (cache, result) := f l.cache
    ({ counted with cache }, result)

/-- The text of a key. -/
def get? (l : CacheLink) (now : Nat) (key : String) :
    CacheLink × Except CacheFault (Option String) :=
  l.call fun c => (c, .ok (c.get? now key))

/-- The key has a text. -/
def contains (l : CacheLink) (now : Nat) (key : String) : CacheLink × Except CacheFault Bool :=
  l.call fun c => (c, .ok (c.contains now key))

/-- Takes a key away. -/
def erase (l : CacheLink) (key : String) : CacheLink × Except CacheFault Unit :=
  l.call fun c => (c.erase key, .ok ())

/-- Gives a key a text. -/
def set (l : CacheLink) (now : Nat) (key value : String) (ttl : Option Nat) :
    CacheLink × Except CacheFault Unit :=
  l.call fun c =>
    let (c, written) := c.set now key value ttl
    (c, if written then .ok () else .error .outOfTime)

end CacheLink

end CandleFeed
