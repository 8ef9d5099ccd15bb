import ContentCache.Time.Span

/-!
# Counters

What a cache counts: requests and how they ended, and what was taken from origins. Counters are
64-bit words and wrap. Two rates are derived from them.
-/

namespace ContentCache

structure Counters where
  requests : UInt64 := 0
  hits : UInt64 := 0
  misses : UInt64 := 0
  /-- Misses with a copy that was older than the threshold. -/
  stale : UInt64 := 0
  originFetches : UInt64 := 0
  originErrors : UInt64 := 0
  backendErrors : UInt64 := 0
  digestMismatches : UInt64 := 0
  bytesFromOrigin : UInt64 := 0
  /-- The time of all calls together, in microseconds. -/
  microseconds : UInt64 := 0
  deriving DecidableEq, Repr

namespace Counters

def zero : Counters := {}

def countRequest (c : Counters) : Counters := { c with requests := c.requests + 1 }

def countHit (c : Counters) : Counters := { c with hits := c.hits + 1 }

/-- A call goes to the origin; `stale` when there was a copy that is too old. -/
def countMiss (c : Counters) (stale : Bool) : Counters :=
  { c with misses := c.misses + 1, stale := if stale then c.stale + 1 else c.stale }

def countOriginFetch (c : Counters) : Counters := { c with originFetches := c.originFetches + 1 }

/-- A call fails at the origin or behind the cache. -/
def countFailure (c : Counters) (atOrigin : Bool) : Counters :=
  if atOrigin then { c with originErrors := c.originErrors + 1 }
  else { c with backendErrors := c.backendErrors + 1 }

def countDigestMismatch (c : Counters) : Counters :=
  { c with digestMismatches := c.digestMismatches + 1 }

/-- Bytes arrive from an origin. -/
def countBytes (c : Counters) (n : Nat) : Counters :=
  { c with bytesFromOrigin := c.bytesFromOrigin + UInt64.ofNat n }

def countDuration (c : Counters) (s : Time.Span) : Counters :=
  { c with microseconds := c.microseconds + UInt64.ofNat s.microseconds }

/-- The counters in their order of report. -/
def toList (c : Counters) : List UInt64 :=
  [c.requests, c.hits, c.misses, c.stale, c.originFetches, c.originErrors, c.backendErrors,
   c.digestMismatches, c.bytesFromOrigin, c.microseconds]

/-! ## Rates -/

/-- The hits among all hits and misses, in per cent. -/
def hitRate (c : Counters) : Float :=
  let total := c.hits + c.misses
  if total = 0 then 0 else c.hits.toFloat / total.toFloat * 100

/-- The average time of a call, in milliseconds. -/
def averageMilliseconds (c : Counters) : Float :=
  if c.requests = 0 then 0 else c.microseconds.toFloat / c.requests.toFloat / 1000

end Counters

end ContentCache
