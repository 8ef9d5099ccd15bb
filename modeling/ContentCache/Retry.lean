import ContentCache.Failure

/-!
# Retry policies

How often a caller repeats a failed operation, and how long it waits before each repeat. Waits
come from a table whose last entry goes on for ever; the doubling policy has the table
100, 200, 400, ... milliseconds of at most ten entries.

Main statements: `allows_iff` (a repeat needs both a free attempt and a transient failure),
`wait_of_lt` and `wait_of_le` (the wait is the table's entry, and its last one past the end).
-/

namespace ContentCache

/-- How often, and how patiently, a failed operation is repeated. -/
structure RetryPolicy where
  /-- Attempts after the first one. -/
  maxRetries : Nat
  /-- Milliseconds to wait before each repeat; the last entry goes on. -/
  waits : List Nat
  deriving DecidableEq, Repr

namespace RetryPolicy

/-- Doublings before the wait stays the same. -/
def doublings : Nat := 10

/-- The wait for an empty table, in milliseconds. -/
def defaultWait : Nat := 1000

/-- Up to `n` repeats, waiting 100, 200, 400, ... milliseconds. -/
def doubling (n : Nat) : RetryPolicy :=
  ⟨n, (List.range (min n doublings)).map fun i => 100 * Nat.pow 2 i⟩

def once : RetryPolicy := doubling 0

def standard : RetryPolicy := doubling 3

/-- Whether to repeat after attempt number `attempt`, counted from zero, ended in `failure`. -/
def allows (p : RetryPolicy) (attempt : Nat) (failure : Failure) : Bool :=
  attempt < p.maxRetries && failure.isTransient

/-- The milliseconds to wait before the repeat that follows attempt number `attempt`. -/
def waitMilliseconds (p : RetryPolicy) (attempt : Nat) : Nat :=
  match p.waits[attempt]? with
  | some ms => ms
  | none => p.waits.getLast?.getD defaultWait

def wait (p : RetryPolicy) (attempt : Nat) : Time.Span := .ofMilliseconds (p.waitMilliseconds attempt)

theorem allows_iff {p : RetryPolicy} {attempt : Nat} {failure : Failure} :
    p.allows attempt failure = true ↔ attempt < p.maxRetries ∧ failure.isTransient = true := by
  simp [allows]

theorem wait_of_lt {p : RetryPolicy} {attempt : Nat} (h : attempt < p.waits.length) :
    p.waitMilliseconds attempt = p.waits[attempt] := by
  simp [waitMilliseconds, h]

theorem wait_of_le {p : RetryPolicy} {attempt : Nat} (h : p.waits.length ≤ attempt) :
    p.waitMilliseconds attempt = p.waits.getLast?.getD defaultWait := by
  simp [waitMilliseconds, List.getElem?_eq_none h]

end RetryPolicy

end ContentCache
