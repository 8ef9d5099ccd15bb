import ContentCache.Cache.Counters
import ContentCache.Content.Stream
import ContentCache.Files.Spool

/-!
# The tee

On its way from an origin to the store, content passes a tee that writes every chunk into a spool. The
first error, of reading the origin or of writing the spool, ends the stream and is kept as the failure.

* `Tee`, `Tee.see`: what has been written, and the failure.
* `TeeStream`, `TeeStream.next?`, `TeeStream.polls`: a stream that passes a tee, asked item by item, with
  its spool, its counters and its failure.
* `TeeStream.items`, `TeeStream.after`: what comes out of a tee, and what it has kept then.

Main statements: `spool_observe` (the spool holds exactly the bytes that have passed) and
`failure_observe` (the failure is that of the first error).
-/

namespace ContentCache

/-- What a tee has seen: the chunks in its spool, last first, and the failure of the origin. -/
structure Tee where
  chunks : List Bytes := []
  failure : Option Failure := none
  deriving DecidableEq

namespace Tee

def start : Tee := {}

/-- The failure that an error of reading an origin becomes. -/
def failureOf (e : IoError) : Failure := Failure.originFailure ("failed to read origin body: " ++ e.text)

/-- An item passes. Only the first error is kept. -/
def see (t : Tee) : Item → Tee
  | .chunk data => { t with chunks := data :: t.chunks }
  | .error e => { t with failure := t.failure.orElse fun _ => some (failureOf e) }

def observe (t : Tee) (items : Stream) : Tee := items.foldl see t

/-- What has been written. -/
def spool (t : Tee) : Bytes := t.chunks.reverse.flatten

def size (t : Tee) : Nat := t.spool.length

theorem observe_append (t : Tee) (s u : Stream) : t.observe (s ++ u) = (t.observe s).observe u := by
  simp [observe]

/-- The spool holds exactly the bytes that have passed. -/
theorem spool_observe (t : Tee) (items : Stream) :
    (t.observe items).spool = t.spool ++ items.bytes := by
  induction items generalizing t with
  | nil => simp [observe, Stream.bytes]
  | cons item rest ih =>
    have h : t.observe (item :: rest) = (t.see item).observe rest := rfl
    rw [h, ih]
    cases item <;> simp [see, spool, Stream.bytes, Item.bytes]

/-- The failure is that of the first error that has passed. -/
theorem failure_observe (t : Tee) (items : Stream) :
    (t.observe items).failure =
      t.failure.orElse fun _ => items.firstError?.map failureOf := by
  induction items generalizing t with
  | nil => cases h : t.failure <;> simp [observe, Stream.firstError?, h]
  | cons item rest ih =>
    have h : t.observe (item :: rest) = (t.see item).observe rest := rfl
    rw [h, ih]
    cases item with
    | chunk data => simp [see, Stream.firstError?]
    | error e => cases hf : t.failure <;> simp [see, Stream.firstError?, hf]

end Tee

/-! ## A stream that passes a tee -/

/-- The failure that an error of writing the spool becomes. -/
def Tee.spoolFailureOf (e : IoError) : Failure := .io ("failed to write spool file: " ++ e.text)

/-- A stream from an origin, with all that is kept of its items when they pass. -/
structure TeeStream where
  origin : Stream
  /-- What the spool holds. -/
  held : Bytes := []
  failure : Option Failure := none
  counters : Counters := .zero
  write : SpoolWrite := .sound

namespace TeeStream

/-- Nothing has passed, and writes to the spool go as they will. -/
def through (write : SpoolWrite) (origin : Stream) (counters : Counters := .zero) : TeeStream :=
  { origin, counters, write }

/-- Nothing has passed, and the spool works. -/
def start (origin : Stream) (counters : Counters) : TeeStream := through .sound origin counters

/-- Keeps a failure unless there is one already. -/
def record (t : TeeStream) (f : Failure) : TeeStream :=
  { t with failure := t.failure.orElse fun _ => some f }

/-- Takes the next item, which is an error when its chunk cannot be written; an error is the last one. -/
def next? (t : TeeStream) : Option (Item × TeeStream) :=
  match t.origin with
  | [] => none
  | .chunk data :: rest =>
    match t.write t.held.length data with
    | none =>
      some (.chunk data,
        { t with origin := rest, held := t.held ++ data, counters := t.counters.countBytes data.length })
    | some (n, e) =>
      some (.error e,
        { t with origin := [], held := t.held ++ data.take n }.record (Tee.spoolFailureOf e))
  | .error e :: _ => some (.error e, { t with origin := [] }.record (Tee.failureOf e))

/-- Asks for so many items: those that came, and what is left. -/
def polls : (k : Nat) → TeeStream → Stream × TeeStream
  | 0, t => ([], t)
  | k + 1, t =>
    match t.next? with
    | none => ([], t)
    | some (item, rest) => (item :: (polls k rest).1, (polls k rest).2)

/-- All the items that come. -/
def items (t : TeeStream) : Stream := (t.polls t.origin.length).1

/-- What is left when so many items have been asked for. -/
def after (t : TeeStream) (k : Nat) : TeeStream := (t.polls k).2

end TeeStream

end ContentCache
