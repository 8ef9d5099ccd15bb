import ContentCache.Content.Stream

/-!
# Sources of content

What an upload takes: content that can be read from any position, or a stream that passes by once.

Main statement: `stream_seekable_bytes` (a source with positions gives the bytes from its position on, none
past its end, until reading fails).
-/

namespace ContentCache

/-- Content that can be read from any position, with the position that reading starts at, which may
lie past the end. One of its seeks may be refused, where asking for the position counts as a seek, and
reading may fail. -/
structure Seekable where
  data : Bytes
  position : Nat := 0
  /-- The number of the seek that is refused, counted from 1. -/
  refusedSeek : Option Nat := none
  /-- The error of that seek. -/
  refusal : IoError := .saying ("seek " ++ (refusedSeek.getD 0).repr ++ " refused")
  seeks : Nat := 0
  /-- The offset that reading does not pass, with the error. -/
  broken : Option (Nat × IoError) := none
  deriving DecidableEq, Repr

/-- Where a seek leads. -/
inductive SeekTarget where
  /-- Nowhere else: the position is asked for. -/
  | here
  | finish
  | offset (n : Nat)
  deriving DecidableEq, Repr

namespace Seekable

/-- The position of a target. -/
def positionOf (s : Seekable) : SeekTarget → Nat
  | .here => s.position
  | .finish => s.data.length
  | .offset n => n

/-- Moves to a target and tells its position. Every seek is counted, and one may be refused. -/
def seek (s : Seekable) (target : SeekTarget) : Except IoError (Nat × Seekable) :=
  let number := s.seeks + 1
  if s.refusedSeek = some number then .error s.refusal
  else .ok (s.positionOf target, { s with position := s.positionOf target, seeks := number })

/-- What lies behind the position. -/
def remaining (s : Seekable) : Bytes := s.data.drop s.position

/-- Behind so many bytes. -/
def advanced (s : Seekable) (k : Nat) : Seekable := { s with position := s.position + k }

@[simp] theorem advanced_position (s : Seekable) (k : Nat) :
    (s.advanced k).position = s.position + k := rfl

@[simp] theorem advanced_broken (s : Seekable) (k : Nat) : (s.advanced k).broken = s.broken := rfl

@[simp] theorem advanced_remaining (s : Seekable) (k : Nat) :
    (s.advanced k).remaining = s.remaining.drop k := by
  rw [remaining, remaining, List.drop_drop]
  rfl

/-- How many bytes are read from the position on before reading fails, and the error, if it fails before
the end or instead of coming to it. -/
def fault? (s : Seekable) : Option (Nat × IoError) :=
  match s.broken with
  | none => none
  | some (offset, e) =>
    if s.position ≤ offset ∧ offset ≤ s.position + s.remaining.length then
      some (offset - s.position, e)
    else none

/-- What is read from the position on, to the end or until reading fails. -/
def readable (s : Seekable) : Bytes :=
  match s.fault? with
  | none => s.remaining
  | some (n, _) => s.remaining.take n

def failure? (s : Seekable) : Option IoError := s.fault?.map Prod.snd

/-- Reading from the position on, as a stream. -/
def items (s : Seekable) : Stream := bytesStream s.readable ++ (s.failure?.map Item.error).toList

end Seekable

/-- What an upload takes. -/
inductive Source where
  | seekable (s : Seekable)
  | stream (items : Stream)
  deriving DecidableEq, Repr

namespace Source

def ofBytes (data : Bytes) : Source := .seekable { data }

/-- A reader that gives one item at a time. -/
def ofReader (script : List Item) : Source := .stream (readerStream script)

/-- The content as a stream, from the current position on. -/
def toStream : Source → Stream
  | seekable s => s.items
  | stream items => items

/-- What the content holds from the current position on, whether it can be read or not. -/
def remaining : Source → Bytes
  | seekable s => s.remaining
  | stream items => items.bytes

def isSeekable : Source → Bool
  | seekable _ => true
  | stream _ => false

/-- A source with positions gives the bytes from its position on, as far as they can be read. -/
theorem stream_seekable_bytes (s : Seekable) : Stream.bytes (toStream (.seekable s)) = s.readable := by
  show Stream.bytes (bytesStream s.readable ++ _) = _
  rw [Stream.bytes_append, bytes_bytesStream]
  cases s.failure? <;> simp [Stream.bytes, Item.bytes]

end Source

end ContentCache
