import ContentCache.Content.Source

/-!
# Readers

A reader is asked for bytes, up to so many at a time, and gives some of them or an error; it gives none
at its end. A stream is made of a reader by asking it for a chunk whenever an item is wanted.

* `Reader`, `Reader.read`: readers, and what they give.
* `ReaderStream`, `ReaderStream.poll`, `ReaderStream.answers`: a reader as a stream, asked item by item.
-/

namespace ContentCache

/-- A reader that follows a script, or one over content with positions. -/
inductive Reader where
  | scripted (script : List Item)
  | positioned (s : Seekable)

namespace Reader

/-- Asks for up to `room` bytes: what is given, and the reader afterwards. What an item of a script has
beyond that stays for the next time. -/
def read (room : Nat) : Reader → Except IoError Bytes × Reader
  | scripted [] => (.ok [], scripted [])
  | scripted (.error e :: rest) => (.error e, scripted rest)
  | scripted (.chunk data :: rest) =>
    if data.length ≤ room then (.ok data, scripted rest)
    else (.ok (data.take room), scripted (.chunk (data.drop room) :: rest))
  | positioned s =>
    let data := s.readable.take room
    match s.failure? with
    | some e =>
      if data.isEmpty then (.error e, positioned s)
      else (.ok data, positioned (s.advanced data.length))
    | none => (.ok data, positioned (s.advanced data.length))

/-- The content that a reader gives. -/
def source : Reader → Source
  | scripted script => .ofReader script
  | positioned s => .seekable s

end Reader

/-- A reader from which items are taken; there is none any more after the end or an error. -/
structure ReaderStream where
  reader : Option Reader

namespace ReaderStream

def start (r : Reader) : ReaderStream := ⟨some r⟩

/-- Asks for the next item. -/
def poll (t : ReaderStream) : Option Item × ReaderStream :=
  match t.reader with
  | none => (none, t)
  | some r =>
    match r.read chunkSize with
    | (.ok data, rest) => if data.isEmpty then (none, ⟨none⟩) else (some (.chunk data), ⟨some rest⟩)
    | (.error e, _) => (some (.error e), ⟨none⟩)

/-- The answers when an item is asked for so many times. -/
def answers : (k : Nat) → ReaderStream → List (Option Item)
  | 0, _ => []
  | k + 1, t => t.poll.1 :: answers k t.poll.2

end ReaderStream

end ContentCache
