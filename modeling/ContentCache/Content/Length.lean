import ContentCache.Content.Source
import ContentCache.Files.Spool

/-!
# The length of a content

Signed uploads need the length before the first byte. A positive declared length is trusted.
Content with positions is measured by three seeks: where it is, to its end, and back. A stream is
buffered, in memory up to a limit and in a spill file past it.

Main definitions: `measure`, `bufferStream`, `spillStream`, `resolveLength`. Main statement:
`resolveLength_declared` (a positive declared length leaves the content untouched).
-/

namespace ContentCache

/-- A content with the length that will be announced for it. -/
structure Measured where
  source : Source
  length : Nat
  deriving DecidableEq, Repr

/-- Measures content by three seeks: for its position, to its end, and back. Nothing is left of content
whose position lies past its end. -/
def measure (s : Seekable) : Except IoError Measured := do
  let (start, s) ← s.seek .here
  let (stop, s) ← s.seek .finish
  let (_, s) ← s.seek (.offset start)
  pure ⟨.seekable s, stop - start⟩

/-! ## Buffering -/

/-- What has been buffered: the chunks so far, last first, and their total length. -/
structure Buffer where
  chunks : List Bytes := []
  size : Nat := 0

namespace Buffer

def bytes (b : Buffer) : Bytes := b.chunks.reverse.flatten

def add (b : Buffer) (data : Bytes) : Buffer := ⟨data :: b.chunks, b.size + data.length⟩

/-- The file that has been written chunk by chunk: it stands behind the last one. -/
def file (b : Buffer) : Seekable := { data := b.bytes, position := b.size }

end Buffer

/-- Back at the start of a file. -/
def Seekable.rewound (s : Seekable) : Seekable := { s with position := 0 }

namespace Buffer

/-- Moves what is in memory to a new spill file and writes a chunk behind it. -/
def spill (b : Buffer) (spillFile : Except Failure SpoolFile) (data : Bytes) :
    Except Failure SpoolFile := do
  let file ← spillFile
  file.append 0 b.bytes
  file.append b.size data
  pure file

/-- The content of a spill file that everything has been written to. -/
def finish (b : Buffer) (file : SpoolFile) : Except Failure Measured := do
  file.flush
  file.rewind
  pure ⟨.seekable { b.file.rewound with broken := file.broken }, b.size⟩

end Buffer

/-- Writes what is left of a stream to a spill file, behind what it holds already. -/
def spillStream (file : SpoolFile) :
    Stream → (taken : Stream) → Buffer → Except Failure Measured × Stream
  | [], taken, b => (b.finish file, taken.reverse)
  | .error e :: _, taken, _ => (.error e.failure, (.error e :: taken).reverse)
  | .chunk data :: rest, taken, b =>
    match file.append b.size data with
    | .error f => (.error f, (.chunk data :: taken).reverse)
    | .ok _ => spillStream file rest (.chunk data :: taken) (b.add data)

/-- Buffers a stream to its end, in memory as long as it has up to `limit` bytes. Past that everything
moves to a spill file, and `spillFile` tells whether one can be made and what becomes of it. Beside the
result stand the items that were taken from the stream. -/
def bufferStream (limit : Nat) (spillFile : Except Failure SpoolFile) :
    Stream → (taken : Stream) → Buffer → Except Failure Measured × Stream
  | [], taken, b => (.ok ⟨.ofBytes b.bytes, b.size⟩, taken.reverse)
  | .error e :: _, taken, _ => (.error e.failure, (.error e :: taken).reverse)
  | .chunk data :: rest, taken, b =>
    if b.size + data.length ≤ limit then
      bufferStream limit spillFile rest (.chunk data :: taken) (b.add data)
    else
      match b.spill spillFile data with
      | .error f => (.error f, (.chunk data :: taken).reverse)
      | .ok file => spillStream file rest (.chunk data :: taken) (b.add data)

/-! ## Resolving -/

/-- A declared length, when it says anything: zero is the default of an option that is not set. -/
def declaredLength (declared : Option Nat) : Option Nat := declared.filter (0 < ·)

/-- The content to send with its length, and the items taken from a stream to learn it. -/
def resolveLength (source : Source) (declared : Option Nat) (limit : Nat)
    (spillFile : Except Failure SpoolFile) : Except Failure Measured × Stream :=
  match declaredLength declared with
  | some length => (.ok ⟨source, length⟩, [])
  | none =>
    match source with
    | .seekable s =>
      match measure s with
      | .ok m => (.ok m, [])
      | .error e => (.error e.failure, [])
    | .stream items => bufferStream limit spillFile items [] {}

/-- A positive declared length is trusted and leaves the content untouched. -/
theorem resolveLength_declared (source : Source) {length : Nat} (h : 0 < length) (limit : Nat)
    (spillFile : Except Failure SpoolFile) :
    resolveLength source (some length) limit spillFile = (.ok ⟨source, length⟩, []) := by
  have h' : declaredLength (some length) = some length := Option.filter_some_pos (by simpa using h)
  simp [resolveLength, h']

end ContentCache
