import ContentCache.Bytes
import ContentCache.Failure

/-!
# Streams of content

Content that passes by is a list of items: chunks of bytes, possibly empty, and errors of reading.
A consumer takes items from the front. `Stream.bytes` is what a stream holds, and `Stream.whole`
is what a reader gets who stops at the first error.

Main definitions: `Stream.cut`, `pieces`, `readerStream`. Main statements: `pieces_flatten`
(cutting into pieces keeps every byte), `pieces_length` (a piece has 1 to `chunkSize` bytes),
`cut_cut`.
-/

namespace ContentCache

inductive Item where
  | chunk (data : Bytes)
  | error (e : IoError)
  deriving DecidableEq, Repr

/-- Content that passes by, item after item. -/
abbrev Stream := List Item

def Item.bytes : Item → Bytes
  | chunk data => data
  | error _ => []

namespace Stream

def bytes (s : Stream) : Bytes := s.flatMap Item.bytes

theorem bytes_append (s t : Stream) : bytes (s ++ t) = bytes s ++ bytes t := by
  simp [bytes]

def firstError? : Stream → Option IoError
  | [] => none
  | .chunk _ :: rest => firstError? rest
  | .error e :: _ => some e

/-- A stream up to its first error, that error included. -/
def cut : Stream → Stream
  | [] => []
  | .chunk data :: rest => .chunk data :: cut rest
  | .error e :: _ => [.error e]

theorem cut_cut (s : Stream) : cut (cut s) = cut s := by
  fun_induction cut s with
  | case1 => rfl
  | case2 data rest ih => simp [cut, ih]
  | case3 e rest => rfl

theorem firstError?_cut (s : Stream) : firstError? (cut s) = firstError? s := by
  fun_induction cut s with
  | case1 => rfl
  | case2 data rest ih => simpa [firstError?] using ih
  | case3 e rest => rfl

/-- What a reader gets who stops at the first error: the bytes before it, and the error. -/
def whole (s : Stream) : Bytes × Option IoError := (bytes (cut s), firstError? s)

end Stream

/-! ## Readers -/

/-- The most bytes that are read at once. -/
def chunkSize : Nat := 65536

/-- Content in pieces of `chunkSize` bytes, the last one shorter. -/
def pieces (data : Bytes) : List Bytes :=
  if data = [] then []
  else data.take chunkSize :: pieces (data.drop chunkSize)
termination_by data.length
decreasing_by
  rename_i h
  have : 0 < data.length := List.length_pos_iff.2 h
  simp only [List.length_drop, chunkSize]
  omega

/-- Cutting into pieces keeps every byte in order. -/
theorem pieces_flatten (data : Bytes) : (pieces data).flatten = data := by
  fun_induction pieces data with
  | case1 => rfl
  | case2 data h ih => rw [List.flatten_cons, ih, List.take_append_drop]

/-- A piece has at least one and at most `chunkSize` bytes. -/
theorem pieces_length (data : Bytes) :
    ∀ p ∈ pieces data, 1 ≤ p.length ∧ p.length ≤ chunkSize := by
  fun_induction pieces data with
  | case1 => simp
  | case2 data h ih =>
    intro p hp
    rcases List.mem_cons.1 hp with rfl | hp
    · have : 0 < data.length := List.length_pos_iff.2 h
      simp only [List.length_take, chunkSize]
      omega
    · exact ih p hp

/-- The stream of a reader that gives one item at a time: data longer than a chunk is given in
pieces, and the stream ends at the first empty read, after the first error, or with the script. -/
def readerStream : List Item → Stream
  | [] => []
  | .error e :: _ => [.error e]
  | .chunk data :: rest =>
    if data.isEmpty then [] else (pieces data).map .chunk ++ readerStream rest

def bytesStream (data : Bytes) : Stream := (pieces data).map .chunk

theorem bytes_map_chunk (ps : List Bytes) : Stream.bytes (ps.map .chunk) = ps.flatten := by
  induction ps with
  | nil => rfl
  | cons p ps ih => simp [Stream.bytes, Item.bytes, List.flatMap_cons] at ih ⊢; exact ih

theorem bytes_bytesStream (data : Bytes) : Stream.bytes (bytesStream data) = data := by
  rw [bytesStream, bytes_map_chunk, pieces_flatten]

end ContentCache
