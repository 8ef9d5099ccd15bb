import ContentCache.Content.Reader
import ContentCache.Proofs.Content.Resolving

/-!
# What the stream of a reader yields

Asked item by item, the stream of a reader yields what the reader delivers: the bytes up to the first
empty read, the end or the first error, in chunks that are neither empty nor too long, then the error, and
then nothing, however often it is asked.

* `Reader.delivered`, `Reader.failure?`: what a reader delivers, and the error that ends it.
* `Reader.Chunks`: what is delivered, as a stream.
* `ReaderStream.left`: the items that are still to come.

Main statement: `answers_chunked`, with `poll_left` (an item is taken from the front of what is left) and
`source_chunks` (the content of a reader is what it delivers).
-/

namespace ContentCache

/-! ## Pieces -/

theorem pieces_of_ne_nil {data : Bytes} (h : data ≠ []) :
    pieces data = data.take chunkSize :: pieces (data.drop chunkSize) := by
  rw [pieces, if_neg h]

/-- Data that fits in a chunk is one piece. -/
theorem pieces_of_fits {data : Bytes} (h : data ≠ []) (hl : data.length ≤ chunkSize) :
    pieces data = [data] := by
  rw [pieces_of_ne_nil h, List.take_of_length_le hl, List.drop_of_length_le hl, pieces, if_pos rfl]

/-- Reading goes on where it stopped. -/
theorem Seekable.readable_advanced {s : Seekable} {k : Nat} (hk : k ≤ s.readable.length) :
    (s.advanced k).readable = s.readable.drop k ∧ (s.advanced k).failure? = s.failure? := by
  obtain hbroken | ⟨⟨offset, e⟩, hbroken⟩ := Option.eq_none_or_eq_some s.broken
  · simp [readable, failure?, fault?, hbroken]
  · by_cases hwithin : s.position ≤ offset ∧ offset ≤ s.position + s.remaining.length
    · have hfault : s.fault? = some (offset - s.position, e) := by simp [fault?, hbroken, hwithin]
      obtain ⟨hreadable, hfailure⟩ := readable_of_fault hfault
      rw [hreadable, List.length_take] at hk
      have hfault' : (s.advanced k).fault? = some (offset - s.position - k, e) := by
        simp only [fault?, advanced_broken, hbroken, advanced_position, advanced_remaining,
          List.length_drop]
        rw [if_pos (by omega), Nat.sub_add_eq]
      obtain ⟨hreadable', hfailure'⟩ := readable_of_fault hfault'
      rw [hreadable', hfailure', hreadable, hfailure, advanced_remaining, List.drop_take]
      exact ⟨rfl, rfl⟩
    · have hsound : s.fault? = none := by simp [fault?, hbroken, hwithin]
      obtain ⟨hreadable, hfailure⟩ := readable_of_sound hsound
      rw [hreadable] at hk
      have hsound' : (s.advanced k).fault? = none := by
        simp only [fault?, advanced_broken, hbroken, advanced_position, advanced_remaining,
          List.length_drop]
        rw [if_neg (by omega)]
      obtain ⟨hreadable', hfailure'⟩ := readable_of_sound hsound'
      rw [hreadable', hfailure', hreadable, hfailure, advanced_remaining]
      exact ⟨rfl, rfl⟩

/-! ## What is delivered -/

namespace Reader

/-- The items of a script before the first one without bytes, an empty read or an error. -/
def fullReads (script : List Item) : List Item := script.takeWhile fun item => !item.bytes.isEmpty

theorem fullReads_chunk {data : Bytes} (h : data ≠ []) (rest : List Item) :
    fullReads (.chunk data :: rest) = .chunk data :: fullReads rest := by
  simp [fullReads, Item.bytes, h]

/-- What a reader delivers up to the first empty read, its end or the first error. -/
def delivered : Reader → Bytes
  | scripted script => Stream.bytes (fullReads script)
  | positioned s => s.readable

/-- The error behind what a reader delivers. -/
def failure? : Reader → Option IoError
  | scripted script =>
    match script.drop (fullReads script).length with
    | .error e :: _ => some e
    | _ => none
  | positioned s => s.failure?

/-- A stream of what a reader delivers, in chunks of at least one and at most `chunkSize` bytes, with the
error behind them. -/
def Chunks (r : Reader) (items : Stream) : Prop :=
  ∃ chunks : List Bytes, items = chunks.map .chunk ++ (r.failure?.map .error).toList ∧
    chunks.flatten = r.delivered ∧ ∀ c ∈ chunks, 1 ≤ c.length ∧ c.length ≤ chunkSize

theorem readerStream_chunks (script : List Item) : (scripted script).Chunks (readerStream script) := by
  induction script with
  | nil => exact ⟨[], rfl, rfl, by simp⟩
  | cons item rest ih =>
    cases item with
    | error e => exact ⟨[], rfl, rfl, by simp⟩
    | chunk data =>
      by_cases hd : data = []
      · subst hd
        exact ⟨[], rfl, rfl, by simp⟩
      · obtain ⟨chunks, hitems, hbytes, hsize⟩ := ih
        have hempty : data.isEmpty = false := by simpa using hd
        have hfailure : (scripted (.chunk data :: rest)).failure? = (scripted rest).failure? := by
          simp [failure?, fullReads_chunk hd]
        refine ⟨pieces data ++ chunks, ?_, ?_, List.forall_mem_append.2 ⟨pieces_length data, hsize⟩⟩
        · rw [readerStream, hempty, hfailure, hitems]
          simp
        · rw [List.flatten_append, pieces_flatten, hbytes, delivered, delivered, fullReads_chunk hd,
            Stream.bytes_cons_chunk]

/-- **The content of a reader is what it delivers.** -/
theorem source_chunks (r : Reader) : r.Chunks r.source.toStream := by
  cases r with
  | scripted script => exact readerStream_chunks script
  | positioned s =>
    exact ⟨pieces s.readable, rfl, pieces_flatten _, pieces_length _⟩

end Reader

/-! ## Item by item -/

namespace ReaderStream

/-- The items that are still to come. -/
def left (t : ReaderStream) : Stream :=
  match t.reader with
  | none => []
  | some r => r.source.toStream

@[simp] theorem left_scripted (script : List Item) :
    left ⟨some (.scripted script)⟩ = readerStream script := rfl

@[simp] theorem left_positioned (s : Seekable) :
    left ⟨some (.positioned s)⟩ = bytesStream s.readable ++ (s.failure?.map Item.error).toList := rfl

/-- What is left of a stream after an item has been asked for. -/
def Advances (t : ReaderStream) : Prop := t.poll.1 = t.left.head? ∧ t.poll.2.left = t.left.tail

theorem scripted_advances (script : List Item) : Advances ⟨some (.scripted script)⟩ := by
  cases script with
  | nil => exact ⟨rfl, rfl⟩
  | cons item rest =>
    cases item with
    | error e => exact ⟨rfl, rfl⟩
    | chunk data =>
      by_cases hd : data = []
      · subst hd
        exact ⟨rfl, rfl⟩
      · have hempty : data.isEmpty = false := by simpa using hd
        by_cases hl : data.length ≤ chunkSize
        · have hpoll : poll ⟨some (.scripted (.chunk data :: rest))⟩ =
              (some (.chunk data), ⟨some (.scripted rest)⟩) := by
            simp [poll, Reader.read, hl, hempty]
          rw [Advances, hpoll, left_scripted, left_scripted, readerStream, hempty, pieces_of_fits hd hl]
          exact ⟨rfl, rfl⟩
        · -- The item is longer than a chunk, and the rest of it is read next.
          have htake : (data.take chunkSize).isEmpty = false := by simpa [chunkSize] using hd
          have hdrop : (data.drop chunkSize).isEmpty = false := by simpa using Nat.lt_of_not_le hl
          have hpoll : poll ⟨some (.scripted (.chunk data :: rest))⟩ =
              (some (.chunk (data.take chunkSize)),
                ⟨some (.scripted (.chunk (data.drop chunkSize) :: rest))⟩) := by
            simp [poll, Reader.read, hl, htake]
          rw [Advances, hpoll, left_scripted, left_scripted, readerStream, readerStream, hempty, hdrop,
            pieces_of_ne_nil hd]
          exact ⟨rfl, rfl⟩

theorem positioned_advances (s : Seekable) : Advances ⟨some (.positioned s)⟩ := by
  by_cases hr : s.readable = []
  · cases hf : s.failure? with
    | none =>
      have hpoll : poll ⟨some (.positioned s)⟩ = (none, ⟨none⟩) := by simp [poll, Reader.read, hr, hf]
      rw [Advances, hpoll, left_positioned, hr, hf, bytesStream, pieces, if_pos rfl]
      exact ⟨rfl, rfl⟩
    | some e =>
      have hpoll : poll ⟨some (.positioned s)⟩ = (some (.error e), ⟨none⟩) := by
        simp [poll, Reader.read, hr, hf]
      rw [Advances, hpoll, left_positioned, hr, hf, bytesStream, pieces, if_pos rfl]
      exact ⟨rfl, rfl⟩
  · have hne : (s.readable.take chunkSize).isEmpty = false := by simpa [chunkSize] using hr
    have hpoll : poll ⟨some (.positioned s)⟩ = (some (.chunk (s.readable.take chunkSize)),
        ⟨some (.positioned (s.advanced (s.readable.take chunkSize).length))⟩) := by
      cases hf : s.failure? <;> simp [poll, Reader.read, hne, hf]
    obtain ⟨hreadable, hfailure⟩ :=
      Seekable.readable_advanced (List.length_take_le' chunkSize s.readable)
    -- The reader stands behind the chunk, and so at the end after one that is shorter than was asked for.
    have hrest : s.readable.drop (s.readable.take chunkSize).length = s.readable.drop chunkSize := by
      rw [List.length_take]
      rcases Nat.le_total chunkSize s.readable.length with hle | hle
      · rw [Nat.min_eq_left hle]
      · rw [Nat.min_eq_right hle, List.drop_length, List.drop_of_length_le hle]
    rw [Advances, hpoll, left_positioned, left_positioned, hreadable, hfailure, hrest, bytesStream,
      bytesStream, pieces_of_ne_nil hr]
    exact ⟨rfl, rfl⟩

/-- **An item is taken from the front of what is left.** -/
theorem poll_left (t : ReaderStream) : t.poll.1 = t.left.head? ∧ t.poll.2.left = t.left.tail := by
  obtain ⟨reader⟩ := t
  cases reader with
  | none => exact ⟨rfl, rfl⟩
  | some r =>
    cases r with
    | scripted script => exact scripted_advances script
    | positioned s => exact positioned_advances s

/-- The answers are the items that are left, in their order, and nothing behind them. -/
theorem answers_eq (k : Nat) (t : ReaderStream) :
    t.answers k = (List.range k).map fun i => t.left[i]? := by
  induction k generalizing t with
  | zero => rfl
  | succ k ih =>
    obtain ⟨hitem, hleft⟩ := t.poll_left
    rw [answers, ih, hitem, hleft, List.range_succ_eq_map, List.map_cons, List.map_map,
      List.head?_eq_getElem?]
    simp only [Function.comp_def, List.getElem?_tail, Nat.succ_eq_add_one]

/-- **The stream of a reader yields what the reader delivers**, in chunks, then the error that ends it, if
there is one, and then nothing, however often it is asked. -/
theorem answers_chunked (r : Reader) :
    r.Chunks r.source.toStream ∧
      ∀ k, (start r).answers k = (List.range k).map fun i => r.source.toStream[i]? :=
  ⟨r.source_chunks, fun k => answers_eq k (start r)⟩

/-- Nothing is read behind an error. -/
example : (start (.scripted [.chunk [1, 2], .error (.saying "reset"), .chunk [3]])).answers 4 =
    [some (.chunk [1, 2]), some (.error (.saying "reset")), none, none] := rfl

end ReaderStream

end ContentCache
