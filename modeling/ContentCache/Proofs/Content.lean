import ContentCache.Content.Source
import ContentCache.Http.Client

/-!
# Content on its way

What is kept of a content when it is drawn for a request or read from a reply: all of its bytes, unless there
is an error in it.

* `Stream.Chunkwise`: what holds of every chunk of a stream up to its first error.
* `Http.Spans`: the chunks of a stream that are drawn for a body of an announced length.
* `Http.Reply.delivered`: the bytes that a reply delivers, as its framing has it.

Main statements: `Http.drawItems_complete` and `Http.drawItems_all` (a complete body is the bytes that
were drawn, and all of them when no more are left), `Http.Spans.length_eq_iff` (when nothing more is
drawn than the body) and `Http.bytes_items` (a body that can be read to its end is what the reply delivers).
-/

namespace ContentCache

namespace Stream

/-- A stream without an error is all there is up to its first error. -/
theorem cut_of_firstError? {s : Stream} (h : s.firstError? = none) : s.cut = s := by
  fun_induction cut s with
  | case1 => rfl
  | case2 data rest ih => rw [ih h]
  | case3 e rest => cases h

theorem cut_begins (s : Stream) : s.cut <+: s := by
  fun_induction cut s with
  | case1 => exact List.prefix_rfl
  | case2 data rest ih => exact List.cons_prefix_cons.2 ⟨rfl, ih⟩
  | case3 e rest => exact ⟨rest, rfl⟩

theorem cut_append {s : Stream} (h : s.firstError? = none) (t : Stream) :
    (s ++ t).cut = s ++ t.cut := by
  fun_induction cut s with
  | case1 => rfl
  | case2 data rest ih => exact congrArg _ (ih h)
  | case3 e rest => cases h

theorem firstError?_append (s t : Stream) :
    (s ++ t).firstError? = s.firstError?.orElse fun _ => t.firstError? := by
  induction s with
  | nil => rfl
  | cons item rest ih =>
    cases item with
    | chunk data => exact ih
    | error e => rfl

theorem firstError?_map_chunk (ps : List Bytes) : firstError? (ps.map .chunk) = none := by
  induction ps with
  | nil => rfl
  | cons p ps ih => exact ih

/-- A front of a stream without an error has none. -/
theorem firstError?_of_begins {s t : Stream} (h : s <+: t) (ht : t.firstError? = none) :
    s.firstError? = none := by
  obtain ⟨rest, rfl⟩ := h
  rw [firstError?_append] at ht
  cases hs : s.firstError? with
  | none => rfl
  | some e => rw [hs] at ht; cases ht

theorem bytes_cons_chunk (data : Bytes) (rest : Stream) :
    bytes (.chunk data :: rest) = data ++ bytes rest := by
  simp [bytes, Item.bytes]

/-- Every chunk of a stream, up to its first error, fits behind the bytes in front of it: those before the
stream and those of its own chunks. -/
def Chunkwise (fits : Bytes → Bytes → Prop) (before : Bytes) (s : Stream) : Prop :=
  ∀ front data, front ++ [.chunk data] <+: s → firstError? front = none →
    fits (before ++ bytes front) data

section

variable {fits : Bytes → Bytes → Prop}

theorem chunkwise_nil (fits : Bytes → Bytes → Prop) (before : Bytes) : Chunkwise fits before [] := by
  intro front data hbegins
  simp at hbegins

theorem chunkwise_error (fits : Bytes → Bytes → Prop) (before : Bytes) (e : IoError) (rest : Stream) :
    Chunkwise fits before (.error e :: rest) := by
  intro front data hbegins hsound
  cases front with
  | nil => simp [List.cons_prefix_cons] at hbegins
  | cons item front =>
    obtain ⟨rfl, -⟩ := List.cons_prefix_cons.1 hbegins
    cases hsound

theorem Chunkwise.cons {before data : Bytes} {rest : Stream} (hdata : fits before data)
    (hrest : Chunkwise fits (before ++ data) rest) : Chunkwise fits before (.chunk data :: rest) := by
  intro front data' hbegins hsound
  cases front with
  | nil =>
    obtain ⟨hitem, -⟩ := List.cons_prefix_cons.1 hbegins
    obtain rfl := Item.chunk.inj hitem
    simpa [bytes] using hdata
  | cons item front =>
    obtain ⟨rfl, hrest'⟩ := List.cons_prefix_cons.1 hbegins
    rw [bytes_cons_chunk, ← List.append_assoc]
    exact hrest front data' hrest' hsound

end

end Stream

theorem firstError?_bytesStream (data : Bytes) : (bytesStream data).firstError? = none :=
  Stream.firstError?_map_chunk _

namespace Http

/-! ## Drawing -/

/-- No error was drawn for a complete body. -/
theorem drawItems_complete {n : Nat} {items : Stream} {body : Bytes}
    (h : (drawItems n items).2 = some body) : (drawItems n items).1.firstError? = none := by
  fun_induction drawItems n items generalizing body with
  | case1 => rfl
  | case2 => rfl
  | case3 => cases h
  | case4 => rfl
  | case5 n data rest hle taken tail he ih =>
    rw [he] at ih
    obtain ⟨tail, ht, rfl⟩ := Option.map_eq_some_iff.1 h
    exact ih ht

/-- A stream that does not break off before there are enough bytes is drawn as far as it has to be. -/
theorem drawItems_sound {n : Nat} {s : Stream} (hn : n ≤ s.cut.bytes.length) :
    (drawItems n s).2 = some (s.bytes.take n) := by
  fun_induction drawItems n s with
  | case1 => rfl
  | case2 | case3 => simp [Stream.cut, Stream.bytes, Item.bytes] at hn
  | case4 n data rest hle => rw [Stream.bytes_cons_chunk, List.take_append_of_le_length hle]
  | case5 n data rest hle taken body hd ih =>
    rw [Stream.cut, Stream.bytes_cons_chunk, List.length_append] at hn
    have hrest := ih (by omega)
    rw [hd] at hrest
    obtain rfl : body = some (Stream.bytes rest |>.take (n + 1 - data.length)) := hrest
    have hdata : data.take (n + 1) = data := List.take_of_length_le (by omega)
    rw [Stream.bytes_cons_chunk, List.take_append, hdata]
    rfl

/-- A stream that breaks off before there are enough bytes is drawn up to its error. -/
theorem drawItems_broken {n : Nat} {items : Stream} {e : IoError} (he : items.firstError? = some e)
    (hn : items.cut.bytes.length < n) : drawItems n items = (items.cut, none) := by
  fun_induction drawItems n items with
  | case1 => omega
  | case2 => cases he
  | case3 => rfl
  | case4 n data rest hle =>
    rw [Stream.cut, Stream.bytes_cons_chunk, List.length_append] at hn
    omega
  | case5 n data rest hle taken body hd ih =>
    rw [Stream.cut, Stream.bytes_cons_chunk, List.length_append] at hn
    have hrest := ih he (by omega)
    rw [hd] at hrest
    obtain ⟨rfl, rfl⟩ := Prod.mk.inj hrest
    rfl

/-- A complete body of a stream that has no more bytes than announced is all of the stream. -/
theorem drawItems_all {n : Nat} {items : Stream} {body : Bytes}
    (h : (drawItems n items).2 = some body) (hl : items.bytes.length ≤ n) :
    body = items.bytes ∧ (drawItems n items).1.bytes = body ∧ body.length = n := by
  obtain ⟨rest, hrest⟩ := draw_taken_prefix n items
  obtain ⟨hbody, hn⟩ := draw_body_eq h
  have hbytes : items.bytes = (drawItems n items).1.bytes ++ Stream.bytes rest := by
    rw [← Stream.bytes_append, hrest]
  have hlen := congrArg List.length hbytes
  rw [List.length_append] at hlen
  have hnil : Stream.bytes rest = [] := List.eq_nil_of_length_eq_zero (by omega)
  have htaken : (drawItems n items).1.bytes = body := by
    rw [hbody, List.take_of_length_le (by omega)]
  refine ⟨?_, htaken, draw_body_length h⟩
  rw [hbytes, hnil, List.append_nil, htaken]

/-- What is drawn for a complete body is drawn of every stream that begins with it. -/
theorem drawItems_of_begins {n : Nat} {items other : Stream} {body : Bytes}
    (h : (drawItems n items).2 = some body) (hbegins : (drawItems n items).1 <+: other) :
    drawItems n other = drawItems n items := by
  fun_induction drawItems n items generalizing body other with
  | case1 => cases other <;> rfl
  | case2 => cases h
  | case3 => cases h
  | case4 n data rest hle =>
    obtain ⟨tail, rfl⟩ := hbegins
    simp [drawItems, hle]
  | case5 n data rest hle taken tail he ih =>
    rw [he] at ih
    obtain ⟨tail, ht, rfl⟩ := Option.map_eq_some_iff.1 h
    obtain ⟨more, rfl⟩ := hbegins
    have hrest := ih ht (List.prefix_append taken more)
    simp [drawItems, hle, hrest]

/-- The shortest front of a stream that holds so many bytes; there is no error in it. -/
structure Spans (n : Nat) (items front : Stream) : Prop where
  begins : front <+: items
  unbroken : front.firstError? = none
  enough : n ≤ front.bytes.length
  shortest : ∀ shorter, shorter <+: front → shorter ≠ front → (Stream.bytes shorter).length < n

/-- The first chunk is enough when it has so many bytes. -/
theorem Spans.first {n : Nat} {data : Bytes} (hn : 0 < n) (hle : n ≤ data.length) (rest : Stream) :
    Spans n (.chunk data :: rest) [.chunk data] := by
  refine ⟨⟨rest, rfl⟩, rfl, by simpa [Stream.bytes, Item.bytes] using hle, ?_⟩
  intro shorter hs hne
  rcases List.prefix_cons_iff.1 hs with rfl | ⟨tail, rfl, htail⟩
  · simpa [Stream.bytes] using hn
  · obtain rfl := List.prefix_nil.1 htail
    exact absurd rfl hne

/-- A first chunk with fewer bytes leaves the others to the rest. -/
theorem Spans.cons {n : Nat} {data : Bytes} {rest front : Stream} (hlt : data.length < n)
    (h : Spans (n - data.length) rest front) :
    Spans n (.chunk data :: rest) (.chunk data :: front) := by
  refine ⟨List.cons_prefix_cons.2 ⟨rfl, h.begins⟩, h.unbroken, ?_, ?_⟩
  · have := h.enough
    rw [Stream.bytes_cons_chunk, List.length_append]
    omega
  · intro shorter hs hne
    rcases List.prefix_cons_iff.1 hs with rfl | ⟨tail, rfl, htail⟩
    · simp [Stream.bytes]
      omega
    · have := h.shortest tail htail fun heq => hne (by rw [heq])
      rw [Stream.bytes_cons_chunk, List.length_append]
      omega

/-- What is drawn for a complete body is the shortest front that holds it. -/
theorem drawItems_spans {n : Nat} {items : Stream} {body : Bytes}
    (h : (drawItems n items).2 = some body) : Spans n items (drawItems n items).1 := by
  fun_induction drawItems n items generalizing body with
  | case1 =>
    exact ⟨List.nil_prefix, rfl, Nat.zero_le _, fun shorter hs hne =>
      absurd (List.prefix_nil.1 hs) hne⟩
  | case2 => cases h
  | case3 => cases h
  | case4 n data rest hle => exact Spans.first (Nat.succ_pos n) hle rest
  | case5 n data rest hle taken tail he ih =>
    rw [he] at ih
    obtain ⟨tail, ht, rfl⟩ := Option.map_eq_some_iff.1 h
    exact Spans.cons (by omega) (ih ht)

namespace Spans

variable {n : Nat} {items front : Stream}

/-- The bytes before the cut are the first ones of the stream. -/
theorem take_bytes (h : Spans n items front) : items.bytes.take n = front.bytes.take n := by
  obtain ⟨rest, rfl⟩ := h.begins
  rw [Stream.bytes_append, List.take_append_of_le_length h.enough]

/-- **Nothing lies behind the cut exactly when it falls on the end of a chunk.** -/
theorem length_eq_iff (h : Spans n items front) :
    front.bytes.length = n ↔
      ∃ whole, whole <+: items ∧ Stream.firstError? whole = none ∧
        (Stream.bytes whole).length = n := by
  constructor
  · intro hn
    exact ⟨front, h.begins, h.unbroken, hn⟩
  · rintro ⟨whole, hwhole, -, hn⟩
    rcases List.prefix_or_prefix_of_prefix h.begins hwhole with hle | hle
    · -- The stream that ends at the cut is no shorter, so it bounds the front from above.
      obtain ⟨rest, rfl⟩ := hle
      rw [Stream.bytes_append, List.length_append] at hn
      have := h.enough
      omega
    · by_cases heq : whole = front
      · rw [← heq, hn]
      · have hlt := h.shortest whole hle heq
        omega

end Spans

/-! ## Replies -/

/-- The bytes that a reply delivers: those of its body, no more than it announces. -/
def Reply.delivered (r : Reply) : Bytes :=
  match r.announced with
  | some n => r.body.take n
  | none => r.body

/-- A reader of a reply that announces a length gets that many bytes, or an error because the body
has fewer. -/
theorem items_of_announced {r : Reply} {n : Nat} (h : r.announced = some n) :
    r.items.bytes = r.body.take n ∧ (r.items.firstError? = none ∨ r.body.length < n) := by
  unfold Reply.announced at h
  unfold Reply.items
  cases hb : isBodiless r.status with
  | true =>
    simp only [hb, if_true, Option.some.injEq] at h ⊢
    exact ⟨by simp [← h, Stream.bytes], .inl rfl⟩
  | false =>
    simp only [hb, Bool.false_eq_true, if_false] at h ⊢
    cases hf : r.framing with
    | chunked | untilClose => simp [hf] at h
    | length announced =>
      simp only [hf, Option.some.injEq] at h ⊢
      rw [h]
      rw [Stream.bytes_append, bytes_map_chunk, takeBytes_flatten, Stream.firstError?_append,
        Stream.firstError?_map_chunk]
      split
      · next hlt => exact ⟨by simp [Reply.body, Stream.bytes, Item.bytes], .inr hlt⟩
      · exact ⟨by simp [Reply.body, Stream.bytes], .inl rfl⟩

/-- A body that can be read to its end has the announced length. -/
theorem length_of_announced {r : Reply} {n : Nat} (h : r.announced = some n)
    (he : r.items.firstError? = none) : r.items.bytes.length = n := by
  unfold Reply.announced at h
  unfold Reply.items at he ⊢
  cases hb : isBodiless r.status with
  | true =>
    simp only [hb, if_true, Option.some.injEq] at h ⊢
    exact h
  | false =>
    simp only [hb, Bool.false_eq_true, if_false] at h he ⊢
    cases hf : r.framing with
    | chunked | untilClose => simp [hf] at h
    | length announced =>
      simp only [hf, Option.some.injEq] at h he ⊢
      rw [h] at he ⊢
      rw [Stream.firstError?_append, Stream.firstError?_map_chunk] at he
      have hle : n ≤ r.body.length := by
        refine Nat.le_of_not_lt fun hlt => ?_
        rw [if_pos hlt] at he
        cases he
      rw [if_neg (Nat.not_lt.2 hle), List.append_nil, bytes_map_chunk, takeBytes_flatten,
        List.length_take]
      exact Nat.min_eq_left hle

/-- **A body that can be read to its end is what the reply delivers**, whatever its framing. -/
theorem bytes_items (r : Reply) : r.items.bytes = r.delivered := by
  unfold Reply.delivered
  cases ha : r.announced with
  | some n => exact (items_of_announced ha).1
  | none =>
    unfold Reply.announced at ha
    unfold Reply.items Reply.body
    cases hb : isBodiless r.status with
    | true => simp [hb] at ha
    | false =>
      simp only [hb, Bool.false_eq_true, if_false] at ha ⊢
      cases hf : r.framing with
      | length => simp [hf] at ha
      | untilClose => exact bytes_map_chunk _
      | chunked cut =>
        simp only
        rw [Stream.bytes_append, bytes_map_chunk]
        cases cut <;> simp [Stream.bytes, Item.bytes]

/-- An error of a reply's body is the last thing that a reader gets. -/
theorem cut_items (r : Reply) : r.items.cut = r.items := by
  have cut_pieces (ps : List Bytes) (broken : Prop) [Decidable broken] :
      Stream.cut (ps.map .chunk ++ if broken then [.error decodingError] else []) =
        ps.map .chunk ++ if broken then [.error decodingError] else [] := by
    rw [Stream.cut_append (Stream.firstError?_map_chunk ps)]
    split <;> rfl
  unfold Reply.items
  split
  · rfl
  · split
    · exact cut_pieces _ _
    · exact cut_pieces _ _
    · exact Stream.cut_of_firstError? (Stream.firstError?_map_chunk _)

/-- A complete body of as many bytes as a reply announces is all that the reply delivers, and reading
the reply ends without an error. -/
theorem drawItems_announced {r : Reply} {n : Nat} {body : Bytes} (ha : r.announced = some n)
    (h : (drawItems n r.items).2 = some body) :
    r.items.firstError? = none ∧ body = r.delivered ∧ (drawItems n r.items).1.bytes = body := by
  obtain ⟨hbytes, herror⟩ := items_of_announced ha
  obtain ⟨rest, hrest⟩ := draw_taken_prefix n r.items
  obtain ⟨-, hn⟩ := draw_body_eq h
  have hle : n ≤ r.body.length := by
    have hlen := congrArg (fun s => (Stream.bytes s).length) hrest
    simp only [Stream.bytes_append, List.length_append, hbytes, List.length_take] at hlen
    omega
  obtain ⟨hall, htaken, -⟩ := drawItems_all h (by rw [hbytes, List.length_take]; omega)
  refine ⟨herror.resolve_right (by omega), ?_, htaken⟩
  rw [hall, bytes_items]

end Http

end ContentCache
