import ContentCache.Content.Length
import ContentCache.Proofs.Content

/-!
# Buffering

A stream that is buffered is kept chunk by chunk, in memory as long as there is room and then in a spill file
that takes over what was in memory. So there are few ways in which it can end: all of it is kept, reading it
fails, a chunk cannot be kept, or the spill file cannot be finished.

* `Unkept`: why a chunk cannot be kept behind what has been read.
* `Keeps`: the chunks of a stream can be kept.
* `Buffering`: what becomes of a stream, with the items that are taken of it.

Main statements: `bufferStream_buffering` (a stream that is buffered ends in one of these ways) and
`Buffering.unique` (there is one way for each stream).
-/

namespace ContentCache

@[simp]
theorem Buffer.bytes_add (b : Buffer) (data : Bytes) : (b.add data).bytes = b.bytes ++ data := by
  simp [Buffer.bytes, Buffer.add]

@[simp]
theorem Buffer.size_add (b : Buffer) (data : Bytes) : (b.add data).size = b.size + data.length := rfl

variable {limit : Nat} {spillFile : Except Failure SpoolFile}

/-! ## Keeping a chunk -/

/-- Why a chunk cannot be kept behind the bytes `before`, with the failure. There is a reason only when there
is no room for it in memory. -/
inductive Unkept (limit : Nat) (spillFile : Except Failure SpoolFile) (before data : Bytes) :
    Failure → Prop where
  /-- No spill file can be made. -/
  | unmade {f : Failure} (excess : limit < before.length + data.length)
      (unmade : spillFile = .error f) : Unkept limit spillFile before data f
  /-- What was in memory cannot be written to the new file. -/
  | unmoved {file : SpoolFile} {n : Nat} {e : IoError} (excess : limit < before.length + data.length)
      (made : spillFile = .ok file) (memory : before.length ≤ limit)
      (refused : file.write 0 before = some (n, e)) : Unkept limit spillFile before data e.failure
  /-- The chunk cannot be written behind it. -/
  | unwritten {file : SpoolFile} {n : Nat} {e : IoError}
      (excess : limit < before.length + data.length) (made : spillFile = .ok file)
      (moved : before.length ≤ limit → file.write 0 before = none)
      (refused : file.write before.length data = some (n, e)) :
      Unkept limit spillFile before data e.failure

theorem Unkept.excess {before data : Bytes} {f : Failure} (h : Unkept limit spillFile before data f) :
    limit < before.length + data.length := by
  cases h <;> assumption

/-- There is one reason at most. -/
theorem Unkept.unique {before data : Bytes} {f g : Failure} (hf : Unkept limit spillFile before data f)
    (hg : Unkept limit spillFile before data g) : f = g := by
  cases hf with
  | unmade _ hf =>
    cases hg with
    | unmade _ hg => exact Except.error.inj (hf.symm.trans hg)
    | unmoved _ hg | unwritten _ hg => cases hf.symm.trans hg
  | unmoved _ hf hmemory hrefused =>
    cases hg with
    | unmade _ hg => cases hf.symm.trans hg
    | unmoved _ hg _ hrefused' =>
      obtain rfl := Except.ok.inj (hf.symm.trans hg)
      cases hrefused.symm.trans hrefused'
      rfl
    | unwritten _ hg hmoved =>
      obtain rfl := Except.ok.inj (hf.symm.trans hg)
      cases hrefused.symm.trans (hmoved hmemory)
  | unwritten _ hf hmoved hrefused =>
    cases hg with
    | unmade _ hg => cases hf.symm.trans hg
    | unmoved _ hg hmemory hrefused' =>
      obtain rfl := Except.ok.inj (hf.symm.trans hg)
      cases hrefused'.symm.trans (hmoved hmemory)
    | unwritten _ hg _ hrefused' =>
      obtain rfl := Except.ok.inj (hf.symm.trans hg)
      cases hrefused.symm.trans hrefused'
      rfl

/-- The chunks of a stream, up to its first error, can be kept behind the bytes `before`. -/
def Keeps (limit : Nat) (spillFile : Except Failure SpoolFile) (before : Bytes) (items : Stream) : Prop :=
  Stream.Chunkwise (fun held data => ∀ f, ¬ Unkept limit spillFile held data f) before items

/-- Where there is room in memory everything is kept. -/
theorem keeps_of_room {before : Bytes} {items : Stream}
    (h : before.length + items.cut.bytes.length ≤ limit) : Keeps limit spillFile before items := by
  intro front data hbegins hsound f hunkept
  obtain ⟨rest, rfl⟩ := hbegins
  have hexcess := hunkept.excess
  have hcut : Stream.cut (front ++ [.chunk data] ++ rest) = front ++ (.chunk data :: Stream.cut rest) := by
    rw [List.append_assoc, Stream.cut_append hsound]
    rfl
  rw [hcut, Stream.bytes_append, Stream.bytes_cons_chunk] at h
  simp only [List.length_append] at h hexcess
  omega

/-- A spill file that works keeps everything. -/
theorem keeps_of_sound (limit : Nat) (before : Bytes) (items : Stream) :
    Keeps limit (.ok .sound) before items := by
  intro front data _ _ f hunkept
  cases hunkept with
  | unmade _ h => cases h
  | unmoved _ h _ hrefused =>
    obtain rfl := Except.ok.inj h
    cases hrefused
  | unwritten _ h _ hrefused =>
    obtain rfl := Except.ok.inj h
    cases hrefused

/-! ## Keeping a stream -/

/-- What becomes of a stream that is buffered behind the bytes `before`, with the items that are taken of
it. -/
inductive Buffering (limit : Nat) (spillFile : Except Failure SpoolFile) (before : Bytes)
    (items : Stream) : Except Failure Measured × Stream → Prop where
  /-- Every byte is kept in memory. -/
  | memory {b : Bytes} (sound : items.firstError? = none) (whole : b = before ++ items.bytes)
      (room : b.length ≤ limit) :
      Buffering limit spillFile before items (.ok ⟨.ofBytes b, b.length⟩, items)
  /-- Every byte is kept in the spill file. -/
  | spilled {b : Bytes} {file : SpoolFile} (sound : items.firstError? = none)
      (whole : b = before ++ items.bytes) (excess : limit < b.length) (made : spillFile = .ok file)
      (kept : Keeps limit spillFile before items)
      (finished : (file.flushing.orElse fun _ => file.rewinding) = none) :
      Buffering limit spillFile before items
        (.ok ⟨.seekable { data := b, broken := file.broken }, b.length⟩, items)
  /-- Reading fails. -/
  | broken {e : IoError} (broken : items.firstError? = some e)
      (kept : Keeps limit spillFile before items) :
      Buffering limit spillFile before items (.error e.failure, items.cut)
  /-- A chunk cannot be kept. -/
  | unkept {front : Stream} {data : Bytes} {f : Failure} (begins : front ++ [.chunk data] <+: items)
      (sound : front.firstError? = none) (kept : Keeps limit spillFile before front)
      (unkept : Unkept limit spillFile (before ++ front.bytes) data f) :
      Buffering limit spillFile before items (.error f, front ++ [.chunk data])
  /-- The spill file cannot be flushed, or not gone back to its start. -/
  | unfinished {file : SpoolFile} {e : IoError} (sound : items.firstError? = none)
      (excess : limit < (before ++ items.bytes).length) (made : spillFile = .ok file)
      (kept : Keeps limit spillFile before items)
      (unfinished : (file.flushing.orElse fun _ => file.rewinding) = some e) :
      Buffering limit spillFile before items (.error e.failure, items)

/-- What all the bytes of a stream become that have been kept. -/
def gathered (limit : Nat) (spillFile : Except Failure SpoolFile) (b : Bytes) :
    Except Failure Measured :=
  if b.length ≤ limit then .ok ⟨.ofBytes b, b.length⟩
  else
    match spillFile with
    | .error f => .error f
    | .ok file =>
      match file.flushing.orElse fun _ => file.rewinding with
      | none => .ok ⟨.seekable { data := b, broken := file.broken }, b.length⟩
      | some e => .error e.failure

/-- A chunk that can be kept comes before the rest of the stream. -/
theorem Buffering.cons {before data : Bytes} {rest taken : Stream} {r : Except Failure Measured}
    (hdata : ∀ f, ¬ Unkept limit spillFile before data f)
    (h : Buffering limit spillFile (before ++ data) rest (r, taken)) :
    Buffering limit spillFile before (.chunk data :: rest) (r, .chunk data :: taken) := by
  have hbytes (s : Stream) : before ++ Stream.bytes (.chunk data :: s) = before ++ data ++ s.bytes := by
    rw [Stream.bytes_cons_chunk, List.append_assoc]
  cases h with
  | memory sound whole room => exact .memory sound (whole.trans (hbytes rest).symm) room
  | spilled sound whole excess made kept finished =>
    exact .spilled sound (whole.trans (hbytes rest).symm) excess made (Stream.Chunkwise.cons hdata kept)
      finished
  | broken hbroken kept => exact .broken hbroken (Stream.Chunkwise.cons hdata kept)
  | @unkept front data' _ begins sound kept hunkept =>
    have hbegins : (.chunk data :: front) ++ [.chunk data'] <+: .chunk data :: rest :=
      List.cons_prefix_cons.2 ⟨rfl, begins⟩
    have hsound : Stream.firstError? (.chunk data :: front) = none := sound
    rw [← hbytes] at hunkept
    have hcons := unkept hbegins hsound (Stream.Chunkwise.cons hdata kept) hunkept
    exact hcons
  | unfinished sound excess made kept hunfinished =>
    exact .unfinished sound (by rw [hbytes]; exact excess) made (Stream.Chunkwise.cons hdata kept) hunfinished

/-- The first chunk cannot be kept. -/
theorem Buffering.refused {before data : Bytes} {rest : Stream} {f : Failure}
    (h : Unkept limit spillFile before data f) :
    Buffering limit spillFile before (.chunk data :: rest) (.error f, [.chunk data]) := by
  have hbegins : [] ++ [.chunk data] <+: Item.chunk data :: rest := ⟨rest, rfl⟩
  have hbefore : before ++ Stream.bytes [] = before := List.append_nil before
  have hfirst := unkept hbegins rfl (Stream.chunkwise_nil _ before) (hbefore.symm ▸ h)
  exact hfirst

theorem SpoolFile.append_of_written {file : SpoolFile} {offset : Nat} {data : Bytes}
    (h : file.write offset data = none) : file.append offset data = .ok () := by
  rw [append, h]
  rfl

theorem SpoolFile.append_of_refused {file : SpoolFile} {offset : Nat} {data : Bytes}
    {refusal : Nat × IoError} (h : file.write offset data = some refusal) :
    file.append offset data = .error refusal.2.failure := by
  rw [append, h]
  rfl

/-- A spill file is finished when it can be flushed and gone back to its start. -/
theorem Buffer.finish_eq {b : Buffer} (hb : b.size = b.bytes.length) (file : SpoolFile) :
    b.finish file = match file.flushing.orElse fun _ => file.rewinding with
      | none => .ok ⟨.seekable { data := b.bytes, broken := file.broken }, b.bytes.length⟩
      | some e => .error e.failure := by
  unfold finish SpoolFile.flush SpoolFile.rewind
  rw [← hb]
  cases file.flushing with
  | some e => rfl
  | none => cases file.rewinding <;> rfl

/-- A spill file takes the rest of a stream. -/
theorem spillStream_buffering {file : SpoolFile} (made : spillFile = .ok file) (items taken : Stream)
    (b : Buffer) (hb : b.size = b.bytes.length) (hfull : limit < b.size) :
    ∃ r own, spillStream file items taken b = (r, taken.reverse ++ own) ∧
      Buffering limit spillFile b.bytes items (r, own) := by
  induction items generalizing taken b with
  | nil =>
    have hwhole : b.bytes = b.bytes ++ Stream.bytes [] := (List.append_nil _).symm
    have hexcess : limit < (b.bytes ++ Stream.bytes []).length := by rw [← hwhole, ← hb]; exact hfull
    refine ⟨b.finish file, [], by rw [spillStream, List.append_nil], ?_⟩
    rw [Buffer.finish_eq hb]
    cases hend : file.flushing.orElse fun _ => file.rewinding with
    | some e => exact .unfinished rfl hexcess made (Stream.chunkwise_nil _ _) hend
    | none => exact .spilled rfl hwhole (hwhole ▸ hexcess) made (Stream.chunkwise_nil _ _) hend
  | cons item rest ih =>
    cases item with
    | error e =>
      exact ⟨_, [.error e], by simp [spillStream], .broken rfl (Stream.chunkwise_error _ _ e rest)⟩
    | chunk data =>
      have hexcess : limit < b.bytes.length + data.length := by omega
      cases hwrite : file.write b.bytes.length data with
      | some refusal =>
        have happend := SpoolFile.append_of_refused hwrite
        rw [← hb] at happend
        refine ⟨.error refusal.2.failure, [.chunk data], by simp [spillStream, happend], ?_⟩
        exact .refused (.unwritten hexcess made (fun hle => by omega) hwrite)
      | none =>
        have happend := SpoolFile.append_of_written hwrite
        rw [← hb] at happend
        obtain ⟨r, own, hspill, buffering⟩ := ih (.chunk data :: taken) (b.add data) (by simp [hb])
          (by rw [Buffer.size_add]; omega)
        refine ⟨r, .chunk data :: own, by simp [spillStream, happend, hspill], ?_⟩
        rw [Buffer.bytes_add] at buffering
        refine buffering.cons fun f hunkept => ?_
        cases hunkept with
        | unmade _ h => cases made.symm.trans h
        | unmoved _ _ hmemory => omega
        | unwritten _ h _ hrefused =>
          obtain rfl := Except.ok.inj (made.symm.trans h)
          cases hwrite.symm.trans hrefused

/-- What is in memory moves to a spill file with the first chunk for which there is no room. -/
theorem Buffer.spill_cases (spillFile : Except Failure SpoolFile) {b : Buffer} {data : Bytes}
    (hb : b.size = b.bytes.length) (hroom : b.size ≤ limit) (hfull : limit < b.size + data.length) :
    (∃ f, b.spill spillFile data = .error f ∧ Unkept limit spillFile b.bytes data f) ∨
      ∃ file, b.spill spillFile data = .ok file ∧ spillFile = .ok file ∧
        ∀ f, ¬ Unkept limit spillFile b.bytes data f := by
  have hexcess : limit < b.bytes.length + data.length := hb ▸ hfull
  cases made : spillFile with
  | error f => exact .inl ⟨f, rfl, .unmade hexcess rfl⟩
  | ok file =>
    have hspill : b.spill (.ok file) data =
        (file.append 0 b.bytes >>= fun _ => file.append b.bytes.length data >>= fun _ => pure file) := by
      rw [← hb]
      rfl
    cases hmove : file.write 0 b.bytes with
    | some refusal =>
      rw [SpoolFile.append_of_refused hmove] at hspill
      exact .inl ⟨_, hspill, .unmoved hexcess rfl (hb ▸ hroom) hmove⟩
    | none =>
      rw [SpoolFile.append_of_written hmove] at hspill
      cases hwrite : file.write b.bytes.length data with
      | some refusal =>
        rw [SpoolFile.append_of_refused hwrite] at hspill
        exact .inl ⟨_, hspill, .unwritten hexcess rfl (fun _ => hmove) hwrite⟩
      | none =>
        rw [SpoolFile.append_of_written hwrite] at hspill
        refine .inr ⟨file, hspill, rfl, fun f hunkept => ?_⟩
        cases hunkept with
        | unmade _ h => cases h
        | unmoved _ h _ hrefused =>
          obtain rfl := Except.ok.inj h
          cases hmove.symm.trans hrefused
        | unwritten _ h _ hrefused =>
          obtain rfl := Except.ok.inj h
          cases hwrite.symm.trans hrefused

/-- Buffering goes on behind what is in memory. -/
theorem bufferStream_behind (limit : Nat) (spillFile : Except Failure SpoolFile) (items taken : Stream)
    (b : Buffer) (hb : b.size = b.bytes.length) (hroom : b.size ≤ limit) :
    ∃ r own, bufferStream limit spillFile items taken b = (r, taken.reverse ++ own) ∧
      Buffering limit spillFile b.bytes items (r, own) := by
  induction items generalizing taken b with
  | nil =>
    refine ⟨.ok ⟨.ofBytes b.bytes, b.bytes.length⟩, [], by simp [bufferStream, hb], ?_⟩
    exact .memory rfl (List.append_nil _).symm (hb ▸ hroom)
  | cons item rest ih =>
    cases item with
    | error e =>
      exact ⟨_, [.error e], by simp [bufferStream], .broken rfl (Stream.chunkwise_error _ _ e rest)⟩
    | chunk data =>
      have hadded : (b.add data).size = (b.add data).bytes.length := by simp [hb]
      by_cases hfits : b.size + data.length ≤ limit
      · obtain ⟨r, own, hrest, buffering⟩ := ih (.chunk data :: taken) (b.add data) hadded hfits
        refine ⟨r, .chunk data :: own, by simp [bufferStream, hfits, hrest], ?_⟩
        rw [Buffer.bytes_add] at buffering
        refine buffering.cons fun f hunkept => ?_
        have hexcess := hunkept.excess
        omega
      · obtain ⟨f, hspill, hunkept⟩ | ⟨file, hspill, made, hdata⟩ :=
          Buffer.spill_cases spillFile hb hroom (Nat.lt_of_not_le hfits)
        · exact ⟨.error f, [.chunk data], by simp [bufferStream, hfits, hspill], .refused hunkept⟩
        · have hfull : limit < (b.add data).size := Nat.lt_of_not_le hfits
          obtain ⟨r, own, hrest, buffering⟩ :=
            spillStream_buffering made rest (.chunk data :: taken) (b.add data) hadded hfull
          refine ⟨r, .chunk data :: own, by simp [bufferStream, hfits, hspill, hrest], ?_⟩
          rw [Buffer.bytes_add] at buffering
          exact buffering.cons hdata

/-- **A stream that is buffered ends in one of these ways.** -/
theorem bufferStream_buffering (limit : Nat) (spillFile : Except Failure SpoolFile) (items : Stream) :
    Buffering limit spillFile [] items (bufferStream limit spillFile items [] {}) := by
  obtain ⟨r, own, hbuffer, buffering⟩ :=
    bufferStream_behind limit spillFile items [] {} rfl (Nat.zero_le _)
  rw [hbuffer]
  exact buffering

namespace Buffering

variable {before : Bytes} {items taken : Stream} {r r' : Except Failure Measured}

/-- What buffering takes comes from the front of the stream. -/
theorem taken_begins (h : Buffering limit spillFile before items (r, taken)) : taken <+: items := by
  cases h with
  | memory | spilled | unfinished => exact List.prefix_rfl
  | broken => exact Stream.cut_begins items
  | unkept begins => exact begins

/-- The chunks of a stream can be kept, or there is a first one that cannot. -/
theorem kept_or_unkept (h : Buffering limit spillFile before items (r, taken)) :
    Keeps limit spillFile before items ∨ ∃ front data f, front ++ [.chunk data] <+: items ∧
      Stream.firstError? front = none ∧ Keeps limit spillFile before front ∧
      Unkept limit spillFile (before ++ Stream.bytes front) data f ∧ r = .error f ∧
      taken = front ++ [.chunk data] := by
  cases h with
  | memory sound whole room =>
    refine .inl (keeps_of_room ?_)
    rw [Stream.cut_of_firstError? sound]
    rwa [whole, List.length_append] at room
  | spilled _ _ _ _ kept | broken _ kept | unfinished _ _ _ kept => exact .inl kept
  | unkept begins sound kept hunkept => exact .inr ⟨_, _, _, begins, sound, kept, hunkept, rfl, rfl⟩

/-- There is one first chunk that cannot be kept. -/
theorem unkept_unique {front front' : Stream} {data data' : Bytes} {f f' : Failure}
    (begins : front ++ [.chunk data] <+: items) (sound : front.firstError? = none)
    (kept : Keeps limit spillFile before front)
    (hunkept : Unkept limit spillFile (before ++ front.bytes) data f)
    (begins' : front' ++ [.chunk data'] <+: items) (sound' : front'.firstError? = none)
    (kept' : Keeps limit spillFile before front')
    (hunkept' : Unkept limit spillFile (before ++ front'.bytes) data' f') :
    front = front' ∧ data = data' ∧ f = f' := by
  have same : front ++ [.chunk data] = front' ++ [.chunk data'] := by
    rcases List.prefix_or_prefix_of_prefix begins begins' with hle | hle
    · rcases List.prefix_concat_iff.1 hle with heq | hshort
      · exact heq
      · exact absurd hunkept (kept' _ _ hshort sound _)
    · rcases List.prefix_concat_iff.1 hle with heq | hshort
      · exact heq.symm
      · exact absurd hunkept' (kept _ _ hshort sound' _)
  obtain ⟨rfl, hitem⟩ := List.append_inj' same rfl
  obtain rfl : data = data' := by simpa using hitem
  exact ⟨rfl, rfl, hunkept.unique hunkept'⟩

/-- A stream whose chunks can be kept is read to its end or to its first error. -/
theorem eq_of_kept {x : Except Failure Measured × Stream} (h : Buffering limit spillFile before items x)
    (hkept : Keeps limit spillFile before items) :
    x = match items.firstError? with
      | none => (gathered limit spillFile (before ++ items.bytes), items)
      | some e => (.error e.failure, items.cut) := by
  cases h with
  | memory sound whole room => simp only [sound, ← whole, gathered, if_pos room]
  | spilled sound whole excess made _ finished =>
    simp only [sound, ← whole, gathered, if_neg (Nat.not_le.2 excess), made, finished]
  | broken hbroken => simp only [hbroken]
  | unkept begins sound _ hunkept => exact absurd hunkept (hkept _ _ begins sound _)
  | unfinished sound excess made _ hunfinished =>
    simp only [sound, gathered, if_neg (Nat.not_le.2 excess), made, hunfinished]

/-- **There is one way for each stream.** -/
theorem unique {taken' : Stream} (h : Buffering limit spillFile before items (r, taken))
    (h' : Buffering limit spillFile before items (r', taken')) : r = r' ∧ taken = taken' := by
  obtain hkept | ⟨front, data, f, begins, sound, kept, hunkept, rfl, rfl⟩ := h.kept_or_unkept
  · exact Prod.mk.inj ((h.eq_of_kept hkept).trans (h'.eq_of_kept hkept).symm)
  · obtain hkept' | ⟨front', data', f', begins', sound', kept', hunkept', rfl, rfl⟩ := h'.kept_or_unkept
    · exact absurd hunkept (hkept' _ _ begins sound _)
    · obtain ⟨rfl, rfl, rfl⟩ := unkept_unique begins sound kept hunkept begins' sound' kept' hunkept'
      exact ⟨rfl, rfl⟩

end Buffering

end ContentCache
