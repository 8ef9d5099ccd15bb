import ContentCache.Proofs.Content.Buffering

/-!
# Content whose length is found out

Content without a declared length is exchanged for content that can be read, with the number of its bytes:
they are the bytes that the first content would have given from where it stood. A stream that is buffered
gives the same whether it is kept in memory or moves to a spill file on the way, and so it does not matter
where the limit of the memory lies among its chunks, as long as nothing goes wrong with the spill file.

* `Source.Hindered`: why the length of a content cannot be found out: a seek is refused, or a stream cannot
  be buffered.
* `Source.BreaksOff`: where reading a content breaks off whose length has been found out.
* `Resolves`: what finding out the length of a content comes to.

Main statements: `resolveLength_error_iff` (there is a reason for every failure, and no other failure),
`exists_resolved` (reading breaks off where the first content does) and `resolveLength_resolves`, with
`resolveLength_spill_failed` (a spill file that can be made is not enough).
-/

namespace ContentCache

/-! ## Reading from a position -/

namespace Seekable

theorem bytes_items (s : Seekable) : s.items.bytes = s.readable :=
  Source.stream_seekable_bytes s

theorem firstError?_items (s : Seekable) : s.items.firstError? = s.failure? := by
  rw [items, Stream.firstError?_append, firstError?_bytesStream]
  cases s.failure? <;> rfl

/-- An error is the last item that is read. -/
theorem cut_items (s : Seekable) : s.items.cut = s.items := by
  rw [items, Stream.cut_append (firstError?_bytesStream _)]
  cases s.failure? <;> rfl

/-- Reading does not go further than the content. -/
theorem readable_begins (s : Seekable) : s.readable <+: s.remaining := by
  unfold readable
  split
  · exact List.prefix_rfl
  · exact List.take_prefix _ _

theorem readable_of_fault {s : Seekable} {n : Nat} {e : IoError} (h : s.fault? = some (n, e)) :
    s.readable = s.remaining.take n ∧ s.failure? = some e := by
  simp [readable, failure?, h]

theorem readable_of_sound {s : Seekable} (h : s.fault? = none) :
    s.readable = s.remaining ∧ s.failure? = none := by
  simp [readable, failure?, h]

/-- Content that does not break off is read as one chunk. -/
theorem items_of_sound {s : Seekable} (h : s.failure? = none) : s.items = bytesStream s.remaining := by
  have hfault : s.fault? = none := by simpa [failure?] using h
  rw [items, h, (readable_of_sound hfault).1]
  exact List.append_nil _

end Seekable

/-- What is read of a content is the front of what it holds. -/
theorem Source.toStream_begins (content : Source) : content.toStream.bytes <+: content.remaining := by
  cases content with
  | stream items => exact List.prefix_rfl
  | seekable s =>
    rw [stream_seekable_bytes]
    exact s.readable_begins

/-! ## Measuring by seeks -/

theorem Seekable.seek_of_refused {s : Seekable} (h : s.refusedSeek = some (s.seeks + 1))
    (target : SeekTarget) : s.seek target = .error s.refusal := by
  simp [seek, h]

theorem Seekable.seek_of_allowed {s : Seekable} (h : s.refusedSeek ≠ some (s.seeks + 1))
    (target : SeekTarget) :
    s.seek target = .ok (s.positionOf target,
      { s with position := s.positionOf target, seeks := s.seeks + 1 }) := by
  simp [seek, h]

/-- **Measuring by seeks** fails when one of its three seeks is refused, and else it ends where it began. -/
theorem measure_cases (s : Seekable) :
    (∃ n, s.refusedSeek = some n ∧ (s.seeks < n ∧ n ≤ s.seeks + 3) ∧
        measure s = .error s.refusal) ∨
      (∀ n, s.refusedSeek = some n → ¬ (s.seeks < n ∧ n ≤ s.seeks + 3)) ∧
        measure s = .ok ⟨.seekable { s with seeks := s.seeks + 3 }, s.data.length - s.position⟩ := by
  have halted {x : Except IoError (Nat × Seekable)} {e : IoError}
      (f : Nat × Seekable → Except IoError Measured) (hx : x = .error e) : x >>= f = .error e := by
    rw [hx]
    rfl
  have moved {x : Except IoError (Nat × Seekable)} {t : Nat × Seekable}
      (f : Nat × Seekable → Except IoError Measured) (hx : x = .ok t) : x >>= f = f t := by
    rw [hx]
    rfl
  unfold measure
  by_cases h₁ : s.refusedSeek = some (s.seeks + 1)
  · exact .inl ⟨_, h₁, by omega, halted _ (Seekable.seek_of_refused h₁ _)⟩
  · rw [moved _ (Seekable.seek_of_allowed h₁ _)]
    dsimp only
    by_cases h₂ : s.refusedSeek = some (s.seeks + 1 + 1)
    · exact .inl ⟨_, h₂, by omega, halted _ (Seekable.seek_of_refused h₂ _)⟩
    · rw [moved _ (Seekable.seek_of_allowed h₂ _)]
      dsimp only
      by_cases h₃ : s.refusedSeek = some (s.seeks + 1 + 1 + 1)
      · exact .inl ⟨_, h₃, by omega, halted _ (Seekable.seek_of_refused h₃ _)⟩
      · rw [moved _ (Seekable.seek_of_allowed h₃ _)]
        refine .inr ⟨fun n hn hamong => ?_, rfl⟩
        rw [hn, Option.some.injEq] at h₁ h₂ h₃
        omega

/-! ## Finding out a length -/

variable {content : Source} {declared : Option Nat} {limit : Nat}
  {spillFile : Except Failure SpoolFile} {m : Measured} {taken : Stream}

/-- A declared length is trusted, and nothing is taken of the content to find it out. -/
theorem resolveLength_declared_ok {n : Nat} (hd : declaredLength declared = some n)
    (h : resolveLength content declared limit spillFile = (.ok m, taken)) :
    m = ⟨content, n⟩ ∧ taken = [] := by
  simp only [resolveLength, hd, Prod.mk.injEq, Except.ok.injEq] at h
  exact ⟨h.1.symm, h.2.symm⟩

/-- Without a declared length a stream is buffered. -/
theorem resolveLength_stream (hd : declaredLength declared = none) (limit : Nat)
    (spillFile : Except Failure SpoolFile) (items : Stream) :
    Buffering limit spillFile [] items (resolveLength (.stream items) declared limit spillFile) := by
  simp only [resolveLength, hd]
  exact bufferStream_buffering limit spillFile items

/-- **A stream without a declared length is sent whole**: its length is that of its bytes, and nothing
of it is left. -/
theorem resolveLength_stream_ok {items : Stream} (hd : declaredLength declared = none)
    (h : resolveLength (.stream items) declared limit spillFile = (.ok m, taken)) :
    items.firstError? = none ∧ taken = items ∧ m.length = items.bytes.length ∧
      ∃ broken, m.source = .seekable { data := items.bytes, broken } := by
  have buffering := resolveLength_stream hd limit spillFile items
  rw [h] at buffering
  cases buffering with
  | memory sound whole =>
    obtain rfl := whole
    exact ⟨sound, rfl, rfl, none, rfl⟩
  | @spilled _ file sound whole =>
    obtain rfl := whole
    exact ⟨sound, rfl, rfl, file.broken, rfl⟩

/-- Content with positions is measured by seeks and stands where it stood. -/
theorem resolveLength_seekable_ok {s : Seekable} (hd : declaredLength declared = none)
    (h : resolveLength (.seekable s) declared limit spillFile = (.ok m, taken)) :
    m = ⟨.seekable { s with seeks := s.seeks + 3 }, s.data.length - s.position⟩ := by
  simp only [resolveLength, hd] at h
  obtain ⟨n, -, -, hm⟩ | ⟨-, hm⟩ := measure_cases s
  · rw [hm] at h
    cases h
  · rw [hm] at h
    exact (Except.ok.inj (Prod.mk.inj h).1).symm

/-- **Content without a declared length is kept whole**, and its bytes are counted. -/
theorem resolveLength_unknown_ok (hd : declaredLength declared = none)
    (h : resolveLength content declared limit spillFile = (.ok m, taken)) :
    m.source.remaining = content.remaining ∧ m.length = content.remaining.length := by
  cases content with
  | stream items =>
    obtain ⟨-, -, hlength, broken, hsource⟩ := resolveLength_stream_ok hd h
    rw [hsource]
    exact ⟨rfl, hlength⟩
  | seekable s =>
    rw [resolveLength_seekable_ok hd h]
    exact ⟨rfl, (List.length_drop ..).symm⟩

/-- Content that is kept can be read until it breaks off. -/
theorem cut_of_resolved (hd : declaredLength declared = none)
    (h : resolveLength content declared limit spillFile = (.ok m, taken)) :
    m.source.toStream.cut = m.source.toStream := by
  cases content with
  | stream items =>
    obtain ⟨-, -, -, broken, hsource⟩ := resolveLength_stream_ok hd h
    rw [hsource]
    exact Seekable.cut_items _
  | seekable s =>
    rw [resolveLength_seekable_ok hd h]
    exact Seekable.cut_items _

/-- What can be read of content that is kept can be read of the content itself. -/
theorem toStream_of_resolved (hd : declaredLength declared = none)
    (h : resolveLength content declared limit spillFile = (.ok m, taken))
    (hwhole : m.source.toStream.bytes = content.remaining) :
    content.toStream.bytes = content.remaining := by
  cases content with
  | stream items => rfl
  | seekable s =>
    rw [resolveLength_seekable_ok hd h] at hwhole
    exact hwhole

/-- Why the length of a content cannot be found out, with the failure. -/
inductive Source.Hindered (limit : Nat) (spillFile : Except Failure SpoolFile) :
    Source → Failure → Prop where
  /-- One of the three seeks is refused. -/
  | refused {s : Seekable} {n : Nat} (refused : s.refusedSeek = some n)
      (among : s.seeks < n ∧ n ≤ s.seeks + 3) :
      Hindered limit spillFile (.seekable s) s.refusal.failure
  /-- A stream cannot be buffered. -/
  | unbuffered {items taken : Stream} {f : Failure}
      (buffering : Buffering limit spillFile [] items (.error f, taken)) :
      Hindered limit spillFile (.stream items) f

/-- **There is a reason for every failure, and there is no other failure.** -/
theorem resolveLength_error_iff (hd : declaredLength declared = none) (content : Source) (limit : Nat)
    (spillFile : Except Failure SpoolFile) (f : Failure) :
    (resolveLength content declared limit spillFile).1 = .error f ↔
      content.Hindered limit spillFile f := by
  cases content with
  | stream items =>
    have buffering := resolveLength_stream hd limit spillFile items
    constructor
    · intro hf
      generalize resolveLength (.stream items) declared limit spillFile = resolved at hf buffering
      obtain ⟨r, taken⟩ := resolved
      obtain rfl : r = .error f := hf
      exact .unbuffered buffering
    · rintro (_ | hindered)
      exact (buffering.unique hindered).1
  | seekable s =>
    simp only [resolveLength, hd]
    obtain ⟨n, hn, hamong, hm⟩ | ⟨hnone, hm⟩ := measure_cases s
    · rw [hm]
      constructor
      · intro hf
        obtain rfl := Except.error.inj hf
        exact .refused hn hamong
      · rintro ⟨-, -⟩
        rfl
    · rw [hm]
      constructor
      · intro hf
        cases hf
      · rintro ⟨hn, hamong⟩
        exact absurd hamong (hnone _ hn)

/-- What hinders finding out a length is a failure of reading or writing, when a spill file cannot be made
because of one. -/
theorem Source.Hindered.io {f : Failure} (h : content.Hindered limit spillFile f)
    (hspill : ∀ f, spillFile = .error f → ∃ detail, f = .io detail) : ∃ detail, f = .io detail := by
  cases h with
  | refused => exact ⟨_, rfl⟩
  | unbuffered buffering =>
    cases buffering with
    | broken | unfinished => exact ⟨_, rfl⟩
    | unkept _ _ _ hunkept =>
      cases hunkept with
      | unmade _ unmade => exact hspill _ unmade
      | unmoved | unwritten => exact ⟨_, rfl⟩

/-! ## Reading what has been resolved -/

/-- Reading a content whose length has been found out breaks off behind so many bytes, with the error. -/
inductive Source.BreaksOff (limit : Nat) (spillFile : Except Failure SpoolFile) :
    Source → Nat → IoError → Prop where
  /-- Content with positions breaks off where it did before. -/
  | content {s : Seekable} {n : Nat} {e : IoError} (fault : s.fault? = some (n, e)) :
      BreaksOff limit spillFile (.seekable s) n e
  /-- A stream is in a spill file that cannot be read to its end. -/
  | spilled {items : Stream} {file : SpoolFile} {n : Nat} {e : IoError}
      (excess : limit < items.bytes.length) (made : spillFile = .ok file)
      (broken : file.broken = some (n, e)) (among : n ≤ items.bytes.length) :
      BreaksOff limit spillFile (.stream items) n e

/-- There is one place at most where reading breaks off. -/
theorem Source.BreaksOff.unique {n n' : Nat} {e e' : IoError}
    (h : content.BreaksOff limit spillFile n e) (h' : content.BreaksOff limit spillFile n' e') :
    n = n' ∧ e = e' := by
  cases h with
  | content hfault =>
    cases h' with
    | content hfault' => exact Prod.mk.inj (Option.some.inj (hfault.symm.trans hfault'))
  | spilled _ made hbroken =>
    cases h' with
    | spilled _ made' hbroken' =>
      obtain rfl := Except.ok.inj (made.symm.trans made')
      exact Prod.mk.inj (Option.some.inj (hbroken.symm.trans hbroken'))

/-- The length of a content can be found out, and then it can be read to its end. -/
structure Source.Bufferable (content : Source) (limit : Nat) (spillFile : Except Failure SpoolFile) :
    Prop where
  unhindered : ∀ f, ¬ content.Hindered limit spillFile f
  unbroken : ∀ n e, ¬ content.BreaksOff limit spillFile n e

/-- A file that is read from its start breaks off within it. -/
theorem Seekable.fault?_of_file {broken : Option (Nat × IoError)} {b : Bytes} {n : Nat} {e : IoError} :
    fault? { data := b, broken } = some (n, e) ↔ broken = some (n, e) ∧ n ≤ b.length := by
  cases broken with
  | none => simp [fault?]
  | some fault =>
    obtain ⟨offset, cause⟩ := fault
    simp only [fault?, remaining, Nat.zero_le, true_and, Nat.zero_add, Nat.sub_zero, List.drop_zero,
      Option.ite_none_right_eq_some, Option.some.injEq]
    constructor
    · rintro ⟨hle, hsame⟩
      obtain ⟨rfl, rfl⟩ := Prod.mk.inj hsame
      exact ⟨rfl, hle⟩
    · rintro ⟨hsame, hle⟩
      obtain ⟨rfl, rfl⟩ := Prod.mk.inj hsame
      exact ⟨hle, rfl⟩

/-- **What has been resolved** has positions, holds what the content holds, and breaks off where that
does. -/
theorem exists_resolved (hd : declaredLength declared = none)
    (h : resolveLength content declared limit spillFile = (.ok m, taken)) :
    ∃ s : Seekable, m.source = .seekable s ∧ s.remaining = content.remaining ∧
      ∀ n e, content.BreaksOff limit spillFile n e ↔ s.fault? = some (n, e) := by
  cases content with
  | seekable s =>
    refine ⟨_, congrArg Measured.source (resolveLength_seekable_ok hd h), rfl, fun n e => ?_⟩
    constructor
    · intro hbreaks
      cases hbreaks with
      | content hfault => exact hfault
    · intro hfault
      exact .content (s := s) hfault
  | stream items =>
    have buffering := resolveLength_stream hd limit spillFile items
    rw [h] at buffering
    cases buffering with
    | memory sound whole room =>
      obtain rfl := whole
      refine ⟨_, rfl, rfl, fun n e => iff_of_false ?_ (by simp [Seekable.fault?])⟩
      intro hbreaks
      cases hbreaks with
      | spilled excess => exact absurd room (Nat.not_le.2 excess)
    | @spilled _ file sound whole excess made =>
      obtain rfl := whole
      refine ⟨_, rfl, rfl, fun n e => Iff.trans ?_ Seekable.fault?_of_file.symm⟩
      constructor
      · intro hbreaks
        cases hbreaks with
        | spilled _ made' hbroken among =>
          obtain rfl := Except.ok.inj (made.symm.trans made')
          exact ⟨hbroken, among⟩
      · rintro ⟨hbroken, among⟩
        exact .spilled excess made hbroken among

/-- **Reading what has been resolved** gives what the content holds, up to where it breaks off. -/
theorem breaksOff_of_resolved (hd : declaredLength declared = none)
    (h : resolveLength content declared limit spillFile = (.ok m, taken)) :
    (∃ n e, content.BreaksOff limit spillFile n e ∧
        m.source.toStream.bytes = content.remaining.take n ∧ m.source.toStream.firstError? = some e) ∨
      (∀ n e, ¬ content.BreaksOff limit spillFile n e) ∧
        m.source.toStream.bytes = content.remaining ∧ m.source.toStream.firstError? = none := by
  obtain ⟨s, hs, hremaining, hbreaks⟩ := exists_resolved hd h
  have hitems : (Source.seekable s).toStream.firstError? = s.failure? := s.firstError?_items
  rw [hs, Source.stream_seekable_bytes, hitems, ← hremaining]
  obtain hfault | ⟨⟨n, e⟩, hfault⟩ := Option.eq_none_or_eq_some s.fault?
  · refine .inr ⟨fun n e hbreak => ?_, Seekable.readable_of_sound hfault⟩
    cases hfault.symm.trans ((hbreaks n e).1 hbreak)
  · exact .inl ⟨n, e, (hbreaks n e).2 hfault, Seekable.readable_of_fault hfault⟩

/-- A stream that can be buffered is exchanged for its bytes. -/
theorem Source.Bufferable.resolved {items : Stream} (h : (Source.stream items).Bufferable limit spillFile)
    (hd : declaredLength declared = none) :
    ∃ m, resolveLength (.stream items) declared limit spillFile = (.ok m, items) ∧
      m.source.toStream = bytesStream items.bytes ∧ m.length = items.bytes.length := by
  cases hr : resolveLength (.stream items) declared limit spillFile with
  | mk r taken =>
    cases r with
    | error f =>
      have hf := (resolveLength_error_iff hd (.stream items) limit spillFile f).1 (by rw [hr])
      exact absurd hf (h.unhindered f)
    | ok m =>
      obtain ⟨-, rfl, hlength, broken, hsource⟩ := resolveLength_stream_ok hd hr
      obtain ⟨n, e, hbreaks, -⟩ | ⟨-, -, hsound⟩ := breaksOff_of_resolved hd hr
      · exact absurd hbreaks (h.unbroken n e)
      · refine ⟨m, rfl, ?_, hlength⟩
        rw [hsource] at hsound ⊢
        exact Seekable.items_of_sound ((Seekable.firstError?_items _).symm.trans hsound)

/-- A spill file that works buffers every stream that can be read to its end. -/
theorem Source.bufferable_of_sound {items : Stream} (limit : Nat) (he : items.firstError? = none) :
    (Source.stream items).Bufferable limit (.ok .sound) where
  unhindered := by
    rintro f (_ | buffering)
    have hends := buffering.eq_of_kept (keeps_of_sound limit [] items)
    simp only [he, gathered] at hends
    split at hends <;> cases hends
  unbroken := by
    rintro n e (_ | ⟨_, made, hbroken, -⟩)
    obtain rfl := Except.ok.inj made
    cases hbroken

/-! ## Resolving -/

/-- What finding out the length of a content comes to. -/
structure Resolves (content : Source) (limit : Nat) (spillFile : Except Failure SpoolFile)
    (resolved : Except Failure Measured × Stream) : Prop where
  /-- The length is the number of the bytes from the position to the end, none when that lies behind. -/
  length : ∀ m, resolved.1 = .ok m → m.length = content.remaining.length
  /-- The new content gives all the bytes that the old one would have given, unless it breaks off. -/
  whole : ∀ m, resolved.1 = .ok m → (∀ n e, ¬ content.BreaksOff limit spillFile n e) →
    m.source.toStream.bytes = content.toStream.bytes ∧ content.toStream.bytes = content.remaining ∧
      m.source.toStream.firstError? = none
  /-- Then it gives the bytes before that, and the error. -/
  broken : ∀ m n e, resolved.1 = .ok m → content.BreaksOff limit spillFile n e →
    m.source.toStream.bytes = content.remaining.take n ∧ m.source.toStream.firstError? = some e
  /-- Content with positions stands where it stood, and is read as it would have been. -/
  restored : ∀ s m, content = .seekable s → resolved.1 = .ok m → ∃ t : Seekable,
    m = ⟨.seekable t, s.data.length - s.position⟩ ∧ t.data = s.data ∧ t.position = s.position ∧
      t.items = s.items
  /-- A stream is read to its end or to its first error, or until it cannot be buffered. -/
  read : ∀ items, content = .stream items → Buffering limit spillFile [] items resolved
  /-- There is a reason for every failure, and there is no other failure. -/
  hindered : ∀ f, resolved.1 = .error f ↔ content.Hindered limit spillFile f

/-- The limit of the memory makes no difference to a stream when its spill file works. -/
theorem resolveLength_of_sound (hd : declaredLength declared = none) (items : Stream)
    (limit limit' : Nat) :
    resolveLength (.stream items) declared limit (.ok .sound) =
      resolveLength (.stream items) declared limit' (.ok .sound) := by
  have resolved (limit : Nat) : resolveLength (.stream items) declared limit (.ok .sound) =
      items.firstError?.elim (.ok ⟨.ofBytes items.bytes, items.bytes.length⟩, items)
        fun e => (.error e.failure, items.cut) := by
    rw [(resolveLength_stream hd limit (.ok .sound) items).eq_of_kept (keeps_of_sound limit [] items)]
    cases items.firstError? with
    | some e => rfl
    | none =>
      simp only [gathered]
      split <;> rfl
  rw [resolved limit, resolved limit']

/-- **Finding out a length keeps the content and counts its bytes.** Without a declared length a content is
exchanged for one that gives the same bytes, unless there is a reason why not or reading breaks off; for a
stream it makes no difference how much of it is kept in memory when its spill file works. A positive declared
length is taken at its word, and the content stays as it is. -/
theorem resolveLength_resolves (content : Source) (limit : Nat) (spillFile : Except Failure SpoolFile)
    {declared : Option Nat} (undeclared : declared = none ∨ declared = some 0) :
    Resolves content limit spillFile (resolveLength content declared limit spillFile) ∧
      (∀ items, content = .stream items → spillFile = .ok .sound → ∀ limit',
        resolveLength content declared limit' spillFile =
          resolveLength content declared limit spillFile) ∧
      ∀ n, 0 < n → resolveLength content (some n) limit spillFile = (.ok ⟨content, n⟩, []) := by
  have hd : declaredLength declared = none := by
    obtain rfl | rfl := undeclared <;> rfl
  have resolved {m : Measured} (hm : (resolveLength content declared limit spillFile).1 = .ok m) :
      resolveLength content declared limit spillFile =
        (.ok m, (resolveLength content declared limit spillFile).2) := Prod.ext hm rfl
  refine ⟨?_, ?_, fun n hn => resolveLength_declared content hn limit spillFile⟩
  · constructor
    case length => exact fun m hm => (resolveLength_unknown_ok hd (resolved hm)).2
    case whole =>
      intro m hm hnever
      obtain ⟨n, e, hbreaks, -⟩ | ⟨-, hbytes, hsound⟩ := breaksOff_of_resolved hd (resolved hm)
      · exact absurd hbreaks (hnever n e)
      · have hcontent := toStream_of_resolved hd (resolved hm) hbytes
        exact ⟨hbytes.trans hcontent.symm, hcontent, hsound⟩
    case broken =>
      intro m n e hm hbreaks
      obtain ⟨n', e', hbreaks', hread⟩ | ⟨hnever, -⟩ := breaksOff_of_resolved hd (resolved hm)
      · obtain ⟨rfl, rfl⟩ := hbreaks.unique hbreaks'
        exact hread
      · exact absurd hbreaks (hnever n e)
    case restored =>
      rintro s m rfl hm
      exact ⟨_, resolveLength_seekable_ok hd (resolved hm), rfl, rfl, rfl⟩
    case read =>
      rintro items rfl
      exact resolveLength_stream hd limit spillFile items
    case hindered => exact resolveLength_error_iff hd content limit spillFile
  · rintro items rfl rfl limit'
    exact resolveLength_of_sound hd items limit' limit

/-- Three bytes of which two fit exactly in memory: the third one moves them to the spill file, behind an
empty chunk. -/
def chunksPastLimit : Source := .stream [.chunk [104, 105], .chunk [], .chunk [33]]

/-- A stream that reaches the limit exactly, and passes it, is kept whole. -/
theorem resolveLength_resolves_chunks :
    ((some 0 : Option Nat) = none ∨ some 0 = some 0) ∧
      ∃ m, (resolveLength chunksPastLimit (some 0) 2 (.ok .sound)).1 = .ok m ∧
        m.source.toStream.bytes = [104, 105, 33] ∧ m.length = 3 ∧
        resolveLength chunksPastLimit (some 0) 0 (.ok .sound) =
          resolveLength chunksPastLimit (some 0) 2 (.ok .sound) := by
  obtain ⟨resolves, limitless, -⟩ :=
    resolveLength_resolves chunksPastLimit 2 (.ok .sound)
      (show (some 0 : Option Nat) = none ∨ some 0 = some 0 from .inr rfl)
  have hok : ∃ m, (resolveLength chunksPastLimit (some 0) 2 (.ok .sound)).1 = .ok m := ⟨_, rfl⟩
  obtain ⟨m, hm⟩ := hok
  have bufferable : chunksPastLimit.Bufferable 2 (.ok .sound) := Source.bufferable_of_sound 2 rfl
  obtain ⟨hbytes, -, -⟩ := resolves.whole m hm bufferable.unbroken
  exact ⟨.inr rfl, m, hm, hbytes, resolves.length m hm, limitless _ rfl rfl 0⟩

/-- A file on a disk that has no room. -/
def SpoolFile.full : SpoolFile where
  write := {
    refusal? := fun _ data =>
      if data.isEmpty then none else some (0, .saying "No space left on device (os error 28)")
    nothing := fun _ => rfl }

/-- **A spill file that can be made is not enough**: when what was in memory cannot be written to it, the
length is not found out, although the stream could be read to its end. -/
theorem resolveLength_spill_failed :
    chunksPastLimit.toStream.firstError? = none ∧
      (World.spillFile { server := .ofAnswers [], spill := .ok .full } none).toOption.isSome = true ∧
      (resolveLength chunksPastLimit none 2
          (World.spillFile { server := .ofAnswers [], spill := .ok .full } none)).1.toOption = none := by
  exact ⟨rfl, rfl, rfl⟩

end ContentCache
