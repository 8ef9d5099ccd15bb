import ContentCache.Cache.Tee
import ContentCache.Proofs.Content

/-!
# A stream that passes a tee, poll by poll

However many items have been asked for, what has come out of a tee is the front of the stream up to its
first error or up to the first chunk that cannot be written, with an error in its place. The spool holds the
bytes of just these items, they have been counted, and the failure is that of the error, once it has come
out.

* `Tee.Passes`: what comes out of a tee, and whom its error is blamed on.
* `TeeStream.Keeps`: what a tee has kept of the items that have come out.
* `TeeStream.Shows`: a stream that keeps and counts what a tee has seen.

Main statements: `polls_passes` (what comes out of a tee, and what it keeps) and `polls_keeps` (when its
spool works).
-/

namespace ContentCache

theorem Counters.countBytes_add (c : Counters) (m n : Nat) :
    c.countBytes (m + n) = (c.countBytes m).countBytes n := by
  simp [countBytes, UInt64.ofNat_add, UInt64.add_assoc]

theorem Counters.toNat_countBytes (c : Counters) (n : Nat) :
    (c.countBytes n).bytesFromOrigin.toNat = (c.bytesFromOrigin.toNat + n) % UInt64.size := by
  simp [countBytes, UInt64.toNat_add, UInt64.size]

/-- A front of a stream with an error in it decides the first error. -/
theorem Stream.firstError?_of_begins_some {s t : Stream} (h : s <+: t) {e : IoError}
    (hs : s.firstError? = some e) : t.firstError? = some e := by
  obtain ⟨rest, rfl⟩ := h
  rw [firstError?_append, hs]
  rfl

/-! ## What comes out of a tee -/

namespace Tee

/-- The chunks of a stream, up to its first error, can be written behind the bytes `before`. -/
def Writes (write : SpoolWrite) (before : Bytes) (origin : Stream) : Prop :=
  Stream.Chunkwise (fun held data => write held.length data = none) before origin

/-- What comes out of a tee that has kept the bytes `before`, and the failure that an error in it leaves. -/
inductive Passes (write : SpoolWrite) (before : Bytes) (origin : Stream) :
    Stream → (IoError → Failure) → Prop where
  /-- All chunks are written: the stream comes out up to its first error, which lies with the origin. -/
  | whole (written : Writes write before origin) : Passes write before origin origin.cut failureOf
  /-- A chunk cannot be written: an error takes its place, which lies with the spool. -/
  | refused {front : Stream} {data : Bytes} {n : Nat} {e : IoError}
      (begins : front ++ [.chunk data] <+: origin) (sound : front.firstError? = none)
      (written : Writes write before front)
      (refused : write (before ++ front.bytes).length data = some (n, e)) :
      Passes write before origin (front ++ [.error e]) spoolFailureOf

variable {write : SpoolWrite} {before : Bytes} {origin items : Stream} {blame : IoError → Failure}

theorem writes_sound (before : Bytes) (origin : Stream) : Writes .sound before origin :=
  fun _ _ _ _ => rfl

namespace Passes

/-- A chunk that is written comes out before the rest. -/
theorem cons {data : Bytes} (hdata : write before.length data = none)
    (h : Passes write (before ++ data) origin items blame) :
    Passes write before (.chunk data :: origin) (.chunk data :: items) blame := by
  cases h with
  | whole written => exact .whole (Stream.Chunkwise.cons hdata written)
  | @refused front data' _ _ begins sound written hrefused =>
    have hbegins : (.chunk data :: front) ++ [.chunk data'] <+: .chunk data :: origin :=
      List.cons_prefix_cons.2 ⟨rfl, begins⟩
    have hsound : Stream.firstError? (.chunk data :: front) = none := sound
    rw [List.append_assoc, ← Stream.bytes_cons_chunk] at hrefused
    have hcons := refused hbegins hsound (Stream.Chunkwise.cons hdata written) hrefused
    exact hcons

/-- The first chunk cannot be written. -/
theorem first {data : Bytes} {n : Nat} {e : IoError} (h : write before.length data = some (n, e)) :
    Passes write before (.chunk data :: origin) [.error e] spoolFailureOf := by
  have hbegins : [] ++ [.chunk data] <+: Item.chunk data :: origin := ⟨origin, rfl⟩
  have hbefore : before ++ Stream.bytes [] = before := List.append_nil before
  have hfirst := refused hbegins rfl (Stream.chunkwise_nil _ before) (hbefore.symm ▸ h)
  exact hfirst

/-- An error is the last item that comes out, even when it is the spool that fails. -/
theorem cut_items (h : Passes write before origin items blame) : items.cut = items := by
  cases h with
  | whole => exact Stream.cut_cut origin
  | refused _ sound => rw [Stream.cut_append sound]; rfl

/-- Everything before an error has come from the origin. -/
theorem front_begins (h : Passes write before origin items blame) {front : Stream}
    (hfront : front <+: items) (hsound : front.firstError? = none) : front <+: origin := by
  cases h with
  | whole => exact hfront.trans (Stream.cut_begins origin)
  | @refused front' _ _ e begins sound =>
    rcases List.prefix_concat_iff.1 hfront with rfl | hshort
    · rw [Stream.firstError?_append, sound] at hsound
      cases hsound
    · exact hshort.trans ((List.prefix_append _ _).trans begins)

theorem length_le (h : Passes write before origin items blame) : items.length ≤ origin.length := by
  cases h with
  | whole => exact (Stream.cut_begins _).length_le
  | refused begins => simpa using begins.length_le

/-- What comes out without an error is the whole stream, and there is none in that. -/
theorem of_unbroken (h : Passes write before origin items blame) (he : items.firstError? = none) :
    items = origin ∧ origin.firstError? = none := by
  cases h with
  | whole =>
    rw [Stream.firstError?_cut] at he
    exact ⟨Stream.cut_of_firstError? he, he⟩
  | refused _ sound =>
    rw [Stream.firstError?_append, sound] at he
    cases he

/-- A spool that takes every chunk lets a stream pass up to its first error. -/
theorem of_written (h : Passes write before origin items blame) (hw : Writes write before origin) :
    items = origin.cut ∧ blame = failureOf := by
  cases h with
  | whole => exact ⟨rfl, rfl⟩
  | refused begins sound _ hrefused => cases (hw _ _ begins sound).symm.trans hrefused

end Passes

end Tee

namespace TeeStream

/-! ## Poll by poll -/

/-- What a tee has kept of the items that have come out behind `before`, where an error among them leaves a
failure by `blame`: they have been counted, and their bytes are in the spool unless that has failed. -/
structure Keeps (before : TeeStream) (blame : IoError → Failure) (items : Stream)
    (after : TeeStream) : Prop where
  counters : after.counters = before.counters.countBytes items.bytes.length
  failure : after.failure = before.failure.orElse fun _ => items.firstError?.map blame
  held : items.firstError? = none ∨ before.write = .sound → after.held = before.held ++ items.bytes

theorem Keeps.refl (t : TeeStream) (blame : IoError → Failure) : t.Keeps blame [] t where
  counters := by simp [Stream.bytes, Counters.countBytes]
  failure := by cases h : t.failure <;> rfl
  held := fun _ => (List.append_nil _).symm

/-- What a tee has kept of a chunk and of the items behind it. -/
theorem Keeps.cons {t u v : TeeStream} {blame : IoError → Failure} {data : Bytes} {items : Stream}
    (hcounters : u.counters = t.counters.countBytes data.length) (hfailure : u.failure = t.failure)
    (hheld : u.held = t.held ++ data) (hwrite : u.write = t.write) (h : u.Keeps blame items v) :
    t.Keeps blame (.chunk data :: items) v where
  counters := by
    rw [h.counters, hcounters, Stream.bytes_cons_chunk, List.length_append, Counters.countBytes_add]
  failure := by
    rw [h.failure, hfailure]
    rfl
  held := fun hsound => by
    rw [Stream.bytes_cons_chunk, ← List.append_assoc, ← hheld]
    exact h.held (hsound.imp_right hwrite.trans)

theorem polls_nil {t : TeeStream} (h : t.origin = []) (k : Nat) : t.polls k = ([], t) := by
  cases k with
  | zero => rfl
  | succ k => simp [polls, next?, h]

/-- **What comes out of a tee, and what it keeps of it**, however often it is asked. -/
theorem polls_passes (t : TeeStream) :
    ∃ items blame, Tee.Passes t.write t.held t.origin items blame ∧
      ∀ k, (t.polls k).1 = items.take k ∧ t.Keeps blame (items.take k) (t.polls k).2 := by
  obtain ⟨origin, held, failure, counters, write⟩ := t
  induction origin generalizing held counters with
  | nil =>
    refine ⟨[], Tee.failureOf, .whole (Stream.chunkwise_nil _ held), fun k => ?_⟩
    rw [polls_nil rfl k, List.take_nil]
    exact ⟨rfl, .refl _ _⟩
  | cons item rest ih =>
    cases item with
    | error e =>
      refine ⟨[.error e], Tee.failureOf, .whole (Stream.chunkwise_error _ held e rest), fun k => ?_⟩
      cases k with
      | zero => exact ⟨rfl, .refl _ _⟩
      | succ k =>
        simp only [polls, next?, List.take_succ_cons, List.take_nil]
        rw [polls_nil (by rfl)]
        refine ⟨rfl, ?_, rfl, fun _ => (List.append_nil held).symm⟩
        simp [record, Stream.bytes, Item.bytes, Counters.countBytes]
    | chunk data =>
      cases hwrite : write held.length data with
      | some refusal =>
        refine ⟨[.error refusal.2], Tee.spoolFailureOf, .first hwrite, fun k => ?_⟩
        cases k with
        | zero => exact ⟨rfl, .refl _ _⟩
        | succ k =>
          simp only [polls, next?, hwrite, List.take_succ_cons, List.take_nil]
          rw [polls_nil (by rfl)]
          refine ⟨rfl, ?_, rfl, fun hsound => ?_⟩
          · simp [record, Stream.bytes, Item.bytes, Counters.countBytes]
          · obtain hnone | rfl := hsound
            · cases hnone
            · cases hwrite
      | none =>
        obtain ⟨items, blame, passes, hpolls⟩ := ih (held ++ data) (counters.countBytes data.length)
        refine ⟨.chunk data :: items, blame, passes.cons hwrite, fun k => ?_⟩
        cases k with
        | zero => exact ⟨rfl, .refl _ _⟩
        | succ k =>
          simp only [polls, next?, hwrite, List.take_succ_cons]
          obtain ⟨hitems, hkeeps⟩ := hpolls k
          refine ⟨by rw [hitems], ?_⟩
          exact hkeeps.cons (t := ⟨.chunk data :: rest, held, failure, counters, write⟩)
            (u := ⟨rest, held ++ data, failure, counters.countBytes data.length, write⟩) rfl rfl rfl rfl

/-- What comes out does not depend on what has been counted. -/
theorem polls_counting (t : TeeStream) (counters : Counters) (k : Nat) :
    (({ t with counters } : TeeStream).polls k).1 = (t.polls k).1 := by
  induction k generalizing t counters with
  | zero => rfl
  | succ k ih =>
    obtain ⟨origin, held, failure, before, write⟩ := t
    cases origin with
    | nil => rfl
    | cons item rest =>
      cases item with
      | error e =>
        simp only [polls, next?]
        rw [polls_nil (by rfl), polls_nil (by rfl)]
      | chunk data =>
        cases hwrite : write held.length data with
        | some refusal =>
          simp only [polls, next?, hwrite]
          rw [polls_nil (by rfl), polls_nil (by rfl)]
        | none =>
          simp only [polls, next?, hwrite]
          have hrest := ih ⟨rest, held ++ data, failure, before.countBytes data.length, write⟩
            (counters.countBytes data.length)
          rw [hrest]

/-- **What a tee has kept when some items have been taken of it.** -/
theorem through_passes (write : SpoolWrite) (origin : Stream) :
    ∃ blame, Tee.Passes write [] origin (through write origin).items blame ∧
      ∀ taken : Stream, taken <+: (through write origin).items →
        ((through write origin).after taken.length).failure = taken.firstError?.map blame ∧
        (taken.firstError? = none →
          ((through write origin).after taken.length).held = taken.bytes) ∧
        ∀ counters, (({ through write origin with counters } : TeeStream).after taken.length).counters =
          counters.countBytes taken.bytes.length := by
  obtain ⟨items, blame, passes, hpolls⟩ := (through write origin).polls_passes
  have hitems : (through write origin).items = items := by
    rw [TeeStream.items, (hpolls _).1]
    exact List.take_of_length_le passes.length_le
  rw [hitems]
  refine ⟨blame, passes, fun taken htaken => ?_⟩
  have hfront : items.take taken.length = taken := (List.prefix_iff_eq_take.1 htaken).symm
  have hkeeps := (hpolls taken.length).2
  rw [hfront] at hkeeps
  refine ⟨hkeeps.failure, fun hsound => hkeeps.held (.inl hsound), fun counters => ?_⟩
  obtain ⟨items', blame', -, hpolls'⟩ := ({ through write origin with counters } : TeeStream).polls_passes
  obtain ⟨hsame, hkeeps'⟩ := hpolls' taken.length
  rw [polls_counting, (hpolls _).1, hfront] at hsame
  rw [← hsame] at hkeeps'
  exact hkeeps'.counters

/-! ## A spool that works -/

/-- What is kept and counted is what a tee has seen. -/
structure Shows (t : TeeStream) (tee : Tee) (counters : Counters) : Prop where
  held : t.held = tee.spool
  failure : t.failure = tee.failure
  counters : t.counters = counters.countBytes tee.size

theorem Keeps.shows {origin items : Stream} {counters : Counters} {t : TeeStream}
    (h : (start origin counters).Keeps Tee.failureOf items t) :
    t.Shows (Tee.start.observe items) counters where
  held := by
    rw [h.held (.inr rfl), Tee.spool_observe]
    rfl
  failure := by
    rw [h.failure, Tee.failure_observe]
    rfl
  counters := by
    rw [h.counters, Tee.size, Tee.spool_observe]
    rfl

/-- **What has passed a tee at every poll**: the items that came are the front of the stream up to its
first error, the spool holds their bytes, these have been counted modulo 2^64 and nothing else has, and
the failure is that of the error among them. A failure that is there is neither replaced by another one nor
by what is polled later. A tee that sees the items keeps the same. -/
theorem polls_keeps (origin : Stream) (counters : Counters) (k : Nat) :
    ∃ items t, (start origin counters).polls k = (items, t) ∧ items = origin.cut.take k ∧
      t.held = items.bytes ∧
      t.counters = { counters with bytesFromOrigin := t.counters.bytesFromOrigin } ∧
      t.counters.bytesFromOrigin.toNat =
        (counters.bytesFromOrigin.toNat + items.bytes.length) % UInt64.size ∧
      t.failure = (items.firstError?.map fun e =>
        .origin none ("failed to read origin body: " ++ e.text)) ∧
      (∀ f, (t.record f).failure = some (t.failure.getD f)) ∧
      (∀ m, t.failure = none ∨ ((start origin counters).polls (k + m)).2.failure = t.failure) ∧
      t.Shows (Tee.start.observe items) counters := by
  obtain ⟨all, blame, passes, hpolls⟩ := (start origin counters).polls_passes
  obtain ⟨rfl, rfl⟩ := passes.of_written (Tee.writes_sound _ _)
  have hfailure (k : Nat) : ((start origin counters).polls k).2.failure =
      (Stream.firstError? (origin.cut.take k)).map Tee.failureOf := (hpolls k).2.failure
  obtain ⟨hitems, keeps⟩ := hpolls k
  rw [← hitems] at keeps
  refine ⟨_, _, rfl, hitems, keeps.held (.inr rfl), ?_, ?_, keeps.failure, fun f => ?_, fun m => ?_,
    keeps.shows⟩
  · rw [keeps.counters]
    rfl
  · rw [keeps.counters, Counters.toNat_countBytes]
    rfl
  · simp only [record]
    cases ((start origin counters).polls k).2.failure <;> rfl
  · rw [hfailure, hfailure]
    cases he : Stream.firstError? (origin.cut.take k) with
    | none => exact .inl rfl
    | some e =>
      -- The items that are polled later come behind the first ones.
      have hbegins : origin.cut.take k <+: origin.cut.take (k + m) :=
        List.take_prefix_take_left (Nat.le_add_right k m)
      exact .inr (by rw [Stream.firstError?_of_begins_some hbegins he])

end TeeStream

end ContentCache
