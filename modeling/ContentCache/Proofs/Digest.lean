import ContentCache.Content.Stream
import ContentCache.Digest.Meter

/-!
# The digest of what has passed

A hasher compresses a block as soon as it is full, whatever the pieces in which the message arrives. So
what it gives in the end is the digest of the whole message, and a meter gives the digest of the bytes
of the stream that has passed it.

Main statements: `Hasher.hexDigest_feed` (feeding piece by piece gives the digest of the standard) and
`Meter.hexDigest_observe` (a meter digests exactly the bytes that have passed).
-/

namespace ContentCache

namespace Sha256.Hasher

/-- The number of pending bytes is right. -/
def Counted (h : Hasher) : Prop := h.filled = h.pending.length

/-- The bytes that complete a block are compressed with the pending ones, and nothing is left. -/
theorem feed_fill (h : Hasher) (piece : Bytes) (hc : h.Counted)
    (hl : h.pending.length + piece.length = 64) (hne : piece ≠ []) :
    (h.feed piece).state = compress h.state (h.pending.reverse ++ piece) ∧
      (h.feed piece).pending = [] ∧ (h.feed piece).Counted := by
  induction piece generalizing h with
  | nil => exact absurd rfl hne
  | cons b rest ih =>
    have hfeed : h.feed (b :: rest) = (h.push b).feed rest := rfl
    rw [hfeed]
    rw [List.length_cons] at hl
    -- The byte that fills the block is the last one of the piece, by the lengths.
    by_cases hfull : h.filled + 1 = 64
    · have hrest : rest = [] := by
        have : rest.length = 0 := by rw [Counted] at hc; omega
        exact List.eq_nil_of_length_eq_zero this
      subst hrest
      have hpush : h.push b = ⟨compress h.state (b :: h.pending).reverse, [], 0, h.length + 1⟩ := by
        simp [push, hfull]
      rw [hpush]
      exact ⟨by simp, rfl, rfl⟩
    · have hpush : h.push b = ⟨h.state, b :: h.pending, h.filled + 1, h.length + 1⟩ := by
        simp [push, hfull]
      have hrest : rest ≠ [] := by
        rintro rfl
        rw [Counted] at hc
        simp only [List.length_nil] at hl
        omega
      have hc' : (h.push b).Counted := by
        rw [hpush]
        simp only [Counted, List.length_cons]
        rw [hc]
      obtain ⟨hs, hp, hn⟩ := ih (h.push b) hc' (by rw [hpush, List.length_cons]; omega) hrest
      refine ⟨?_, hp, hn⟩
      rw [hs, hpush]
      simp

/-- Whole blocks are compressed one after the other. -/
theorem feed_blocks (h : Hasher) (count : Nat) (message : Bytes) (hp : h.pending = [])
    (hc : h.Counted) (hl : message.length = 64 * count) :
    (h.feed message).state = compressBlocks count h.state message := by
  induction count generalizing h message with
  | zero =>
    have hm : message = [] := List.eq_nil_of_length_eq_zero (by omega)
    subst hm
    rfl
  | succ count ih =>
    have htake : (message.take 64).length = 64 := by rw [List.length_take]; omega
    have hne : message.take 64 ≠ [] := by
      intro he
      rw [he] at htake
      simp at htake
    obtain ⟨hs, hp', hc'⟩ := feed_fill h (message.take 64) hc (by rw [hp, htake]; rfl) hne
    have hsplit : h.feed message = (h.feed (message.take 64)).feed (message.drop 64) := by
      rw [← feed_append, List.take_append_drop]
    rw [hsplit, ih _ _ hp' hc' (by rw [List.length_drop]; omega), hs, hp]
    rfl

/-- A hasher knows how many bytes it was fed. -/
theorem length_feed (h : Hasher) (piece : Bytes) :
    (h.feed piece).length = h.length + piece.length := by
  induction piece generalizing h with
  | nil => rfl
  | cons b rest ih =>
    have hpush : (h.push b).length = h.length + 1 := by
      unfold push
      split <;> rfl
    have hfeed : h.feed (b :: rest) = (h.push b).feed rest := rfl
    rw [hfeed, ih, hpush, List.length_cons]
    omega

/-- **Feeding piece by piece gives the digest of the whole message.** -/
theorem hexDigest_feed (message : Bytes) :
    (start.feed message).hexDigest = Sha256.hexDigest message := by
  have hlen : (start.feed message).length = message.length := by
    rw [length_feed]
    exact Nat.zero_add _
  have hpad : (start.feed message).feed (padding message.length) = start.feed (pad message) := by
    rw [← feed_append]
    rfl
  have hblocks : (pad message).length = 64 * ((pad message).length / 64) := by
    have := length_pad_mod message
    omega
  have hfinish : (start.feed message).finish = digest message := by
    rw [finish, hlen, hpad, feed_blocks start _ (pad message) rfl rfl hblocks]
    rfl
  rw [hexDigest, hfinish]
  rfl

end Sha256.Hasher

namespace Meter

theorem hasher_observe (m : Meter) (items : Stream) :
    (m.observe items).hasher = m.hasher.feed items.bytes := by
  induction items generalizing m with
  | nil => rfl
  | cons item rest ih =>
    have hsee : m.observe (item :: rest) = (m.see item).observe rest := rfl
    have hbytes : Stream.bytes (item :: rest) = item.bytes ++ Stream.bytes rest := by
      simp [Stream.bytes]
    rw [hsee, ih, hbytes, Sha256.Hasher.feed_append]
    cases item <;> rfl

/-- **A meter digests exactly the bytes that have passed.** -/
theorem hexDigest_observe (items : Stream) :
    (Meter.start.observe items).hexDigest = Sha256.hexDigest items.bytes := by
  rw [hexDigest, hasher_observe]
  exact Sha256.Hasher.hexDigest_feed _

end Meter

end ContentCache
