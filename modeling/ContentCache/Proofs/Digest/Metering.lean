import ContentCache.Proofs.Digest

/-!
# What a metered stream shows

A metered stream hands its items on as they are. Its meter, whenever it is read, shows the number of bytes
that have passed and their digest, whatever the chunks in which they came and whatever errors came between
them, and it makes no difference how often it has been read before. The number wraps, as a counter does.

* `MeteredStream.passed`: a stream of which so many items have been taken.
* `MeteredStream.sightOf`: what is seen of it then.

Main statements: `sights_transparent`, with `use_passed` (what one use shows, and what it leaves), and
`Meter.bytes_observe` (the number of bytes is told right).
-/

namespace ContentCache

/-- A meter counts the bytes of all chunks, and wraps. -/
theorem Meter.count_observe (m : Meter) (items : Stream) :
    (m.observe items).count = m.count + UInt64.ofNat items.bytes.length := by
  induction items generalizing m with
  | nil => exact (UInt64.add_zero _).symm
  | cons item rest ih =>
    have hobserve : m.observe (item :: rest) = (m.see item).observe rest := rfl
    have hbytes : Stream.bytes (item :: rest) = item.bytes ++ Stream.bytes rest := by
      simp [Stream.bytes]
    rw [hobserve, ih, hbytes, List.length_append, UInt64.ofNat_add, ← UInt64.add_assoc]
    cases item with
    | chunk data => rfl
    | error e => exact congrArg (· + _) (UInt64.add_zero _).symm

/-- The number of bytes that is told is their number, as long as it can be counted. -/
theorem Meter.bytes_observe (items : Stream) (h : items.bytes.length < UInt64.size) :
    (start.observe items).bytes = items.bytes.length := by
  rw [bytes, count_observe, show start.count = 0 from rfl, UInt64.zero_add, UInt64.toNat_ofNat']
  exact Nat.mod_eq_of_lt h

theorem Meter.observe_take_succ (m : Meter) {items : Stream} {n : Nat} {item : Item}
    (h : items[n]? = some item) : m.observe (items.take (n + 1)) = (m.observe (items.take n)).see item := by
  rw [List.take_add_one, h, observe_append]
  rfl

namespace MeteredStream

/-- A stream of which so many items have been taken. -/
def passed (items : Stream) (n : Nat) : MeteredStream :=
  ⟨items.drop n, Meter.start.observe (items.take n)⟩

/-- What is seen when so many items have been taken: the next one, or the number of bytes of those before, as
far as it can be counted, and their digest. -/
def sightOf (items : Stream) (n : Nat) : MeterUse → MeterSight
  | .take => .item items[n]?
  | .read => .shown (UInt64.ofNat (Stream.bytes (items.take n)).length)
      (Sha256.hexDigest (Stream.bytes (items.take n)))

/-- **What one use shows**, and what it leaves: reading the meter leaves everything as it is. -/
theorem use_passed (items : Stream) (n : Nat) (u : MeterUse) :
    (passed items n).use u = (sightOf items n u, passed items (n + [u].count .take)) := by
  cases u with
  | read =>
    have hcount := Meter.count_observe .start (items.take n)
    have hdigest := Meter.hexDigest_observe (items.take n)
    rw [show Meter.start.count = 0 from rfl, UInt64.zero_add] at hcount
    simp [use, passed, sightOf, hcount, hdigest]
  | take =>
    cases h : items[n]? with
    | none =>
      -- Behind the end there is nothing to take, and nothing more passes.
      have hlen : items.length ≤ n := List.getElem?_eq_none_iff.1 h
      have htake : items.take (n + 1) = items.take n := by
        rw [List.take_of_length_le hlen, List.take_of_length_le (by omega)]
      have hdrop : items.drop (n + 1) = items.drop n := by
        rw [List.drop_of_length_le hlen, List.drop_of_length_le (by omega)]
      simp [use, next?, passed, sightOf, h, htake, hdrop, List.drop_of_length_le hlen]
    | some item =>
      have hdrop : items.drop n = item :: items.drop (n + 1) := by
        obtain ⟨hlt, rfl⟩ := List.getElem?_eq_some_iff.1 h
        exact List.drop_eq_getElem_cons hlt
      have hmeter := Meter.observe_take_succ .start h
      simp [use, next?, passed, sightOf, h, hdrop, hmeter]

theorem afterUses_passed (items : Stream) (n : Nat) (uses : List MeterUse) :
    (passed items n).afterUses uses = passed items (n + uses.count .take) := by
  induction uses generalizing n with
  | nil => rfl
  | cons u uses ih =>
    have hafter : (passed items n).afterUses (u :: uses) =
        ((passed items n).use u).2.afterUses uses := rfl
    rw [hafter, use_passed, ih, Nat.add_assoc, ← List.count_append]
    rfl

theorem length_sights (uses : List MeterUse) (s : MeteredStream) :
    (s.sights uses).length = uses.length := by
  induction uses generalizing s with
  | nil => rfl
  | cons u uses ih => rw [sights, List.length_cons, List.length_cons, ih]

/-- What is seen of uses behind others is seen of the stream that those leave. -/
theorem sights_append (front back : List MeterUse) (s : MeteredStream) :
    s.sights (front ++ back) = s.sights front ++ (s.afterUses front).sights back := by
  induction front generalizing s with
  | nil => rfl
  | cons u front ih => rw [List.cons_append, sights, ih]; rfl

/-- **A metered stream hands its items on, and its meter shows what has passed**: a use shows what the
items that were taken before decide, whatever has been read. So streams of which the same bytes have passed
show the same, however they were cut and whatever errors came between. -/
theorem sights_transparent (items : Stream) :
    (∀ front u back, ((start items).sights (front ++ u :: back))[front.length]? =
      some (sightOf items (front.count .take) u)) ∧
    ∀ others uses uses', Stream.bytes (items.take (uses.count .take)) =
        Stream.bytes (others.take (uses'.count .take)) →
      (((start items).afterUses uses).use .read).1 = (((start others).afterUses uses').use .read).1 := by
  have hstart (items : Stream) : start items = passed items 0 := rfl
  constructor
  · intro front u back
    rw [sights_append, List.getElem?_append_right (Nat.le_of_eq (length_sights front _)), length_sights,
      Nat.sub_self, hstart, afterUses_passed, Nat.zero_add, sights, use_passed]
    rfl
  · intro others uses uses' h
    rw [hstart, hstart, afterUses_passed, afterUses_passed, use_passed, use_passed, Nat.zero_add,
      Nat.zero_add]
    simp only [sightOf, h]

/-- The digest of a text that comes in two chunks is that of the text in other chunks, with an error and an
empty chunk among them and a meter that is read in between. -/
theorem sights_transparent_scattered :
    let items : Stream := [.chunk [104, 105], .chunk [33]]
    let others : Stream := [.chunk [104], .error (.saying "reset"), .chunk [], .chunk [105, 33]]
    let uses : List MeterUse := [.take, .take]
    let uses' : List MeterUse := [.take, .read, .take, .take, .take]
    Stream.bytes (items.take (uses.count .take)) = Stream.bytes (others.take (uses'.count .take)) ∧
      (((start items).afterUses uses).use .read).1 = (((start others).afterUses uses').use .read).1 :=
  ⟨by decide, (sights_transparent _).2 _ _ _ (by decide)⟩

end MeteredStream

end ContentCache
