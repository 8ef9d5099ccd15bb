import ContentCache.Content.Stream
import ContentCache.Digest.Sha256

/-!
# Digesting a stream as it passes

A metered stream hands its items on unchanged and feeds every chunk to a hasher; the number of
bytes and the digest so far can be asked at any moment.

* `Meter`: what has passed so far.
* `MeteredStream`, `MeteredStream.use`: a stream with its meter, from which items are taken and whose meter
  is read, in any order.

Main statement: `observe_append` (observing two parts is observing them joined).
-/

namespace ContentCache

/-- What has passed so far. The number of bytes wraps at its end. -/
structure Meter where
  hasher : Sha256.Hasher
  count : UInt64

namespace Meter

def start : Meter := ⟨.start, 0⟩

def see (m : Meter) : Item → Meter
  | .chunk data => ⟨m.hasher.feed data, m.count + UInt64.ofNat data.length⟩
  | .error _ => m

/-- The number of bytes that have passed, as it is told. -/
def bytes (m : Meter) : Nat := m.count.toNat

def observe (m : Meter) (items : Stream) : Meter := items.foldl see m

/-- The digest of the bytes that have passed, in lower-case hexadecimal. -/
def hexDigest (m : Meter) : String := m.hasher.hexDigest

theorem observe_append (m : Meter) (s t : Stream) :
    m.observe (s ++ t) = (m.observe s).observe t := by
  simp [observe]

end Meter

/-- A stream with the meter that its items pass. -/
structure MeteredStream where
  inner : Stream
  meter : Meter

def MeteredStream.start (s : Stream) : MeteredStream := ⟨s, .start⟩

def MeteredStream.next? (s : MeteredStream) : Option (Item × MeteredStream) :=
  match s.inner with
  | [] => none
  | item :: rest => some (item, ⟨rest, s.meter.see item⟩)

/-! ## Taking items and reading the meter -/

/-- What is done with a metered stream: an item is asked for, or the meter is read. -/
inductive MeterUse where
  | take
  | read
  deriving DecidableEq

/-- What is seen of a metered stream: an item or the end, or what its meter shows. -/
inductive MeterSight where
  | item (item : Option Item)
  | shown (count : UInt64) (hexDigest : String)
  deriving DecidableEq

namespace MeteredStream

def use (s : MeteredStream) : MeterUse → MeterSight × MeteredStream
  | .take =>
    match s.next? with
    | none => (.item none, s)
    | some (item, rest) => (.item (some item), rest)
  | .read => (.shown s.meter.count s.meter.hexDigest, s)

/-- What is seen when a stream is used several times. -/
def sights : List MeterUse → MeteredStream → List MeterSight
  | [], _ => []
  | u :: uses, s => (s.use u).1 :: sights uses (s.use u).2

/-- What has become of a stream that has been used several times. -/
def afterUses (s : MeteredStream) (uses : List MeterUse) : MeteredStream :=
  uses.foldl (fun s u => (s.use u).2) s

end MeteredStream

end ContentCache
