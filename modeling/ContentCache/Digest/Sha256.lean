import ContentCache.Bytes

/-!
# SHA-256

The digest is told twice. `digest` follows the standard: the message is padded to whole blocks of
64 bytes, and the blocks are compressed one after the other into a state of eight words. `Hasher`
takes the message piece by piece, keeps the bytes of the block that is not yet full, and gives the
digest of what it has been fed at any moment.

Main definitions: `pad`, `compress`, `digest`, `Hasher.feed`, `Hasher.finish`. Main statement:
`Hasher.feed_append` (feeding two pieces is feeding them joined).
-/

namespace ContentCache.Sha256

/-- The state between blocks: eight words. -/
structure State where
  a : UInt32
  b : UInt32
  c : UInt32
  d : UInt32
  e : UInt32
  f : UInt32
  g : UInt32
  h : UInt32
  deriving DecidableEq, Repr

def State.initial : State :=
  ⟨0x6a09e667, 0xbb67ae85, 0x3c6ef372, 0xa54ff53a, 0x510e527f, 0x9b05688c, 0x1f83d9ab, 0x5be0cd19⟩

def roundConstants : Array UInt32 := #[
  0x428a2f98, 0x71374491, 0xb5c0fbcf, 0xe9b5dba5, 0x3956c25b, 0x59f111f1, 0x923f82a4, 0xab1c5ed5,
  0xd807aa98, 0x12835b01, 0x243185be, 0x550c7dc3, 0x72be5d74, 0x80deb1fe, 0x9bdc06a7, 0xc19bf174,
  0xe49b69c1, 0xefbe4786, 0x0fc19dc6, 0x240ca1cc, 0x2de92c6f, 0x4a7484aa, 0x5cb0a9dc, 0x76f988da,
  0x983e5152, 0xa831c66d, 0xb00327c8, 0xbf597fc7, 0xc6e00bf3, 0xd5a79147, 0x06ca6351, 0x14292967,
  0x27b70a85, 0x2e1b2138, 0x4d2c6dfc, 0x53380d13, 0x650a7354, 0x766a0abb, 0x81c2c92e, 0x92722c85,
  0xa2bfe8a1, 0xa81a664b, 0xc24b8b70, 0xc76c51a3, 0xd192e819, 0xd6990624, 0xf40e3585, 0x106aa070,
  0x19a4c116, 0x1e376c08, 0x2748774c, 0x34b0bcb5, 0x391c0cb3, 0x4ed8aa4a, 0x5b9cca4f, 0x682e6ff3,
  0x748f82ee, 0x78a5636f, 0x84c87814, 0x8cc70208, 0x90befffa, 0xa4506ceb, 0xbef9a3f7, 0xc67178f2]

/-! ## One block -/

def rotateRight (x n : UInt32) : UInt32 := (x >>> n) ||| (x <<< (32 - n))

/-- A word made of four bytes, the first one highest. -/
def word (p q r s : UInt8) : UInt32 :=
  p.toUInt32 <<< 24 ||| q.toUInt32 <<< 16 ||| r.toUInt32 <<< 8 ||| s.toUInt32

def words : Bytes → Array UInt32 → Array UInt32
  | p :: q :: r :: s :: rest, acc => words rest (acc.push (word p q r s))
  | _, acc => acc

/-- The next word of the schedule, from the words two, seven, fifteen and sixteen places before. -/
def nextWord (w : Array UInt32) : UInt32 :=
  let n := w.size
  let x := w.getD (n - 15) 0
  let y := w.getD (n - 2) 0
  let s0 := rotateRight x 7 ^^^ rotateRight x 18 ^^^ (x >>> 3)
  let s1 := rotateRight y 17 ^^^ rotateRight y 19 ^^^ (y >>> 10)
  w.getD (n - 16) 0 + s0 + w.getD (n - 7) 0 + s1

/-- Lengthens the schedule by `count` words. -/
def extend : (count : Nat) → Array UInt32 → Array UInt32
  | 0, w => w
  | count + 1, w => extend count (w.push (nextWord w))

def schedule (block : Bytes) : Array UInt32 := extend 48 (words block #[])

/-- One round, with its constant and its word of the schedule. -/
def State.round (s : State) (k w : UInt32) : State :=
  let s1 := rotateRight s.e 6 ^^^ rotateRight s.e 11 ^^^ rotateRight s.e 25
  let choice := (s.e &&& s.f) ^^^ (~~~s.e &&& s.g)
  let t1 := s.h + s1 + choice + k + w
  let s0 := rotateRight s.a 2 ^^^ rotateRight s.a 13 ^^^ rotateRight s.a 22
  let majority := (s.a &&& s.b) ^^^ (s.a &&& s.c) ^^^ (s.b &&& s.c)
  ⟨t1 + (s0 + majority), s.a, s.b, s.c, s.d + t1, s.e, s.f, s.g⟩

def State.add (s t : State) : State :=
  ⟨s.a + t.a, s.b + t.b, s.c + t.c, s.d + t.d, s.e + t.e, s.f + t.f, s.g + t.g, s.h + t.h⟩

/-- The rounds from number `i` on, `count` of them. -/
def rounds (w : Array UInt32) : (count i : Nat) → State → State
  | 0, _, s => s
  | count + 1, i, s => rounds w count (i + 1) (s.round (roundConstants.getD i 0) (w.getD i 0))

/-- Compresses a block of 64 bytes into the state. -/
def compress (s : State) (block : Bytes) : State :=
  s.add (rounds (schedule block) 64 0 s)

/-! ## Padding -/

/-- The zero bytes between the mark and the length. -/
def zeroCount (length : Nat) : Nat := (119 - length % 64) % 64

/-- The low 64 bits of a number as eight bytes, the highest first. -/
def lengthBytes (n : Nat) : Bytes :=
  [56, 48, 40, 32, 24, 16, 8, 0].map fun shift => UInt8.ofNat (n >>> shift)

/-- What is put behind a message of so many bytes: a mark, zeros and the length in bits. -/
def padding (length : Nat) : Bytes :=
  0x80 :: List.replicate (zeroCount length) 0 ++ lengthBytes (8 * length)

def pad (message : Bytes) : Bytes := message ++ padding message.length

/-- Padding completes a block. -/
theorem length_pad_mod (message : Bytes) : (pad message).length % 64 = 0 := by
  simp only [pad, padding, List.length_append, List.length_cons, List.length_replicate, lengthBytes,
    List.length_map, List.length_nil, zeroCount]
  omega

/-! ## The digest of a whole message -/

/-- Compresses the full blocks at the start of a list of bytes, `count` of them. -/
def compressBlocks : (count : Nat) → State → Bytes → State
  | 0, s, _ => s
  | count + 1, s, bs => compressBlocks count (compress s (bs.take 64)) (bs.drop 64)

/-- The four bytes of a word, the highest first. -/
def wordBytes (x : UInt32) : Bytes :=
  [(x >>> 24).toUInt8, (x >>> 16).toUInt8, (x >>> 8).toUInt8, x.toUInt8]

def State.bytes (s : State) : Bytes :=
  [s.a, s.b, s.c, s.d, s.e, s.f, s.g, s.h].flatMap wordBytes

def digest (message : Bytes) : Bytes :=
  (compressBlocks ((pad message).length / 64) .initial (pad message)).bytes

def hexDigest (message : Bytes) : String := Bytes.hex (digest message)

/-! ## Feeding a message piece by piece -/

/-- A digest under way. -/
structure Hasher where
  state : State
  /-- The bytes of the block that is not yet full, the last one first. -/
  pending : Bytes
  filled : Nat
  length : Nat

namespace Hasher

def start : Hasher := ⟨.initial, [], 0, 0⟩

/-- Takes one byte, and compresses the block when it is full. -/
def push (h : Hasher) (b : UInt8) : Hasher :=
  if h.filled + 1 = 64 then
    ⟨compress h.state (b :: h.pending).reverse, [], 0, h.length + 1⟩
  else ⟨h.state, b :: h.pending, h.filled + 1, h.length + 1⟩

/-- Takes a piece of the message. -/
def feed (h : Hasher) (piece : Bytes) : Hasher := piece.foldl push h

/-- The digest of all that was fed; the hasher itself can be fed further. -/
def finish (h : Hasher) : Bytes := (h.feed (padding h.length)).state.bytes

def hexDigest (h : Hasher) : String := Bytes.hex h.finish

/-- Feeding two pieces is feeding them joined. -/
theorem feed_append (h : Hasher) (p q : Bytes) : h.feed (p ++ q) = (h.feed p).feed q := by
  simp [feed]

@[simp] theorem feed_nil (h : Hasher) : h.feed [] = h := rfl

end Hasher

end ContentCache.Sha256
