/-!
# Bytes

Content is a list of bytes. This module holds the bytes of a text, the two ways of reading a text
back (strict, and with every malformed sequence replaced), and lower-case hexadecimal. Where malformed
sequences are replaced a byte order mark may say that a text is in UTF-16.

Main statements: `text?_ofText` (a text is read back from its bytes) and `hexDigits_length` (two digits
a byte).
-/

namespace ContentCache

/-- Content, as the list of its bytes. -/
abbrev Bytes := List UInt8

namespace Bytes

def ofText (s : String) : Bytes := s.toUTF8.data.toList

/-- The text whose UTF-8 bytes these are; nothing when they are not well-formed UTF-8. -/
def text? (bs : Bytes) : Option String := String.fromUTF8? ⟨bs.toArray⟩

@[simp] theorem text?_ofText (s : String) : text? (ofText s) = some s := by
  have hbytes : (⟨(ofText s).toArray⟩ : ByteArray) = s.toByteArray := by
    rw [ofText, Array.toArray_toList]
    rfl
  rw [text?, hbytes, String.fromUTF8?, dif_pos s.isValidUTF8]
  rfl

/-! ## Hexadecimal -/

def hexDigit (n : Nat) : Char :=
  if n < 10 then Char.ofNat (48 + n) else Char.ofNat (87 + n)

def hexByte (b : UInt8) : List Char := [hexDigit (b.toNat / 16), hexDigit (b.toNat % 16)]

def hexDigits (bs : Bytes) : List Char := bs.flatMap hexByte

def hex (bs : Bytes) : String := String.ofList bs.hexDigits

theorem hexDigits_length (bs : Bytes) : (hexDigits bs).length = 2 * bs.length := by
  induction bs with
  | nil => rfl
  | cons b bs ih =>
    have h : hexDigits (b :: bs) = hexByte b ++ hexDigits bs := by simp [hexDigits]
    rw [h, List.length_append, ih]
    simp [hexByte]
    omega

/-! ## Reading text with replacement -/

/-- A continuation byte of a sequence, within the range that its lead byte allows. -/
def continues (lo hi b : UInt8) : Bool := lo ≤ b && b ≤ hi

def replacement : Char := Char.ofNat 0xFFFD

/-- The range of the second byte after a lead byte of a three- or four-byte sequence: it excludes
overlong forms, surrogates and code points past the last plane. -/
def secondRange (lead : UInt8) : UInt8 × UInt8 :=
  if lead = 0xE0 then (0xA0, 0xBF)
  else if lead = 0xED then (0x80, 0x9F)
  else if lead = 0xF0 then (0x90, 0xBF)
  else if lead = 0xF4 then (0x80, 0x8F)
  else (0x80, 0xBF)

/-- The character made of a lead byte's low bits and the low six bits of each byte after it. -/
def assemble (lead : Nat) (rest : List UInt8) : Char :=
  Char.ofNat (rest.foldl (fun acc b => acc * 64 + b.toNat % 64) lead)

/-- The first character of a non-empty content and how many bytes it took. A malformed sequence
takes its longest well-formed beginning, at least one byte, and is no character. -/
def firstChar : (bs : Bytes) → Option Char × Nat
  | [] => (none, 0)
  | b :: rest =>
    if b < 0x80 then (some (Char.ofNat b.toNat), 1)
    else if 0xC2 ≤ b && b ≤ 0xDF then
      match rest with
      | c :: _ => if continues 0x80 0xBF c then (some (assemble (b.toNat - 0xC0) [c]), 2) else (none, 1)
      | [] => (none, 1)
    else if 0xE0 ≤ b && b ≤ 0xEF then
      let (lo, hi) := secondRange b
      match rest with
      | c :: d :: _ =>
        if continues lo hi c then
          if continues 0x80 0xBF d then (some (assemble (b.toNat - 0xE0) [c, d]), 3) else (none, 2)
        else (none, 1)
      | [c] => (none, if continues lo hi c then 2 else 1)
      | [] => (none, 1)
    else if 0xF0 ≤ b && b ≤ 0xF4 then
      let (lo, hi) := secondRange b
      match rest with
      | c :: d :: e :: _ =>
        if continues lo hi c then
          if continues 0x80 0xBF d then
            if continues 0x80 0xBF e then (some (assemble (b.toNat - 0xF0) [c, d, e]), 4) else (none, 3)
          else (none, 2)
        else (none, 1)
      | [c, d] => (none, if continues lo hi c then (if continues 0x80 0xBF d then 3 else 2) else 1)
      | [c] => (none, if continues lo hi c then 2 else 1)
      | [] => (none, 1)
    else (none, 1)

/-- The characters of a content and its malformed sequences; `acc` holds those read so far, last
first. Every step takes at least one byte, so the content's length bounds the number of steps. -/
def charsLoop : (steps : Nat) → Bytes → List (Option Char) → List (Option Char)
  | 0, _, acc => acc.reverse
  | _ + 1, [], acc => acc.reverse
  | steps + 1, b :: rest, acc =>
    let (c, n) := firstChar (b :: rest)
    charsLoop steps ((b :: rest).drop n) (c :: acc)

/-- The characters of a content, and nothing for each malformed sequence among them. -/
def chars (bs : Bytes) : List (Option Char) := charsLoop bs.length bs []

/-- The content as text: a leading byte order mark is dropped and malformed UTF-8 is replaced. -/
def lossyText (bs : Bytes) : String :=
  let body := if bs.take 3 = [0xEF, 0xBB, 0xBF] then bs.drop 3 else bs
  String.ofList ((chars body).map (·.getD replacement))

/-! ## UTF-16 -/

/-- The 16-bit units of a content, and whether a byte is left over. -/
def units (bigEndian : Bool) : Bytes → List Nat × Bool
  | [] => ([], false)
  | [_] => ([], true)
  | a :: b :: rest =>
    let (us, odd) := units bigEndian rest
    ((if bigEndian then a.toNat * 256 + b.toNat else b.toNat * 256 + a.toNat) :: us, odd)

/-- The characters of 16-bit units. A surrogate without its partner reads as the replacement, and so does
what is cut off at the end. -/
def unitChars : (units : List Nat) → (odd : Bool) → List Char
  | [], odd => if odd then [replacement] else []
  | u :: rest, odd =>
    if 0xDC00 ≤ u && u ≤ 0xDFFF then replacement :: unitChars rest odd
    else if 0xD800 ≤ u && u ≤ 0xDBFF then
      match rest with
      | [] => [replacement]
      | v :: rest =>
        if 0xDC00 ≤ v && v ≤ 0xDFFF then
          Char.ofNat (0x10000 + (u - 0xD800) * 0x400 + (v - 0xDC00)) :: unitChars rest odd
        else replacement :: unitChars (v :: rest) odd
    else Char.ofNat u :: unitChars rest odd

/-- The content as text in the encoding that its byte order mark says, which is UTF-8 without one. -/
def markedText : Bytes → String
  | 0xFF :: 0xFE :: rest => let (us, odd) := units false rest; String.ofList (unitChars us odd)
  | 0xFE :: 0xFF :: rest => let (us, odd) := units true rest; String.ofList (unitChars us odd)
  | bs => lossyText bs

end Bytes

end ContentCache
