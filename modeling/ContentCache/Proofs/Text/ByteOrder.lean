import ContentCache.Bytes
import ContentCache.Label

/-!
# The order of texts and of their bytes

The bytes of a character are digits of its number: the first byte has the highest ones and tells how many
bytes follow, and each of the others has six bits. So the bytes of a character with a larger number come
later, whatever follows them, and texts are in the same order as their bytes, whether they are compared
character by character or byte by byte.

* `Bytes.lead`, `Bytes.continued`: the first byte of a character, and a byte more.
* `Bytes.Ordered`: the bytes of numbers are in the order of the numbers.

Main statement: `Bytes.ofText_lt_iff`, with `utf8EncodeChar_append_lt` (the bytes of two characters).
-/

namespace ContentCache.Bytes

theorem ofText_eq_flatMap (s : String) : ofText s = s.toList.flatMap String.utf8EncodeChar := by
  have h : s.toUTF8 = s.toList.utf8Encode := String.utf8Encode_toList.symm
  rw [ofText, h]
  simp [List.utf8Encode]

/-! ## The bytes of a character -/

/-- A first byte, which holds its digits above a mark. -/
def lead (mark n : Nat) : Bytes := [UInt8.ofNat (n + mark)]

/-- One byte more, which holds the lowest six bits. -/
def continued (front : Nat → Bytes) (n : Nat) : Bytes := front (n / 64) ++ [UInt8.ofNat (n % 64 + 128)]

/-- The bytes of a character with a number. -/
def encoded (n : Nat) : Bytes :=
  if n < 0x80 then lead 0 n
  else if n < 0x800 then continued (lead 0xC0) n
  else if n < 0x10000 then continued (continued (lead 0xE0)) n
  else continued (continued (continued (lead 0xF0))) n

theorem toNat_lt (c : Char) : c.toNat < 0x110000 := by
  have h := c.valid
  simp only [UInt32.isValidChar, Nat.isValidChar] at h
  show c.val.toNat < _
  omega

theorem utf8EncodeChar_eq (c : Char) : String.utf8EncodeChar c = encoded c.toNat := by
  have hbound : c.val.toNat < 0x110000 := toNat_lt c
  have hnumber : c.toNat = c.val.toNat := rfl
  unfold String.utf8EncodeChar encoded
  rw [hnumber]
  generalize c.val.toNat = n at hbound
  simp only [← Nat.lt_succ_iff, Nat.succ_eq_add_one, Nat.reduceAdd, lead, continued,
    Nat.div_div_eq_div_mul, Nat.reduceMul, Nat.add_zero]
  by_cases h1 : n < 128
  · simp only [h1, if_true]
  · by_cases h2 : n < 2048
    · have hlead : n / 64 % 32 = n / 64 := Nat.mod_eq_of_lt (by omega)
      simp [h1, h2, hlead]
    · by_cases h3 : n < 65536
      · have hlead : n / 4096 % 16 = n / 4096 := Nat.mod_eq_of_lt (by omega)
        simp [h1, h2, h3, hlead]
      · have hlead : n / 262144 % 8 = n / 262144 := Nat.mod_eq_of_lt (by omega)
        simp [h1, h2, h3, hlead]

/-! ## Their order -/

theorem ofNat_lt {m n : Nat} (h : m < n) (hn : n < 256) : UInt8.ofNat m < UInt8.ofNat n := by
  rw [UInt8.lt_iff_toNat_lt, UInt8.toNat_ofNat', UInt8.toNat_ofNat']
  omega

/-- The bytes of numbers below a bound are in the order of the numbers, whatever follows them. -/
def Ordered (bound : Nat) (f : Nat → Bytes) : Prop :=
  ∀ m n, m < n → n < bound → ∀ x y : Bytes, f m ++ x < f n ++ y

theorem lead_lt {mark other m n : Nat} (h : m + mark < n + other) (hn : n + other < 256) (x y : Bytes) :
    lead mark m ++ x < lead other n ++ y :=
  List.cons_lt_cons_iff.2 (.inl (ofNat_lt h hn))

theorem lead_ordered {bound mark : Nat} (h : bound + mark ≤ 256) : Ordered bound (lead mark) :=
  fun _ _ hmn hn x y => lead_lt (by omega) (by omega) x y

/-- A byte more decides between numbers that have the same higher bits. -/
theorem Ordered.continued {bound : Nat} {f : Nat → Bytes} (h : Ordered bound f) :
    Ordered (64 * bound) (continued f) := by
  intro m n hmn hn x y
  rw [Bytes.continued, Bytes.continued, List.append_assoc, List.append_assoc]
  rcases Nat.lt_or_ge (m / 64) (n / 64) with hlt | hge
  · exact h _ _ hlt (by omega) _ _
  · have hsame : m / 64 = n / 64 := by omega
    rw [hsame]
    exact List.append_left_lt (List.cons_lt_cons_iff.2 (.inl (ofNat_lt (by omega) (by omega))))

/-- **The bytes of characters are in the order of their numbers.** -/
theorem encoded_ordered : Ordered 0x110000 encoded := by
  have one : Ordered 0x80 (lead 0) := lead_ordered (by decide)
  have two : Ordered 0x20 (lead 0xC0) := lead_ordered (by decide)
  have three : Ordered 0x10 (lead 0xE0) := lead_ordered (by decide)
  have four : Ordered 0x8 (lead 0xF0) := lead_ordered (by decide)
  intro m n hmn hn x y
  unfold encoded
  -- Numbers with as many bytes are compared by their digits, the others by the marks of their first bytes.
  split
  · split
    · exact one m n hmn (by omega) x y
    · split
      · rw [Bytes.continued, List.append_assoc]
        exact lead_lt (by omega) (by omega) _ _
      · split <;> simp only [Bytes.continued, List.append_assoc] <;>
          exact lead_lt (by omega) (by omega) _ _
  · rw [if_neg (c := n < 0x80) (by omega)]
    split
    · split
      · exact two.continued m n hmn (by omega) x y
      · split <;> simp only [Bytes.continued, List.append_assoc] <;>
          exact lead_lt (by omega) (by omega) _ _
    · rw [if_neg (c := n < 0x800) (by omega)]
      split
      · split
        · exact three.continued.continued m n hmn (by omega) x y
        · simp only [Bytes.continued, List.append_assoc]
          exact lead_lt (by omega) (by omega) _ _
      · rw [if_neg (c := n < 0x10000) (by omega)]
        exact four.continued.continued.continued m n hmn (by omega) x y

theorem utf8EncodeChar_append_lt {c d : Char} (h : c < d) (x y : Bytes) :
    String.utf8EncodeChar c ++ x < String.utf8EncodeChar d ++ y := by
  rw [utf8EncodeChar_eq, utf8EncodeChar_eq]
  exact encoded_ordered _ _ h (toNat_lt d) x y

theorem flatMap_utf8EncodeChar_lt {cs ds : List Char} (h : cs < ds) :
    cs.flatMap String.utf8EncodeChar < ds.flatMap String.utf8EncodeChar := by
  induction cs generalizing ds with
  | nil =>
    cases ds with
    | nil => exact absurd h (List.lt_irrefl [])
    | cons d ds =>
      rw [List.flatMap_nil, List.flatMap_cons]
      obtain ⟨b, rest, hd⟩ := List.exists_cons_of_ne_nil (String.utf8EncodeChar_ne_nil (c := d))
      rw [hd]
      exact List.nil_lt_cons _ _
  | cons c cs ih =>
    cases ds with
    | nil => exact absurd h (List.not_lt_nil _)
    | cons d ds =>
      rw [List.flatMap_cons, List.flatMap_cons]
      rcases List.cons_lt_cons_iff.1 h with hfirst | ⟨rfl, hrest⟩
      · exact utf8EncodeChar_append_lt hfirst _ _
      · exact List.append_left_lt (ih hrest)

/-- **Texts are in the same order as their bytes.** -/
theorem ofText_lt_iff {s t : String} : ofText s < ofText t ↔ s < t := by
  have hlt {s t : String} (h : s < t) : ofText s < ofText t := by
    rw [ofText_eq_flatMap, ofText_eq_flatMap]
    exact flatMap_utf8EncodeChar_lt (String.lt_iff.1 h)
  refine ⟨fun h => ?_, hlt⟩
  by_cases hst : s < t
  · exact hst
  · by_cases hsame : s = t
    · exact absurd (hsame ▸ h) (List.lt_irrefl _)
    · exact absurd h (List.lt_asymm (hlt (string_lt_of_not_lt hst hsame)))

end ContentCache.Bytes
