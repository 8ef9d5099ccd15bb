import ContentCache.Proofs.Time.Dating

/-!
# The order of stamps

Stamps are compared as texts, character by character. As all their fields have a fixed width and stand in
the order of their weight, the stamps of years 0 to 9999 are ordered like their instants, leap seconds
included.

Main statements: `Text.fixedChars_append_lt` (numbers of a fixed width are compared like their digits),
`Instant.clock_isBefore` (the fields of the time of day) and `Instant.stamp_lt`.
-/

namespace ContentCache

namespace Text

/-! ## Numbers of a fixed width -/

/-- What follows texts of one length makes no difference when they are not the same. -/
theorem append_lt_append {a b : List Char} (hlength : a.length = b.length) (h : a < b)
    (x y : List Char) : a ++ x < b ++ y := by
  induction a generalizing b with
  | nil =>
    obtain rfl := List.length_eq_zero_iff.1 hlength.symm
    exact absurd h (List.lt_irrefl [])
  | cons c a ih =>
    cases b with
    | nil => simp at hlength
    | cons d b =>
      rw [List.cons_append, List.cons_append, List.cons_lt_cons_iff]
      rcases List.cons_lt_cons_iff.1 h with h | ⟨hcd, h⟩
      · exact .inl h
      · exact .inr ⟨hcd, ih (Nat.succ.inj hlength) h⟩

theorem digit_lt {m n : Nat} (h : m % 10 < n % 10) : digit m < digit n := by
  have hdigits : ∀ b < 10, ∀ a < b, Char.ofNat (48 + a) < Char.ofNat (48 + b) := by decide
  exact hdigits _ (Nat.mod_lt _ (by decide)) _ h

/-- The digits of a smaller number come first. -/
theorem fixedChars_lt {width m n : Nat} (h : m < n) (hn : n < Nat.pow 10 width) :
    fixedChars width m < fixedChars width n := by
  induction width generalizing m n with
  | zero =>
    have : n < 1 := hn
    omega
  | succ width ih =>
    have hpow : Nat.pow 10 (width + 1) = Nat.pow 10 width * 10 := rfl
    have hn' : n / 10 < Nat.pow 10 width := by omega
    rw [fixedChars, fixedChars]
    rcases Nat.lt_or_ge (m / 10) (n / 10) with hlt | hge
    · exact append_lt_append (by simp [fixedChars_length]) (ih hlt hn') _ _
    · have hsame : m / 10 = n / 10 := by omega
      rw [hsame]
      exact List.append_left_lt (List.cons_lt_cons_iff.2 (.inl (digit_lt (by omega))))

/-- **Numbers of a fixed width**: the smaller one comes first, and with one number what follows
decides. -/
theorem fixedChars_append_lt {width m n : Nat} {x y : List Char} (hn : n < Nat.pow 10 width)
    (h : m < n ∨ m = n ∧ x < y) : fixedChars width m ++ x < fixedChars width n ++ y := by
  rcases h with h | ⟨rfl, h⟩
  · exact append_lt_append (by simp [fixedChars_length]) (fixedChars_lt h hn) x y
  · exact List.append_left_lt h

end Text

namespace Time.Instant

variable {a b : Instant}

/-! ## The fields of an instant -/

/-- **The time of day** of an earlier instant of the same day comes first, field by field. A leap second is
told as second 60 of its minute, so that it comes behind all others. -/
theorem clock_isBefore (hday : a.day = b.day) (h : a.isBefore b = true) :
    a.hour < b.hour ∨ a.hour = b.hour ∧ (a.minute < b.minute ∨ a.minute = b.minute ∧
      (a.second < b.second ∨ a.second = b.second ∧ a.fraction < b.fraction)) := by
  rw [isBefore_iff] at h
  obtain ⟨-, -, hleap⟩ := a.parts
  unfold day at hday
  unfold hour minute second fraction secondOfDay
  omega

/-- An earlier instant has an earlier date, or the same one and an earlier time of day. -/
theorem date_isBefore (h : a.isBefore b = true) :
    a.date.isBefore b.date ∨ a.date = b.date ∧ a.day = b.day := by
  have hday : a.day ≤ b.day := by
    rw [isBefore_iff] at h
    unfold day
    omega
  rcases Int.lt_or_eq_of_le hday with hlt | heq
  · exact .inl (ofDays_isBefore hlt)
  · exact .inr ⟨congrArg Date.ofDays heq, heq⟩

/-! ## Stamps -/

theorem stamp_toList {i : Instant} (hyear : 0 ≤ i.date.year ∧ i.date.year ≤ 9999) :
    i.stamp.toList = Text.fixedChars 4 i.date.year.toNat ++ (Text.fixedChars 2 i.date.month ++
      (Text.fixedChars 2 i.date.day ++ 'T' :: (Text.fixedChars 2 i.hour ++ (Text.fixedChars 2 i.minute ++
        (Text.fixedChars 2 i.second ++ '.' :: (Text.fixedChars 9 i.fraction ++ ['Z'])))))) := by
  simp [stamp, yearText, hyear, Text.fixed]

/-- **The stamp of an earlier instant comes first.** -/
theorem stamp_lt (ha : 0 ≤ a.date.year ∧ a.date.year ≤ 9999)
    (hb : 0 ≤ b.date.year ∧ b.date.year ≤ 9999) (h : a.isBefore b = true) :
    a.stamp.toList < b.stamp.toList := by
  have hfields : a.date.year.toNat < b.date.year.toNat ∨ a.date.year.toNat = b.date.year.toNat ∧
      (a.date.month < b.date.month ∨ a.date.month = b.date.month ∧
        (a.date.day < b.date.day ∨ a.date.day = b.date.day ∧
          (a.hour < b.hour ∨ a.hour = b.hour ∧ (a.minute < b.minute ∨ a.minute = b.minute ∧
            (a.second < b.second ∨ a.second = b.second ∧ a.fraction < b.fraction))))) := by
    rcases date_isBefore h with hdate | ⟨hdate, hday⟩
    · unfold Date.isBefore at hdate
      omega
    · rw [hdate]
      exact .inr ⟨rfl, .inr ⟨rfl, .inr ⟨rfl, clock_isBefore hday h⟩⟩⟩
  have hwidths : b.date.year.toNat < 10000 ∧ b.date.month < 100 ∧ b.date.day < 100 ∧ b.hour < 100 ∧
      b.minute < 100 ∧ b.second < 100 := by
    have hmonth : b.date.month ≤ 12 := (ofDays_month b.day).2
    have hday : b.date.day ≤ 31 := (ofDays_day b.day).2
    have hhour := b.hour_lt
    have hminute := b.minute_lt
    have hsecond := b.second_le
    omega
  obtain ⟨hyear, hmonth, hday, hhour, hminute, hsecond⟩ := hwidths
  rw [stamp_toList ha, stamp_toList hb]
  refine Text.fixedChars_append_lt hyear (hfields.imp_right (And.imp_right fun h => ?_))
  refine Text.fixedChars_append_lt hmonth (h.imp_right (And.imp_right fun h => ?_))
  refine Text.fixedChars_append_lt hday (h.imp_right (And.imp_right fun h => ?_))
  refine List.cons_lt_cons_iff.2 (.inr ⟨rfl, ?_⟩)
  refine Text.fixedChars_append_lt hhour (h.imp_right (And.imp_right fun h => ?_))
  refine Text.fixedChars_append_lt hminute (h.imp_right (And.imp_right fun h => ?_))
  refine Text.fixedChars_append_lt hsecond (h.imp_right (And.imp_right fun h => ?_))
  refine List.cons_lt_cons_iff.2 (.inr ⟨rfl, ?_⟩)
  exact Text.fixedChars_append_lt b.fraction_lt (.inl h)

end Time.Instant

end ContentCache
