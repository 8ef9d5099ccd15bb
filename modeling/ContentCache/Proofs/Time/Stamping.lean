import ContentCache.Time.Stamp

/-!
# The form of a stamp

A stamp of a year from 0 to 9999 has fields of fixed width, each with the decimal digits of a number.

* `Text.Shows`: characters are the decimal digits of a number, in a given width.
* `Instant.IsStamp`: characters are the stamp of an instant, field by field.

Main statements: `fixedChars_shows` (a number that fits its width is shown), `ofDays_month` and
`ofDays_day` (the fields of a date lie in their ranges) and `isStamp_stamp`.
-/

namespace ContentCache

namespace Text

/-! ## Numbers of a fixed width -/

/-- Characters are the decimal digits of a number, with zeros in front up to a width. -/
structure Shows (width n : Nat) (cs : List Char) : Prop where
  length : cs.length = width
  digits : ∀ c ∈ cs, c.isDigit = true
  value : ofDigits cs = n

theorem digit_isDigit (n : Nat) : (digit n).isDigit = true ∧ digitValue (digit n) = n % 10 := by
  have h : ∀ d < 10, (Char.ofNat (48 + d)).isDigit = true ∧ digitValue (Char.ofNat (48 + d)) = d := by
    decide
  exact h (n % 10) (Nat.mod_lt _ (by decide))

theorem ofDigits_snoc (cs : List Char) (c : Char) :
    ofDigits (cs ++ [c]) = ofDigits cs * 10 + digitValue c := by
  simp [ofDigits]

/-- The last digits of a number denote its remainder. -/
theorem ofDigits_fixedChars (width n : Nat) : ofDigits (fixedChars width n) = n % Nat.pow 10 width := by
  induction width generalizing n with
  | zero => exact (Nat.mod_one n).symm
  | succ width ih =>
    have hpow : Nat.pow 10 (width + 1) = 10 * Nat.pow 10 width := Nat.mul_comm ..
    rw [fixedChars, ofDigits_snoc, ih, (digit_isDigit n).2, hpow, Nat.mod_mul]
    omega

theorem fixedChars_digits (width n : Nat) : ∀ c ∈ fixedChars width n, c.isDigit = true := by
  induction width generalizing n with
  | zero => simp [fixedChars]
  | succ width ih =>
    intro c hc
    rcases List.mem_append.1 hc with hc | hc
    · exact ih _ c hc
    · rw [List.mem_singleton.1 hc]
      exact (digit_isDigit n).1

/-- **A number that fits its width is shown.** -/
theorem fixedChars_shows {width n : Nat} (h : n < Nat.pow 10 width) :
    Shows width n (fixedChars width n) where
  length := fixedChars_length width n
  digits := fixedChars_digits width n
  value := (ofDigits_fixedChars width n).trans (Nat.mod_eq_of_lt h)

end Text

namespace Time

/-! ## The ranges of the fields -/

/-- The days of a year are counted as far as the twelve months go. -/
theorem dayOfYear_le {dayOfEra yearOfEra : Nat} (h : dayOfEra < 146097)
    (hy : yearOfEra = (dayOfEra - dayOfEra / 1460 + dayOfEra / 36524 - dayOfEra / 146096) / 365) :
    dayOfEra - (365 * yearOfEra + yearOfEra / 4 - yearOfEra / 100) ≤ 366 := by
  omega

/-- The months of the dates are those of the calendar. -/
theorem ofDays_month (days : Int) :
    1 ≤ (Date.ofDays days).month ∧ (Date.ofDays days).month ≤ 12 := by
  have hera : (days + 719468 - (days + 719468) / 146097 * 146097).toNat < 146097 := by omega
  have hyear := dayOfYear_le hera rfl
  unfold Date.ofDays
  simp only
  generalize (days + 719468 - (days + 719468) / 146097 * 146097).toNat -
    (365 * _ + _ / 4 - _ / 100) = dayOfYear at hyear ⊢
  split <;> omega

/-- The days of the dates are those of a month. -/
theorem ofDays_day (days : Int) : 1 ≤ (Date.ofDays days).day ∧ (Date.ofDays days).day ≤ 31 := by
  unfold Date.ofDays
  simp only
  omega

namespace Instant

theorem secondOfDay_lt (i : Instant) : i.secondOfDay < 86400 := by
  unfold secondOfDay
  omega

theorem hour_lt (i : Instant) : i.hour < 24 := by
  have := i.secondOfDay_lt
  unfold hour
  omega

theorem minute_lt (i : Instant) : i.minute < 60 := by
  unfold minute
  omega

/-- A minute with a leap second has 61 seconds. -/
theorem second_le (i : Instant) : i.second ≤ 60 := by
  obtain ⟨-, -, hnanos⟩ := i.parts
  unfold second
  omega

theorem fraction_lt (i : Instant) : i.fraction < 1000000000 := by
  unfold fraction
  omega

/-! ## The stamp -/

/-- Characters are the stamp of an instant: year, month and day, a mark, hour, minute and second, and
after a point all nine decimals, with a mark for the zone. -/
def IsStamp (i : Instant) (cs : List Char) : Prop :=
  ∃ year month day hour minute second fraction,
    cs = year ++ month ++ day ++ 'T' :: (hour ++ minute ++ second) ++ '.' :: (fraction ++ ['Z']) ∧
    Text.Shows 4 i.date.year.toNat year ∧ Text.Shows 2 i.date.month month ∧
    Text.Shows 2 i.date.day day ∧ Text.Shows 2 i.hour hour ∧ Text.Shows 2 i.minute minute ∧
    Text.Shows 2 i.second second ∧ Text.Shows 9 i.fraction fraction

/-- **The stamp of an instant of a year from 0 to 9999** has its fixed form. -/
theorem isStamp_stamp {i : Instant} (h : 0 ≤ i.date.year ∧ i.date.year ≤ 9999) :
    i.IsStamp i.stamp.toList := by
  have hyear : yearText i.date.year = Text.fixed 4 i.date.year.toNat := by simp [yearText, h]
  have hmonth := ofDays_month i.day
  have hday := ofDays_day i.day
  have hhour := i.hour_lt
  have hminute := i.minute_lt
  have hsecond := i.second_le
  have hfraction := i.fraction_lt
  refine ⟨Text.fixedChars 4 _, Text.fixedChars 2 _, Text.fixedChars 2 _, Text.fixedChars 2 _,
    Text.fixedChars 2 _, Text.fixedChars 2 _, Text.fixedChars 9 _, ?_,
    Text.fixedChars_shows ?_, Text.fixedChars_shows ?_, Text.fixedChars_shows ?_,
    Text.fixedChars_shows ?_, Text.fixedChars_shows ?_, Text.fixedChars_shows ?_,
    Text.fixedChars_shows ?_⟩
  · simp [stamp, hyear, Text.fixed]
  · show _ < 10000
    omega
  · show i.date.month < 100
    unfold date
    omega
  · show i.date.day < 100
    unfold date
    omega
  · show i.hour < 100
    omega
  · show i.minute < 100
    omega
  · show i.second < 100
    omega
  · exact hfraction

end Instant

end Time

end ContentCache
