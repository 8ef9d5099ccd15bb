import ContentCache.Proofs.Time.Stamping

/-!
# The order of dates

Later days have later dates. The date of a day is found in an era of four hundred years that begin in
March, so that a leap day is the last one of its year; the year is then told apart from its neighbours by
the days at which they begin.

* `Date.isBefore`: one date is earlier than another one.
* `marchYear`, `marchStart`: the year of a day when years begin in March, and the day at which a year begins.

Main statements: `marchYear_bounds` (a day lies in its year) and `ofDays_isBefore`.
-/

namespace ContentCache.Time

/-- An earlier date: an earlier year, or an earlier month of the same year, or an earlier day of it. -/
def Date.isBefore (d e : Date) : Prop :=
  d.year < e.year ∨ d.year = e.year ∧ (d.month < e.month ∨ d.month = e.month ∧ d.day < e.day)

/-! ## The years of an era -/

/-- The days of an era fall into centuries, and these into groups of four years. The last day of an era
belongs to its last group. -/
theorem exists_groups {day : Nat} (h : day < 146097) :
    ∃ century group rest, day = 36524 * century + 1461 * group + rest ∧ century ≤ 3 ∧ group ≤ 24 ∧
      rest ≤ 1460 ∧ (rest = 1460 → group ≤ 23 ∨ century = 3) := by
  by_cases hlast : day = 146096
  · exact ⟨3, 24, 1460, by omega, by omega, by omega, by omega, by omega⟩
  · exact ⟨day / 36524, day % 36524 / 1461, day % 36524 % 1461, by omega, by omega, by omega, by omega,
      by omega⟩

variable {century group rest : Nat}

theorem div_1460 (hcentury : century ≤ 3) (hgroup : group ≤ 24) (hrest : rest ≤ 1460) :
    (36524 * century + 1461 * group + rest) / 1460 =
      25 * century + group + if 1460 ≤ 24 * century + group + rest then 1 else 0 := by
  have h : 36524 * century + 1461 * group + rest =
      1460 * (25 * century + group) + (24 * century + group + rest) := by omega
  rw [h, Nat.mul_add_div (by decide)]
  split <;> omega

theorem div_36524 (hcentury : century ≤ 3) (hgroup : group ≤ 24) (hrest : rest ≤ 1460)
    (hlast : rest = 1460 → group ≤ 23 ∨ century = 3) :
    (36524 * century + 1461 * group + rest) / 36524 =
      century + (36524 * century + 1461 * group + rest) / 146096 := by
  rw [Nat.add_assoc, Nat.mul_add_div (by decide)]
  by_cases h : 1461 * group + rest < 36524
  · rw [Nat.div_eq_of_lt h, Nat.div_eq_of_lt (by omega)]
  · obtain ⟨rfl, rfl, rfl⟩ : century = 3 ∧ group = 24 ∧ rest = 1460 := by omega
    rfl

/-- The year of an era that a day lies in, by its century and group. A day is taken off where the last one
of a group would begin another year. -/
theorem yearOfEra_eq (hcentury : century ≤ 3) (hgroup : group ≤ 24) (hrest : rest ≤ 1460)
    (hlast : rest = 1460 → group ≤ 23 ∨ century = 3) {day : Nat}
    (hday : day = 36524 * century + 1461 * group + rest) :
    (day - day / 1460 + day / 36524 - day / 146096) / 365 = 100 * century + 4 * group +
      (rest - if 1460 ≤ 24 * century + group + rest then 1 else 0) / 365 := by
  have h : day - day / 1460 + day / 36524 - day / 146096 = 365 * (100 * century + 4 * group) +
      (rest - if 1460 ≤ 24 * century + group + rest then 1 else 0) := by
    have h1460 := div_1460 hcentury hgroup hrest
    have h36524 := div_36524 hcentury hgroup hrest hlast
    rw [← hday] at h1460 h36524
    rw [h1460, h36524]
    clear h1460 h36524
    generalize day / 146096 = n
    split <;> omega
  rw [h, Nat.mul_add_div (by decide)]

/-- **A day of an era lies in its year**: not before its first day, and before the first one of the next
year. -/
theorem yearOfEra_bounds {day year : Nat} (h : day < 146097)
    (hyear : year = (day - day / 1460 + day / 36524 - day / 146096) / 365) :
    year < 400 ∧ 365 * year + year / 4 - year / 100 ≤ day ∧
      day < 365 * (year + 1) + (year + 1) / 4 - (year + 1) / 100 + (year + 1) / 400 := by
  obtain ⟨century, group, rest, hday, hcentury, hgroup, hrest, hlast⟩ := exists_groups h
  rw [yearOfEra_eq hcentury hgroup hrest hlast hday] at hyear
  obtain ⟨k, hk, hyear, hlow, hhigh⟩ : ∃ k ≤ 3, year = 100 * century + 4 * group + k ∧
      365 * k ≤ rest ∧ (rest < 365 * (k + 1) ∨ k = 3 ∧ rest = 1460) := by
    refine ⟨_, ?_, hyear, ?_, ?_⟩ <;> split <;> omega
  clear h
  have h4 : year / 4 = 25 * century + group := by omega
  have h100 : year / 100 = century := by omega
  refine ⟨by omega, by omega, ?_⟩
  by_cases hleap : k = 3
  · subst hleap
    have h4 : (year + 1) / 4 = 25 * century + group + 1 := by omega
    -- The last group of a century is followed by a leap year in the last century only.
    by_cases hgroup : group = 24
    · subst hgroup
      have h100 : (year + 1) / 100 = century + 1 := by omega
      have h400 : (year + 1) / 400 = (century + 1) / 4 := by omega
      rw [h4, h100, h400]
      omega
    · have h100 : (year + 1) / 100 = century := by omega
      omega
  · have h4 : (year + 1) / 4 = 25 * century + group := by omega
    have h100 : (year + 1) / 100 = century := by omega
    omega

/-! ## Years that begin in March -/

/-- The days from 1 March of year 0 to 1 March of a year. -/
def marchStart (year : Int) : Int := 365 * year + year / 4 - year / 100 + year / 400

/-- The year that a day lies in when years begin in March. -/
def marchYear (days : Int) : Int :=
  let era := (days + 719468) / 146097
  let dayOfEra := (days + 719468 - era * 146097).toNat
  let yearOfEra := (dayOfEra - dayOfEra / 1460 + dayOfEra / 36524 - dayOfEra / 146096) / 365
  yearOfEra + era * 400

/-- The date of a day of a year that begins in March. -/
def ofMarch (year : Int) (day : Nat) : Date :=
  let monthFromMarch := (5 * day + 2) / 153
  let month := if monthFromMarch < 10 then monthFromMarch + 3 else monthFromMarch - 9
  ⟨year + (if month ≤ 2 then 1 else 0), month, day - (153 * monthFromMarch + 2) / 5 + 1⟩

theorem marchStart_mono {a b : Int} (h : a ≤ b) : marchStart a ≤ marchStart b := by
  unfold marchStart
  omega

/-- Every era has the same number of days. -/
theorem marchStart_era (year : Nat) (era : Int) : marchStart (year + era * 400) =
    era * 146097 + (365 * year + year / 4 - year / 100 + year / 400 : Nat) := by
  unfold marchStart
  omega

/-- **A day lies in its year**, and its date is that of the days that have gone by since the year began. -/
theorem marchYear_bounds (days : Int) :
    marchStart (marchYear days) ≤ days + 719468 ∧ days + 719468 < marchStart (marchYear days + 1) ∧
      Date.ofDays days =
        ofMarch (marchYear days) (days + 719468 - marchStart (marchYear days)).toNat := by
  obtain ⟨era, hera⟩ : ∃ era, era = (days + 719468) / 146097 := ⟨_, rfl⟩
  obtain ⟨day, hday⟩ : ∃ day, day = (days + 719468 - era * 146097).toNat := ⟨_, rfl⟩
  have hin : day < 146097 := by omega
  have hdays : days + 719468 = era * 146097 + day := by omega
  obtain ⟨year, hyear⟩ :
      ∃ year, year = (day - day / 1460 + day / 36524 - day / 146096) / 365 := ⟨_, rfl⟩
  have hmarch : marchYear days = year + era * 400 := by
    rw [marchYear, ← hera, ← hday, ← hyear]
  have hdate : Date.ofDays days =
      ofMarch (year + era * 400) (day - (365 * year + year / 4 - year / 100)) := by
    rw [Date.ofDays, ← hera, ← hday, ← hyear]
    rfl
  have hnext : marchStart (year + era * 400 + 1) = era * 146097 +
      (365 * (year + 1) + (year + 1) / 4 - (year + 1) / 100 + (year + 1) / 400 : Nat) := by
    rw [← marchStart_era, Int.natCast_add, Int.add_right_comm]
    rfl
  obtain ⟨hlt, hlow, hhigh⟩ := yearOfEra_bounds hin hyear
  have hzero : year / 400 = 0 := Nat.div_eq_of_lt hlt
  rw [hmarch, hdate, marchStart_era, hnext, hdays, hzero]
  refine ⟨by omega, by omega, ?_⟩
  rw [Int.add_sub_add_left, Int.toNat_sub, Nat.add_zero]

/-! ## Later days -/

/-- The months of the dates are counted on from year to year. -/
theorem ofMarch_months (year : Int) {day : Nat} (h : day ≤ 365) :
    ∃ m : Nat, m = (5 * day + 2) / 153 ∧ m ≤ 11 ∧
      (ofMarch year day).day = day - (153 * m + 2) / 5 + 1 ∧
      12 * (ofMarch year day).year + (ofMarch year day).month = 12 * year + m + 3 ∧
      1 ≤ (ofMarch year day).month ∧ (ofMarch year day).month ≤ 12 := by
  have hm : (5 * day + 2) / 153 ≤ 11 := by omega
  refine ⟨_, rfl, hm, rfl, ?_⟩
  unfold ofMarch
  generalize (5 * day + 2) / 153 = m at hm ⊢
  simp only
  split <;> split <;> omega

/-- Dates are in order when their months, counted on from year to year, are. -/
theorem isBefore_of_months {d e : Date} (hd : 1 ≤ d.month ∧ d.month ≤ 12)
    (he : 1 ≤ e.month ∧ e.month ≤ 12)
    (h : 12 * d.year + d.month < 12 * e.year + e.month ∨
      12 * d.year + d.month = 12 * e.year + e.month ∧ d.day < e.day) : d.isBefore e := by
  unfold Date.isBefore
  omega

/-- A later day of a year, or a day of a later year, has a later date. -/
theorem ofMarch_isBefore {year later : Int} {day other : Nat} (hday : day ≤ 365) (hother : other ≤ 365)
    (h : year < later ∨ year = later ∧ day < other) :
    (ofMarch year day).isBefore (ofMarch later other) := by
  obtain ⟨m, hm, hm11, hd, hmonths, hrange⟩ := ofMarch_months year hday
  obtain ⟨n, hn, -, hd', hmonths', hrange'⟩ := ofMarch_months later hother
  refine isBefore_of_months hrange hrange' ?_
  rw [hmonths, hmonths', hd, hd']
  rcases h with hlt | ⟨rfl, hlt⟩
  · exact .inl (by omega)
  · have hmn : m < n ∨ m = n ∧ (153 * m + 2) / 5 ≤ day := by omega
    rcases hmn with hmn | ⟨rfl, hfirst⟩
    · exact .inl (by omega)
    · exact .inr ⟨rfl, by omega⟩

/-- **A later day has a later date.** -/
theorem ofDays_isBefore {a b : Int} (h : a < b) : (Date.ofDays a).isBefore (Date.ofDays b) := by
  obtain ⟨halow, hahigh, ha⟩ := marchYear_bounds a
  obtain ⟨hblow, hbhigh, hb⟩ := marchYear_bounds b
  have hlength (year : Int) : marchStart (year + 1) ≤ marchStart year + 366 := by
    unfold marchStart
    omega
  have hya := hlength (marchYear a)
  have hyb := hlength (marchYear b)
  rw [ha, hb]
  refine ofMarch_isBefore (by omega) (by omega) ?_
  rcases Int.lt_trichotomy (marchYear a) (marchYear b) with hlt | heq | hgt
  · exact .inl hlt
  · rw [heq] at halow ⊢
    exact .inr ⟨rfl, by omega⟩
  · have := marchStart_mono (Int.add_one_le_of_lt hgt)
    omega

end ContentCache.Time
