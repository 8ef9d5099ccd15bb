import ContentCache.Time.Instant

/-!
# Instants before and after each other

Counting on from an instant, or back from it, ends at exactly the instant that lies so far away, and
nowhere when that one is out of range.

* `Instant.IsLater`, `Instant.IsEarlier`: an instant lies a span after another one, or so many seconds
  before it.
* `Instant.earliest`, `Instant.latest`: the ends of the range.

Main statements: `shiftLater?_eq_some_iff` and `secondsEarlier?_eq_some_iff` (where counting ends), and
`exists_isLater_iff` and `exists_isEarlier_iff` (how far it can go).
-/

namespace ContentCache.Time.Instant

variable {now t : Instant} {s : Span} {seconds : Nat}

/-! ## Counting nanoseconds -/

theorem ofNanosecondsSinceEpoch?_eq_some_iff {n : Int} {t : Instant} :
    ofNanosecondsSinceEpoch? n = some t ↔
      t.nanos < 1000000000 ∧ t.nanosecondsSinceEpoch = n := by
  have htwo := t.parts
  unfold ofNanosecondsSinceEpoch? ofParts?
  unfold instantParts at htwo
  constructor
  · intro h
    split at h
    · obtain rfl := Option.some.inj h
      unfold nanosecondsSinceEpoch
      simp only
      omega
    · cases h
  · rintro ⟨hnanos, rfl⟩
    have hseconds : t.nanosecondsSinceEpoch / 1000000000 = t.seconds := by
      unfold nanosecondsSinceEpoch
      omega
    have hrest : (t.nanosecondsSinceEpoch % 1000000000).toNat = t.nanos := by
      unfold nanosecondsSinceEpoch
      omega
    rw [hseconds, hrest, dif_pos t.parts]

/-- The first instant. -/
def earliest : Instant := ⟨firstSecond, 0, by decide⟩

/-- The last instant that is no leap second. -/
def latest : Instant := ⟨lastSecond, 999999999, by decide⟩

theorem earliest_le (t : Instant) : earliest.nanosecondsSinceEpoch ≤ t.nanosecondsSinceEpoch := by
  obtain ⟨hfirst, -⟩ := t.parts
  unfold nanosecondsSinceEpoch
  show firstSecond * 1000000000 + (0 : Nat) ≤ _
  omega

theorem le_latest (h : t.nanos < 1000000000) :
    t.nanosecondsSinceEpoch ≤ latest.nanosecondsSinceEpoch := by
  obtain ⟨-, hlast, -⟩ := t.parts
  unfold nanosecondsSinceEpoch
  show _ ≤ lastSecond * 1000000000 + (999999999 : Nat)
  omega

/-- **Every count of nanoseconds in the range** belongs to an instant that is no leap second. -/
theorem exists_nanosecondsSinceEpoch_iff {n : Int} :
    (∃ t : Instant, t.nanos < 1000000000 ∧ t.nanosecondsSinceEpoch = n) ↔
      earliest.nanosecondsSinceEpoch ≤ n ∧ n ≤ latest.nanosecondsSinceEpoch := by
  constructor
  · rintro ⟨t, hnanos, rfl⟩
    exact ⟨t.earliest_le, le_latest hnanos⟩
  · intro ⟨hearliest, hlatest⟩
    have hlow : firstSecond * 1000000000 + (0 : Nat) ≤ n := hearliest
    have hhigh : n ≤ lastSecond * 1000000000 + (999999999 : Nat) := hlatest
    have hparts : instantParts (n / 1000000000) (n % 1000000000).toNat := by
      unfold instantParts
      omega
    refine ⟨⟨_, _, hparts⟩, ofNanosecondsSinceEpoch?_eq_some_iff.1 ?_⟩
    rw [ofNanosecondsSinceEpoch?, ofParts?, dif_pos hparts]

/-! ## Counting on -/

/-- An instant lies a span after another one. -/
def IsLater (t now : Instant) (s : Span) : Prop :=
  t.nanos < 1000000000 ∧ t.nanosecondsSinceEpoch = now.nanosecondsSinceEpoch + s.nanoseconds

/-- **How far on an instant can lie.** -/
theorem exists_isLater_iff : (∃ t : Instant, t.IsLater now s) ↔
    now.nanosecondsSinceEpoch + s.nanoseconds ≤ latest.nanosecondsSinceEpoch := by
  have hnow := now.earliest_le
  refine exists_nanosecondsSinceEpoch_iff.trans (and_iff_right ?_)
  omega

/-- No span between two instants is too long to be a shift. -/
theorem IsLater.le_longestShift (h : t.IsLater now s) :
    s.nanoseconds ≤ Span.longestShift.nanoseconds := by
  have hnow : firstSecond * 1000000000 + (0 : Nat) ≤ now.nanosecondsSinceEpoch := now.earliest_le
  have hlatest : t.nanosecondsSinceEpoch ≤ lastSecond * 1000000000 + (999999999 : Nat) := le_latest h.1
  have hsum := h.2
  unfold firstSecond at hnow
  unfold lastSecond at hlatest
  show s.nanoseconds ≤ 9223372036854775807 * 1000000
  omega

/-- **Counting a span on** ends at the instant that lies so far after. -/
theorem shiftLater?_eq_some_iff : now.shiftLater? s = some t ↔ t.IsLater now s := by
  unfold shiftLater?
  split
  · exact ofNanosecondsSinceEpoch?_eq_some_iff
  · next hlong => exact iff_of_false nofun fun h => hlong h.le_longestShift

/-- An instant that lies after another one, unless there is no time between them, comes after it. -/
theorem IsLater.isBefore_iff (h : t.IsLater now s) (hnow : now.nanos < 1000000000) :
    now.isBefore t = true ↔ 0 < s.nanoseconds := by
  obtain ⟨hnanos, hsum⟩ := h
  unfold nanosecondsSinceEpoch at hsum
  rw [Instant.isBefore_iff]
  omega

/-! ## Counting back -/

/-- An instant lies so many seconds before another one. No leap second is reached by counting seconds. -/
def IsEarlier (t now : Instant) (seconds : Nat) : Prop :=
  t.nanos < 1000000000 ∧
    t.nanosecondsSinceEpoch = now.nanosecondsSinceEpoch - seconds * 1000000000

/-- **How far back an instant can lie.** -/
theorem exists_isEarlier_iff (hnow : now.nanos < 1000000000) :
    (∃ t : Instant, t.IsEarlier now seconds) ↔
      earliest.nanosecondsSinceEpoch ≤ now.nanosecondsSinceEpoch - seconds * 1000000000 := by
  have hlatest := le_latest hnow
  refine exists_nanosecondsSinceEpoch_iff.trans (and_iff_left ?_)
  omega

/-- **Counting seconds back** ends at the instant that lies so many seconds earlier. -/
theorem secondsEarlier?_eq_some_iff : now.secondsEarlier? seconds = some t ↔ t.IsEarlier now seconds := by
  have hspan : (Span.ofSeconds seconds).nanoseconds = seconds * 1000000000 := by
    rw [Span.ofSeconds, Span.ofParts, Span.perSecond, Nat.add_zero]
  have hnow := now.parts
  have ht := t.parts
  unfold instantParts firstSecond lastSecond at hnow ht
  unfold secondsEarlier? IsEarlier
  rw [hspan]
  split
  · rw [ofNanosecondsSinceEpoch?_eq_some_iff, Int.natCast_mul]
    exact Iff.rfl
  · next hlong =>
    -- What is too long to be a shift leads behind the first instant.
    refine iff_of_false nofun ?_
    rintro ⟨-, hearlier⟩
    unfold nanosecondsSinceEpoch at hearlier
    have hlong : 9223372036854775807 * 1000000 < seconds * 1000000000 := Nat.lt_of_not_le hlong
    omega

theorem secondsEarlier?_eq_none_iff :
    now.secondsEarlier? seconds = none ↔ ∀ t, ¬ IsEarlier t now seconds := by
  rw [Option.eq_none_iff_forall_ne_some]
  exact forall_congr' fun t => not_congr secondsEarlier?_eq_some_iff

end ContentCache.Time.Instant
