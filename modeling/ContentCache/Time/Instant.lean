import ContentCache.Time.Calendar
import ContentCache.Time.Span

/-!
# Instants

An instant of the UTC time scale: a second counted from the start of 1970 and the nanoseconds into
it. A leap second is told as the nanoseconds from one to two thousand million of the last second
of a minute. Instants lie between the years -262143 and 262142, and are ordered by second, then by
nanosecond.

Main definitions: `Instant.ofParts?`, `Instant.shiftLater?`, `Instant.secondsEarlier?`, and the order
by `Instant.isBefore`. Main statements: `isBefore_irrefl`, `isBefore_total`.
-/

namespace ContentCache.Time

/-- The first second of the year -262143. -/
def firstSecond : Int := -8334601228800

/-- The last second of the year 262142. -/
def lastSecond : Int := 8210266876799

/-- The parts of an instant: its second lies in the range, and the nanoseconds pass one second only
in the last second of a minute. -/
def instantParts (seconds : Int) (nanos : Nat) : Prop :=
  firstSecond ≤ seconds ∧ seconds ≤ lastSecond ∧
    (nanos < 1000000000 ∨ (nanos < 2000000000 ∧ seconds % 60 = 59))

instance (seconds : Int) (nanos : Nat) : Decidable (instantParts seconds nanos) := by
  unfold instantParts; infer_instance

/-- An instant of the UTC time scale. -/
structure Instant where
  seconds : Int
  nanos : Nat
  parts : instantParts seconds nanos

namespace Instant

theorem ext {a b : Instant} (hs : a.seconds = b.seconds) (hn : a.nanos = b.nanos) : a = b := by
  cases a; cases b; simp_all

instance : DecidableEq Instant := fun a b =>
  if h : a.seconds = b.seconds ∧ a.nanos = b.nanos then isTrue (ext h.1 h.2)
  else isFalse fun hab => h ⟨congrArg _ hab, congrArg _ hab⟩

/-- The instant with the given second and nanoseconds, when there is one. -/
def ofParts? (seconds : Int) (nanos : Nat) : Option Instant :=
  if h : instantParts seconds nanos then some ⟨seconds, nanos, h⟩ else none

def epoch : Instant := ⟨0, 0, by decide⟩

/-! ## Order -/

/-- Earlier: an earlier second, or the same second and fewer nanoseconds. -/
def isBefore (a b : Instant) : Bool :=
  a.seconds < b.seconds || (a.seconds = b.seconds && a.nanos < b.nanos)

theorem isBefore_iff {a b : Instant} :
    a.isBefore b = true ↔ a.seconds < b.seconds ∨ (a.seconds = b.seconds ∧ a.nanos < b.nanos) := by
  simp [isBefore]

theorem isBefore_irrefl (a : Instant) : a.isBefore a = false := by
  simp [isBefore]

/-- Of two different instants one is earlier. -/
theorem isBefore_total {a b : Instant} (h : a ≠ b) : a.isBefore b = true ∨ b.isBefore a = true := by
  rw [isBefore_iff, isBefore_iff]
  by_cases hs : a.seconds = b.seconds
  · by_cases hn : a.nanos = b.nanos
    · exact absurd (ext hs hn) h
    · omega
  · omega

/-! ## Arithmetic -/

def nanosecondsSinceEpoch (i : Instant) : Int := i.seconds * 1000000000 + i.nanos

/-- The instant so many nanoseconds after the start of 1970, when it is in range. -/
def ofNanosecondsSinceEpoch? (n : Int) : Option Instant :=
  ofParts? (n / 1000000000) (n % 1000000000).toNat

/-- The instant a span later; nothing when the span is too long to be a shift or the sum is past
the last instant. -/
def shiftLater? (i : Instant) (s : Span) : Option Instant :=
  if s.nanoseconds ≤ Span.longestShift.nanoseconds then
    ofNanosecondsSinceEpoch? (i.nanosecondsSinceEpoch + s.nanoseconds)
  else none

/-- The instant so many whole seconds earlier; nothing when that is no shift or out of range. -/
def secondsEarlier? (i : Instant) (seconds : Nat) : Option Instant :=
  if (Span.ofSeconds seconds).nanoseconds ≤ Span.longestShift.nanoseconds then
    ofNanosecondsSinceEpoch? (i.nanosecondsSinceEpoch - (Span.ofSeconds seconds).nanoseconds)
  else none

/-! ## Fields -/

def day (i : Instant) : Int := i.seconds / 86400

/-- The seconds since the start of the day. -/
def secondOfDay (i : Instant) : Nat := (i.seconds % 86400).toNat

def date (i : Instant) : Date := Date.ofDays i.day

def hour (i : Instant) : Nat := i.secondOfDay / 3600

def minute (i : Instant) : Nat := i.secondOfDay / 60 % 60

/-- The second of the minute, 60 for a leap second. -/
def second (i : Instant) : Nat := i.secondOfDay % 60 + i.nanos / 1000000000

def fraction (i : Instant) : Nat := i.nanos % 1000000000

end Instant

end ContentCache.Time
