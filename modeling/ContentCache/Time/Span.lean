import ContentCache.Text.Decimal

/-!
# Spans of time

A span is a whole number of nanoseconds, never negative. Its text uses the largest unit that it
reaches (seconds, milliseconds, microseconds, nanoseconds) and as many decimals as it needs.
-/

namespace ContentCache.Time

/-- A length of time in nanoseconds. -/
structure Span where
  nanoseconds : Nat
  deriving DecidableEq, Repr

namespace Span

def perSecond : Nat := 1000000000

def ofParts (seconds nanos : Nat) : Span := ⟨seconds * perSecond + nanos⟩

def ofSeconds (seconds : Nat) : Span := ofParts seconds 0

def zero : Span := ⟨0⟩

def plus (s t : Span) : Span := ⟨s.nanoseconds + t.nanoseconds⟩

/-- The span that is left of `s` without `t`, none when `t` is longer. -/
def minus (s t : Span) : Span := ⟨s.nanoseconds - t.nanoseconds⟩

def ofMilliseconds (ms : Nat) : Span := ⟨ms * 1000000⟩

def seconds (s : Span) : Nat := s.nanoseconds / perSecond

def nanos (s : Span) : Nat := s.nanoseconds % perSecond

def microseconds (s : Span) : Nat := s.nanoseconds / 1000

/-- A number with a fraction of at most `places` digits, trailing zeros left out. -/
def decimalText (whole fraction places : Nat) (unit : String) : String :=
  let digits := Text.withoutTrailingZeros (Text.fixedChars places fraction)
  whole.repr ++ (if digits.isEmpty then "" else "." ++ String.ofList digits) ++ unit

def text (s : Span) : String :=
  if perSecond ≤ s.nanoseconds then decimalText s.seconds s.nanos 9 "s"
  else if 1000000 ≤ s.nanoseconds then
    decimalText (s.nanoseconds / 1000000) (s.nanoseconds % 1000000) 6 "ms"
  else if 1000 ≤ s.nanoseconds then
    decimalText (s.nanoseconds / 1000) (s.nanoseconds % 1000) 3 "µs"
  else decimalText s.nanoseconds 0 0 "ns"

/-- The longest span that can be added to an instant: `2^63 - 1` milliseconds. -/
def longestShift : Span := ⟨9223372036854775807 * 1000000⟩

end Span

end ContentCache.Time
