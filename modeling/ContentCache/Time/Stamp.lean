import ContentCache.Time.Instant

/-!
# The texts of an instant

Three forms: the stamp of a cache path (`20240501T100000.000000000Z`), the form with a space and
the zone's name, and the form of RFC 3339. A year from 0 to 9999 has four digits; any other has a
sign and at least four digits. The last two forms write 0, 3, 6 or 9 decimals, as few as are exact.
-/

namespace ContentCache.Time

def yearText (year : Int) : String :=
  if 0 ≤ year && year ≤ 9999 then Text.fixed 4 year.toNat
  else (if year < 0 then "-" else "+") ++ Text.padded 4 year.natAbs

namespace Instant

def dateText (i : Instant) : String :=
  yearText i.date.year ++ "-" ++ Text.fixed 2 i.date.month ++ "-" ++ Text.fixed 2 i.date.day

/-- The decimals of the second: none, three, six or nine, as few as are exact. -/
def fractionText (i : Instant) : String :=
  if i.fraction = 0 then ""
  else if i.fraction % 1000000 = 0 then "." ++ Text.fixed 3 (i.fraction / 1000000)
  else if i.fraction % 1000 = 0 then "." ++ Text.fixed 6 (i.fraction / 1000)
  else "." ++ Text.fixed 9 i.fraction

def timeText (i : Instant) : String :=
  Text.fixed 2 i.hour ++ ":" ++ Text.fixed 2 i.minute ++ ":" ++ Text.fixed 2 i.second ++ i.fractionText

/-- The form of RFC 3339: `2024-05-01T10:00:00.250Z`. -/
def rfc3339 (i : Instant) : String := i.dateText ++ "T" ++ i.timeText ++ "Z"

/-- The form for people: `2024-05-01 10:00:00.250 UTC`. -/
def display (i : Instant) : String := i.dateText ++ " " ++ i.timeText ++ " UTC"

/-- The stamp of a cache path: date and time without separators and all nine decimals, so that
stamps of years 0 to 9999 are ordered as texts the way their instants are. -/
def stamp (i : Instant) : String :=
  yearText i.date.year ++ Text.fixed 2 i.date.month ++ Text.fixed 2 i.date.day ++ "T" ++
  Text.fixed 2 i.hour ++ Text.fixed 2 i.minute ++ Text.fixed 2 i.second ++ "." ++
  Text.fixed 9 i.fraction ++ "Z"

end Instant

end ContentCache.Time
