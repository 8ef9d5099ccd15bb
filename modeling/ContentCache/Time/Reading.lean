import ContentCache.Text.Blank
import ContentCache.Time.Instant

/-!
# Reading instants

A relaxed form of RFC 3339. Between the parts of the date and of the time blanks may stand; the
separator of date and time is `T`, `t` or one space; the zone is `Z`, `z`, `UTC` in any case, or an
offset of hours and minutes whose parts may be separated by colons and blanks, with a hyphen or a
minus sign; blanks may follow. A year has up to four digits, or a sign and any number of digits.
Second 60 is a leap second. Decimals past the ninth are dropped.
-/

namespace ContentCache.Time.Reading

/-- One to `most` decimal digits. -/
def number (most : Nat) (cs : List Char) : Option (Nat × List Char) :=
  let digits := (cs.take most).takeWhile Char.isDigit
  if digits.isEmpty then none else some (Text.ofDigits digits, cs.drop digits.length)

/-- A number of one or two digits from `lo` to `hi`, after any blanks. -/
def field (lo hi : Nat) (cs : List Char) : Option (Nat × List Char) := do
  let (n, rest) ← number 2 (Text.trimStartChars cs)
  if lo ≤ n && n ≤ hi then some (n, rest) else none

/-- A given character, after any blanks. -/
def mark (c : Char) (cs : List Char) : Option (List Char) :=
  match Text.trimStartChars cs with
  | d :: rest => if d = c then some rest else none
  | [] => none

/-- The largest year that is read, before the range of instants is looked at. -/
def largestYear : Nat := 2147483647

/-- A year: a sign and digits, or up to four digits. -/
def year (cs : List Char) : Option (Int × List Char) :=
  match Text.trimStartChars cs with
  | '-' :: rest => do
    let (n, rest) ← number rest.length rest
    if n ≤ largestYear + 1 then some (-(n : Int), rest) else none
  | '+' :: rest => do
    let (n, rest) ← number rest.length rest
    if n ≤ largestYear then some ((n : Int), rest) else none
  | rest => do
    let (n, rest) ← number 4 rest
    some ((n : Int), rest)

/-- The decimals of a second, in nanoseconds; zero without a point. -/
def decimals (cs : List Char) : Option (Nat × List Char) :=
  match cs with
  | '.' :: rest =>
    let digits := rest.takeWhile Char.isDigit
    if digits.isEmpty then none
    else
      let kept := digits.take 9
      some (Text.ofDigits kept * Nat.pow 10 (9 - kept.length), rest.drop digits.length)
  | _ => some (0, cs)

def twoDigits (cs : List Char) : Option (Nat × List Char) :=
  match cs with
  | a :: b :: rest =>
    if a.isDigit && b.isDigit then some (Text.digitValue a * 10 + Text.digitValue b, rest) else none
  | _ => none

/-- The sign of an offset: 1 for `+`, -1 for a hyphen or a minus sign. -/
def offsetSign (cs : List Char) : Option (Int × List Char) :=
  match cs with
  | '+' :: rest => some (1, rest)
  | '-' :: rest => some (-1, rest)
  | '−' :: rest => some (-1, rest)
  | _ => none

/-- The zone, as the seconds by which local time is ahead. -/
def zone (cs : List Char) : Option (Int × List Char) :=
  match cs with
  | 'Z' :: rest => some (0, rest)
  | 'z' :: rest => some (0, rest)
  | _ =>
    if (cs.take 3).map Char.toLower = ['u', 't', 'c'] then some (0, cs.drop 3)
    else do
      let (sign, rest) ← offsetSign cs
      let (hours, rest) ← twoDigits rest
      let (minutes, rest) ← twoDigits (rest.dropWhile fun c => c = ':' || Text.isBlank c)
      if minutes < 60 && hours < 24 then
        some (sign * ((hours * 3600 + minutes * 60 : Nat) : Int), rest)
      else none

/-- The separator of date and time. -/
def separator (cs : List Char) : Option (List Char) :=
  match cs with
  | 'T' :: rest | 't' :: rest | ' ' :: rest => some rest
  | _ => none

/-- The first day of the year -262143. -/
def firstDay : Int := firstSecond / 86400

/-- The last day of the year 262142. -/
def lastDay : Int := lastSecond / 86400

/-- Reads an instant that takes up all the characters. -/
def instantChars (cs : List Char) : Option Instant := do
  let (y, cs) ← year cs
  let cs ← mark '-' cs
  let (mo, cs) ← field 1 12 cs
  let cs ← mark '-' cs
  let (d, cs) ← field 1 31 cs
  let cs ← separator cs
  let (h, cs) ← field 0 23 cs
  let cs ← mark ':' cs
  let (mi, cs) ← field 0 59 cs
  let cs ← mark ':' cs
  let (s, cs) ← field 0 60 cs
  let (frac, cs) ← decimals cs
  let (ahead, cs) ← zone (Text.trimStartChars cs)
  if (Text.trimStartChars cs).isEmpty then
    let date : Date := ⟨y, mo, d⟩
    if date.isValid && firstDay ≤ date.toDays && date.toDays ≤ lastDay then
      let second := if s = 60 then 59 else s
      let nanos := if s = 60 then frac + 1000000000 else frac
      Instant.ofParts? (date.toDays * 86400 + ((h * 3600 + mi * 60 + second : Nat) : Int) - ahead) nanos
    else none
  else none

end ContentCache.Time.Reading

namespace ContentCache.Time

/-- Reads an instant in the relaxed form of RFC 3339. -/
def Instant.read? (s : String) : Option Instant := Reading.instantChars s.toList

end ContentCache.Time
