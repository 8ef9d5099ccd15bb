/-!
# Tables of code points

A property of characters is told as a list of ranges of code points, each with a value, in
ascending order and without overlap. The list is written as a text: blank-separated entries
`first-last:value` in lower-case hexadecimal, where `-last` may be left out for one code point and
`:value` for the empty value. Look-up is by bisection.

Main definitions: `RangeMap.ofText`, `RangeMap.find?`.
-/

namespace ContentCache.Text

/-- Ranges of code points with a value each, in ascending order. -/
structure RangeMap where
  rows : Array (Nat × Nat × String)

namespace RangeMap

def hexValue (c : Char) : Nat := if c.isDigit then c.toNat - 48 else c.toNat - 87

/-- The number that hexadecimal digits denote. -/
def hexNumber (cs : List Char) : Nat := cs.foldl (fun acc c => acc * 16 + hexValue c) 0

/-- One entry of the written form. -/
def entry (cs : List Char) : Nat × Nat × String :=
  let range := cs.takeWhile (· ≠ ':')
  let value := (cs.dropWhile (· ≠ ':')).drop 1
  let first := range.takeWhile (· ≠ '-')
  let last := (range.dropWhile (· ≠ '-')).drop 1
  (hexNumber first, if last.isEmpty then hexNumber first else hexNumber last, String.ofList value)

/-- The entries of the written form: `word` is the current one, last character first. -/
def entries : List Char → (word : List Char) → Array (Nat × Nat × String) → Array (Nat × Nat × String)
  | [], word, acc => if word.isEmpty then acc else acc.push (entry word.reverse)
  | c :: rest, word, acc =>
    if c = ' ' || c = '\n' then entries rest [] (if word.isEmpty then acc else acc.push (entry word.reverse))
    else entries rest (c :: word) acc

/-- Reads the written form. -/
def ofText (s : String) : RangeMap := ⟨entries s.toList [] #[]⟩

/-- Bisection between two row numbers. -/
def search (rows : Array (Nat × Nat × String)) (code lo hi : Nat) : Option (Nat × Nat × String) :=
  if lo < hi then
    let mid := (lo + hi) / 2
    match rows[mid]? with
    | none => none
    | some row =>
      if code < row.1 then search rows code lo mid
      else if row.2.1 < code then search rows code (mid + 1) hi
      else some row
  else none
termination_by hi - lo

/-- The row whose range holds a code point. -/
def row? (m : RangeMap) (code : Nat) : Option (Nat × Nat × String) :=
  search m.rows code 0 m.rows.size

/-- The value of a code point, if it lies in a range. -/
def find? (m : RangeMap) (code : Nat) : Option String := (m.row? code).map (·.2.2)

def contains (m : RangeMap) (code : Nat) : Bool := (m.row? code).isSome

end RangeMap

end ContentCache.Text
