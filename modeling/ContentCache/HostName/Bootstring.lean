/-!
# Labels in letters, digits and hyphens

A label with other characters is written in ASCII: first its ASCII characters, then, after a
hyphen, where the others are to be put in, in ascending order. Each insertion is told as the number
of places that were passed over since the last one, in digits from `a` to `z` and `0` to `9`, the
least significant first, with a threshold for each digit that follows the numbers seen before.

Main definitions: `encode`, `decode?`.
-/

namespace ContentCache.HostName.Bootstring

def digit (n : Nat) : Char := if n < 26 then Char.ofNat (97 + n) else Char.ofNat (22 + n)

/-- The number of a digit; letters of either case count. -/
def digitValue? (c : Char) : Option Nat :=
  if 'a' ≤ c && c ≤ 'z' then some (c.toNat - 97)
  else if 'A' ≤ c && c ≤ 'Z' then some (c.toNat - 65)
  else if c.isDigit then some (c.toNat - 22)
  else none

/-- The threshold of a digit: `place` counts from 36 in steps of 36, and thresholds stay between
1 and 26. -/
def threshold (place bias : Nat) : Nat :=
  if place ≤ bias + 1 then 1 else if bias + 26 ≤ place then 26 else place - bias

theorem threshold_pos (place bias : Nat) : 1 ≤ threshold place bias := by
  unfold threshold
  split
  · omega
  · split <;> omega

/-- Divides by 35 until at most 455 is left, and counts 36 for each division. -/
def scale (delta count : Nat) : Nat × Nat :=
  if 455 < delta then scale (delta / 35) (count + 36) else (delta, count)
termination_by delta
decreasing_by omega

/-- The bias after a number, given how many characters there are now. -/
def nextBias (delta size : Nat) (isFirst : Bool) : Nat :=
  let delta := if isFirst then delta / 700 else delta / 2
  let (rest, count) := scale (delta + delta / size) 0
  count + 36 * rest / (rest + 38)

def firstBias : Nat := 72

/-- The first code point that is not ASCII. -/
def firstCode : Nat := 128

/-! ## Writing -/

/-- A number in digits, the least significant first. -/
def writeNumber (bias place n : Nat) : List Char :=
  let t := threshold place bias
  if n < t then [digit n]
  else digit (t + (n - t) % (36 - t)) :: writeNumber bias (place + 36) ((n - t) / (36 - t))
termination_by n
decreasing_by
  have := threshold_pos place bias
  exact Nat.lt_of_le_of_lt (Nat.div_le_self _ _) (by omega)

/-- What has been written: the digits, the places passed over since the last insertion, the bias
and how many characters are in place. -/
structure Writing where
  digits : List Char
  passed : Nat
  bias : Nat
  placed : Nat

/-- Goes past one character of the label while `code` is being inserted. -/
def Writing.pass (basic code : Nat) (w : Writing) (c : Char) : Writing :=
  if c.toNat < code then { w with passed := w.passed + 1 }
  else if c.toNat = code then
    { digits := w.digits ++ writeNumber w.bias 36 w.passed, passed := 0,
      bias := nextBias w.passed (w.placed + 1) (w.placed = basic), placed := w.placed + 1 }
  else w

/-- Inserts the code points of a list in ascending order; `code` is the first one that could be
inserted next. -/
def insertCodes (label : List Char) (basic : Nat) : List Nat → (code : Nat) → Writing → Writing
  | [], _, w => w
  | next :: rest, code, w =>
    let w := { w with passed := w.passed + (next - code) * (w.placed + 1) }
    let w := label.foldl (Writing.pass basic next) w
    insertCodes label basic rest (next + 1) { w with passed := w.passed + 1 }

/-- The ASCII form of a label, without the mark that stands before it. -/
def encode (label : List Char) : List Char :=
  let basic := label.filter fun c => c.toNat < firstCode
  let others := (label.map Char.toNat).filter fun n => firstCode ≤ n
  let codes := (others.mergeSort fun a b => a ≤ b).eraseDups
  let start : Writing := ⟨[], 0, firstBias, basic.length⟩
  basic ++ (if basic.isEmpty then [] else ['-']) ++
    (insertCodes label basic.length codes firstCode start).digits

/-! ## Reading -/

/-- Reads one number: its digits up to the first one below its threshold. Beside the number stands
what follows it. -/
def readNumber? (bias : Nat) : (place weight sum : Nat) → List Char → Option (Nat × List Char)
  | _, _, _, [] => none
  | place, weight, sum, c :: rest =>
    match digitValue? c with
    | none => none
    | some d =>
      let t := threshold place bias
      if d < t then some (sum + d * weight, rest)
      else readNumber? bias (place + 36) (weight * (36 - t)) (sum + d * weight) rest

theorem readNumber?_length {bias place weight sum : Nat} {cs : List Char} {n : Nat}
    {rest : List Char} (h : readNumber? bias place weight sum cs = some (n, rest)) :
    rest.length < cs.length := by
  fun_induction readNumber? bias place weight sum cs with
  | case1 => simp at h
  | case2 => simp at h
  | case3 => simp_all
  | case4 _ _ _ _ _ _ _ _ _ ih => have := ih h; simp only [List.length_cons]; omega

/-- A character, when there is one with this code point. -/
def character? (code : Nat) : Option Char :=
  if h : code.isValidChar then some (Char.ofNatAux code h) else none

/-- Reads numbers and makes the insertions that they tell: `code` is the last code point, `position`
the place after the last insertion. -/
def readInsertions (label : List Char) (bias code position : Nat) (isFirst : Bool)
    (cs : List Char) : Option (List Char) :=
  match cs with
  | [] => some label
  | c :: rest =>
    match h : readNumber? bias 36 1 0 (c :: rest) with
    | none => none
    | some (n, rest') =>
      let size := label.length + 1
      let code := code + (position + n) / size
      let place := (position + n) % size
      match character? code with
      | none => none
      | some new =>
        have shorter : rest'.length < (c :: rest).length := readNumber?_length h
        readInsertions (label.insertIdx place new) (nextBias n size isFirst) code (place + 1) false
          rest'
termination_by cs.length
decreasing_by exact shorter

/-- The label with a given ASCII form. The part before the last hyphen is taken as it is. -/
def decode? (cs : List Char) : Option (List Char) :=
  let tail := (cs.reverse.takeWhile (· ≠ '-')).reverse
  let basic := cs.take (cs.length - tail.length - 1)
  if basic.isEmpty then readInsertions [] firstBias firstCode 0 true cs
  else if basic.all fun c => c.toNat < firstCode then
    readInsertions basic firstBias firstCode 0 true tail
  else none

end ContentCache.HostName.Bootstring
