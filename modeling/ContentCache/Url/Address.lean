import ContentCache.HostName.Composition
import ContentCache.Json.Token
import ContentCache.Text.Decimal

/-!
# Numeric addresses

Hosts that are numbers: addresses of four bytes, written as up to four decimal, octal or hexadecimal
numbers between points, and addresses of eight pieces of 16 bits, written in hexadecimal between
colons, where one run of zero pieces may be left out.

Main definitions: `endsInNumber`, `readFour?`, `fourText`, `readEight?`, `eightText`.
-/

namespace ContentCache.Url

/-! ## Four bytes -/

/-- The value of digits of a base; nothing when one of them is no digit of it. -/
def digitsValue? (base : Nat) (cs : List Char) : Option Nat :=
  cs.foldl (fun acc c => do
    let n ← acc
    let d ← Json.hexValue? c
    if d < base then some (n * base + d) else none) (some 0)

/-- A number of an address: hexadecimal after `0x`, octal after a zero, else decimal. A bare mark of
the base is zero. -/
def addressNumber? : List Char → Option Nat
  | [] => none
  | '0' :: 'x' :: rest | '0' :: 'X' :: rest => digitsValue? 16 rest
  | '0' :: c :: rest => digitsValue? 8 (c :: rest)
  | cs => digitsValue? 10 cs

/-- The parts of a name between points, an empty one at the end left out. -/
def addressParts (name : List Char) : List (List Char) :=
  let parts := HostName.piecesBetween '.' name
  if parts.getLast? = some [] then parts.dropLast else parts

/-- Whether a name has to be an address because its last part is a number. -/
def endsInNumber (name : List Char) : Bool :=
  match (addressParts name).getLast? with
  | none => false
  | some part => (!part.isEmpty && part.all Char.isDigit) || (addressNumber? part).isSome

/-- The address that numbers denote: all but the last are bytes, and the last fills what is left. -/
def fourOfNumbers? (numbers : List Nat) : Option Nat :=
  match numbers.reverse with
  | [] => none
  | last :: rest =>
    if rest.length ≤ 3 && rest.all (· ≤ 255) && last < Nat.pow 256 (4 - rest.length) then
      some (rest.reverse.foldl (fun acc n => acc * 256 + n) 0 * Nat.pow 256 (4 - rest.length) + last)
    else none

def readFour? (name : List Char) : Option Nat := do
  fourOfNumbers? (← (addressParts name).mapM addressNumber?)

def fourText (address : Nat) : String :=
  (address / 16777216 % 256).repr ++ "." ++ (address / 65536 % 256).repr ++ "." ++
  (address / 256 % 256).repr ++ "." ++ (address % 256).repr

/-! ## Eight pieces -/

def isHexDigit (c : Char) : Bool := (Json.hexValue? c).isSome

/-- One decimal byte without a zero in front. -/
def decimalByte? (cs : List Char) : Option Nat :=
  if cs.isEmpty || !cs.all Char.isDigit || (cs.head? = some '0' && 1 < cs.length) ||
      255 < Text.ofDigits cs then none
  else some (Text.ofDigits cs)

/-- Two pieces written as four decimal bytes. -/
def embeddedPieces? (cs : List Char) : Option (List Nat) := do
  match ← (HostName.piecesBetween '.' cs).mapM decimalByte? with
  | [a, b, c, d] => some [a * 256 + b, c * 256 + d]
  | _ => none

/-- The pieces before and, once a run has been left out, after it. Both are last first. -/
structure Pieces where
  before : List Nat := []
  after : Option (List Nat) := none

/-- How many pieces there are, the run counted as one. -/
def Pieces.count (p : Pieces) : Nat :=
  p.before.length + (match p.after with | none => 0 | some a => a.length + 1)

/-- One more piece. -/
def Pieces.add (p : Pieces) (n : Nat) : Pieces :=
  match p.after with
  | none => { p with before := n :: p.before }
  | some a => { p with after := some (n :: a) }

/-- All eight pieces, the run filled with zeros. -/
def Pieces.whole? (p : Pieces) : Option (List Nat) :=
  match p.after with
  | none => if p.before.length = 8 then some p.before.reverse else none
  | some a =>
    if p.before.length + a.length ≤ 7 then
      some (p.before.reverse ++ List.replicate (8 - p.before.length - a.length) 0 ++ a.reverse)
    else none

/-- Reads pieces to the end of the text. A piece has up to four digits; four decimal bytes may stand
for the last two pieces. -/
def readPieces? (p : Pieces) (cs : List Char) : Option Pieces :=
  match cs with
  | [] => some p
  | c :: rest =>
    if p.count = 8 then none
    else if c = ':' then
      if p.after.isSome then none else readPieces? { p with after := some [] } rest
    else
      let digits := ((c :: rest).take 4).takeWhile isHexDigit
      let value := (digitsValue? 16 digits).getD 0
      match _h : (c :: rest).drop digits.length with
      | [] => some (p.add value)
      | '.' :: _ =>
        if digits.isEmpty || 6 < p.count then none
        else do
          match ← embeddedPieces? (c :: rest) with
          | [a, b] => some ((p.add a).add b)
          | _ => none
      | ':' :: next :: more =>
        if digits.isEmpty then none else readPieces? (p.add value) (next :: more)
      | _ => none
termination_by cs.length
decreasing_by
  · simp
  · have := congrArg List.length _h
    simp only [List.length_drop, List.length_cons] at this ⊢
    omega

def readEight? (cs : List Char) : Option (List Nat) :=
  match cs with
  | ':' :: ':' :: rest => (readPieces? { after := some [] } rest).bind Pieces.whole?
  | ':' :: _ | [] | [_] => none
  | cs => (readPieces? {} cs).bind Pieces.whole?

/-- A number in hexadecimal without zeros in front. -/
def hexText (n : Nat) : String := String.ofList (Nat.toDigits 16 n)

/-- The first of the longest runs of zeros: where it starts and how long it is. `at_` is the place
of the next piece, `run` the length of the run that ends before it. -/
def longestRun : (at_ run : Nat) → (best : Nat × Nat) → List Nat → Nat × Nat
  | _, _, best, [] => best
  | at_, run, best, n :: rest =>
    if n = 0 then
      let run := run + 1
      longestRun (at_ + 1) run (if best.2 < run then (at_ + 1 - run, run) else best) rest
    else longestRun (at_ + 1) 0 best rest

/-- The text of an address of eight pieces: the first of the longest runs of at least two zeros is
left out. -/
def eightText (pieces : List Nat) : String :=
  let (start, length) := longestRun 0 0 (0, 0) pieces
  if length < 2 then ":".intercalate (pieces.map hexText)
  else
    ":".intercalate ((pieces.take start).map hexText) ++ "::" ++
    ":".intercalate ((pieces.drop (start + length)).map hexText)

end ContentCache.Url
