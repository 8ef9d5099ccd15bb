/-!
# Decimal numbers in text

Natural numbers are written in as few digits as they need, or in a fixed number of them with
zeros in front; texts are read as decimal numbers with a largest value.

Main statement: `fixedChars_length` (a fixed-width number has the width it is given).
-/

namespace ContentCache.Text

def digit (n : Nat) : Char := Char.ofNat (48 + n % 10)

def digitValue (c : Char) : Nat := c.toNat - 48

/-- The last `width` decimal digits of `n`, most significant first. -/
def fixedChars : (width n : Nat) → List Char
  | 0, _ => []
  | width + 1, n => fixedChars width (n / 10) ++ [digit n]

/-- The last `width` decimal digits as a text. -/
def fixed (width n : Nat) : String := String.ofList (fixedChars width n)

theorem fixedChars_length (width n : Nat) : (fixedChars width n).length = width := by
  induction width generalizing n with
  | zero => rfl
  | succ width ih => simp [fixedChars, ih]

/-- The decimal digits of `n`, at least `width` of them. -/
def padded (width n : Nat) : String :=
  let digits := n.repr
  String.ofList (List.replicate (width - digits.length) '0') ++ digits

/-- Digits without the zeros at their end. -/
def withoutTrailingZeros (cs : List Char) : List Char := (cs.reverse.dropWhile (· = '0')).reverse

/-- The number that a list of decimal digits denotes. -/
def ofDigits (cs : List Char) : Nat := cs.foldl (fun acc c => acc * 10 + digitValue c) 0

def largest64 : Nat := 18446744073709551615

/-- Why a text is no number of a bounded type. -/
inductive NumberError where
  | empty
  | invalidDigit
  | tooLarge

def NumberError.message : NumberError → String
  | .empty => "cannot parse integer from empty string"
  | .invalidDigit => "invalid digit found in string"
  | .tooLarge => "number too large to fit in target type"

/-- Reads an unsigned decimal number of at most `largest`; one leading `+` is allowed. The digits
before the first other character decide whether the number is too large. -/
def readUnsigned (largest : Nat) (cs : List Char) : Except NumberError Nat :=
  let body := match cs with
    | '+' :: d :: rest => d :: rest
    | _ => cs
  let leading := body.takeWhile Char.isDigit
  if cs.isEmpty then .error .empty
  else if largest < ofDigits leading then .error .tooLarge
  else if leading.isEmpty || leading.length < body.length then .error .invalidDigit
  else .ok (ofDigits leading)

end ContentCache.Text
