import ContentCache.Json.Value
import ContentCache.Text.Decimal

/-!
# Tokens of JSON

The characters of a document become tokens: punctuation, strings and scalars. The lexer looks at
one character at a time and carries what it is inside of, so that it ends with the document. In a document
whose bytes are malformed there may be other things between the characters; where these are in a string, the
string is no text.

Main statement: `lex_cons` (a text is read character by character).
-/

namespace ContentCache.Json

inductive Token where
  | leftBrace | rightBrace | leftBracket | rightBracket | comma | colon
  | string (text : Option String)
  | scalar (value : Json)

/-- What the lexer is inside of. Strings are collected as code points and 16-bit units, last first;
words and numbers as characters, last first. -/
inductive Mode where
  | between
  | string (units : List Nat)
  | escape (units : List Nat)
  /-- Inside `\u`: how many digits are left, and the unit so far. -/
  | unit (units : List Nat) (left value : Nat)
  | number (written : List Char)
  | word (written : List Char)

/-- The text that code points and 16-bit units denote: pairs of surrogates are joined, and an
unpaired one denotes nothing. -/
def joinUnits : List Nat → Option (List Char)
  | [] => some []
  | [u] => if 0xD800 ≤ u && u ≤ 0xDFFF then none else some [Char.ofNat u]
  | u :: v :: rest =>
    if 0xD800 ≤ u && u ≤ 0xDBFF then
      if 0xDC00 ≤ v && v ≤ 0xDFFF then
        (joinUnits rest).map (Char.ofNat (0x10000 + (u - 0xD800) * 0x400 + (v - 0xDC00)) :: ·)
      else none
    else if 0xDC00 ≤ u && u ≤ 0xDFFF then none
    else (joinUnits (v :: rest)).map (Char.ofNat u :: ·)

/-- The text of a string from its units, last first. -/
def stringText (units : List Nat) : Option String := (joinUnits units.reverse).map String.ofList

def hexValue? (c : Char) : Option Nat :=
  if c.isDigit then some (c.toNat - 48)
  else if 'a' ≤ c && c ≤ 'f' then some (c.toNat - 87)
  else if 'A' ≤ c && c ≤ 'F' then some (c.toNat - 55)
  else none

/-- The character that a one-letter escape stands for. -/
def escape? (c : Char) : Option Nat :=
  match c with
  | '"' => some 34
  | '\\' => some 92
  | '/' => some 47
  | 'b' => some 8
  | 'f' => some 12
  | 'n' => some 10
  | 'r' => some 13
  | 't' => some 9
  | _ => none

def isNumberChar (c : Char) : Bool :=
  c.isDigit || c = '-' || c = '+' || c = '.' || c = 'e' || c = 'E'

/-- An exponent, or nothing. -/
def isExponent : List Char → Bool
  | [] => true
  | e :: rest =>
    (e = 'e' || e = 'E') &&
      (let digits := match rest with
        | '+' :: ds | '-' :: ds => ds
        | ds => ds
       !digits.isEmpty && digits.all Char.isDigit)

/-- A fraction and an exponent, either of them or nothing. -/
def isFractionExponent : List Char → Bool
  | '.' :: rest =>
    let digits := rest.takeWhile Char.isDigit
    !digits.isEmpty && isExponent (rest.drop digits.length)
  | rest => isExponent rest

/-- The number that is written so: an integer when it has neither fraction nor exponent and is not
negative zero. -/
def number? (written : List Char) : Option Json :=
  let negative := written.head? = some '-'
  let body := if negative then written.drop 1 else written
  let digits := body.takeWhile Char.isDigit
  let rest := body.drop digits.length
  if digits.isEmpty || (1 < digits.length && digits.head? = some '0') || !isFractionExponent rest then
    none
  else if rest.isEmpty && !(negative && Text.ofDigits digits = 0) then
    some (.integer (if negative then -(Text.ofDigits digits : Int) else Text.ofDigits digits))
  else some (.real (String.ofList written))

/-- The value that a word names. -/
def word? (written : List Char) : Option Json :=
  if written = "true".toList then some (.bool true)
  else if written = "false".toList then some (.bool false)
  else if written = "null".toList then some .null
  else none

/-- A character between tokens. -/
def between (c : Char) (acc : List Token) : Option (Mode × List Token) :=
  match c with
  | ' ' | '\n' | '\t' | '\r' => some (.between, acc)
  | '\x7b' => some (.between, .leftBrace :: acc)
  | '\x7d' => some (.between, .rightBrace :: acc)
  | '[' => some (.between, .leftBracket :: acc)
  | ']' => some (.between, .rightBracket :: acc)
  | ',' => some (.between, .comma :: acc)
  | ':' => some (.between, .colon :: acc)
  | '"' => some (.string [], acc)
  | _ =>
    if c.isDigit || c = '-' then some (.number [c], acc)
    else if c.isAlpha then some (.word [c], acc)
    else none

def lexChar (mode : Mode) (c : Char) (acc : List Token) : Option (Mode × List Token) :=
  match mode with
  | .between => between c acc
  | .string units =>
    if c = '"' then some (.between, .string (stringText units) :: acc)
    else if c = '\\' then some (.escape units, acc)
    else if c.toNat < 32 then none
    else some (.string (c.toNat :: units), acc)
  | .escape units =>
    if c = 'u' then some (.unit units 4 0, acc)
    else (escape? c).map fun u => (.string (u :: units), acc)
  | .unit units left value =>
    (hexValue? c).map fun d =>
      if left ≤ 1 then (.string ((value * 16 + d) :: units), acc)
      else (.unit units (left - 1) (value * 16 + d), acc)
  | .number written =>
    if isNumberChar c then some (.number (c :: written), acc)
    else do
      let value ← number? written.reverse
      between c (.scalar value :: acc)
  | .word written =>
    if c.isAlpha then some (.word (c :: written), acc)
    else do
      let value ← word? written.reverse
      between c (.scalar value :: acc)

/-- A character, or a malformed sequence. In a string that stands for two second halves of surrogate
pairs, of which one at least has no partner. -/
def lexMarked (mode : Mode) (c : Option Char) (acc : List Token) : Option (Mode × List Token) :=
  match c, mode with
  | some c, mode => lexChar mode c acc
  | none, .string units => some (.string (0xDC00 :: 0xDC00 :: units), acc)
  | none, _ => none

/-- The tokens of the characters and malformed sequences that are left, in a mode and after the tokens read
so far, last first. -/
def lexAll : (mode : Mode) → List (Option Char) → List Token → Option (List Token)
  | mode, [], acc =>
    match mode with
    | .between => some acc.reverse
    | .number written => (number? written.reverse).map fun v => (.scalar v :: acc).reverse
    | .word written => (word? written.reverse).map fun v => (.scalar v :: acc).reverse
    | _ => none
  | mode, c :: rest, acc =>
    match lexMarked mode c acc with
    | some (mode, acc) => lexAll mode rest acc
    | none => none

/-- The tokens of the characters of a text. -/
def lex (mode : Mode) (cs : List Char) (acc : List Token) : Option (List Token) :=
  lexAll mode (cs.map some) acc

theorem lex_nil (acc : List Token) : lex .between [] acc = some acc.reverse := rfl

theorem lex_cons (mode : Mode) (c : Char) (rest : List Char) (acc : List Token) :
    lex mode (c :: rest) acc =
      match lexChar mode c acc with
      | some (mode, acc) => lex mode rest acc
      | none => none := rfl

def tokens? (s : String) : Option (List Token) := lex .between s.toList []

end ContentCache.Json
