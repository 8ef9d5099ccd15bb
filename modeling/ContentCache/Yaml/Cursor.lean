import ContentCache.Text.Decimal

/-!
# Places in a YAML text

A YAML text is read from a cursor: the characters that are left, and the line, the column and the
number of characters before them. Line breaks are one character each after `unifyBreaks`.

Main definitions: `Cursor`, `unifyBreaks`.
-/

namespace ContentCache.Yaml

def isBlank (c : Char) : Bool := c = ' ' || c = '\t'

/-- A line break: a line feed, or one of the two separators of Unicode. -/
def isBreak (c : Char) : Bool := c = '\n' || c.toNat = 0x2028 || c.toNat = 0x2029

/-- A character that a YAML text may hold. -/
def isAllowed (c : Char) : Bool :=
  let n := c.toNat
  n = 9 || n = 10 || n = 13 || (0x20 ≤ n && n ≤ 0x7E) || n = 0x85 || (0xA0 ≤ n && n ≤ 0xD7FF) ||
  (0xE000 ≤ n && n ≤ 0xFFFD) || 0x10000 ≤ n

/-- Every carriage return with or without a line feed, and every next-line character, as one line
feed. -/
def unifyBreaks : List Char → List Char
  | '\r' :: '\n' :: rest => '\n' :: unifyBreaks rest
  | '\r' :: rest => '\n' :: unifyBreaks rest
  | c :: rest => (if c.toNat = 0x85 then '\n' else c) :: unifyBreaks rest
  | [] => []

/-- A place in a text. -/
structure Cursor where
  rest : List Char
  line : Nat := 0
  column : Nat := 0
  index : Nat := 0

namespace Cursor

def head? (c : Cursor) : Option Char := c.rest.head?

def isAt (c : Cursor) (x : Char) : Bool := c.rest.head? = some x

/-- Nothing is left, or what comes next, after some characters, satisfies a test. -/
def endsOr (test : Char → Bool) (c : Cursor) (skip : Nat) : Bool :=
  match (c.rest.drop skip).head? with
  | none => true
  | some x => test x

/-- A blank, a line break or the end, after some characters. -/
def isBlankEnd (c : Cursor) (skip : Nat) : Bool := c.endsOr (fun x => isBlank x || isBreak x) skip

def isLineEnd (c : Cursor) : Bool := c.endsOr isBreak 0

/-- Goes past some characters of one line. -/
def advance (c : Cursor) (n : Nat) : Cursor :=
  { c with rest := c.rest.drop n, column := c.column + n, index := c.index + n }

/-- Goes past one line break. -/
def nextLine (c : Cursor) : Cursor :=
  { rest := c.rest.drop 1, line := c.line + 1, column := 0, index := c.index + 1 }

/-- The next characters of a line that satisfy a test. -/
def take (c : Cursor) (test : Char → Bool) : List Char := c.rest.takeWhile test

/-- Goes past the next characters of a line that satisfy a test. -/
def skip (c : Cursor) (test : Char → Bool) : Cursor := c.advance (c.take test).length

/-- Goes past what is left of a line before its break. -/
def skipLine (c : Cursor) : Cursor := c.skip fun x => !isBreak x

/-- Three characters that separate documents, at the start of a line and with nothing after them. -/
def isMarker (c : Cursor) (x : Char) : Bool :=
  c.column = 0 && c.rest.take 3 = [x, x, x] && c.isBlankEnd 3

/-- A separator of documents. -/
def isDocumentMarker (c : Cursor) : Bool := c.isMarker '-' || c.isMarker '.'

end Cursor

/-- Line breaks and blanks between two pieces of text, as they are met: the blanks before the first
break, the first break, and the later ones, last first. -/
structure Gap where
  blanks : List Char := []
  firstBreak : Option Char := none
  laterBreaks : List Char := []

/-- The text that joins the pieces: a single line feed becomes a blank, and of several the first is
dropped. -/
def Gap.joint (g : Gap) : List Char :=
  match g.firstBreak with
  | none => g.blanks.reverse
  | some '\n' => if g.laterBreaks = [] then [' '] else g.laterBreaks.reverse
  | some c => c :: g.laterBreaks.reverse

end ContentCache.Yaml
