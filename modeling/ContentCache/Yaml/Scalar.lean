import ContentCache.Json.Token
import ContentCache.Yaml.Cursor

/-!
# Scalars in YAML

The texts of a YAML document, in the five ways of writing them, and what a plain one may stand for:
a truth value, nothing, or a natural number in decimal, hexadecimal, octal or binary digits.

Main definitions: `readBlock`, `readQuoted`, `readPlain`, `Scalar.natural?`, `Scalar.truth?`.
-/

namespace ContentCache.Yaml

inductive Style where
  | plain
  | singleQuoted
  | doubleQuoted
  | literal
  | folded
  deriving DecidableEq, Repr

/-- A scalar with its tag, when it has one. -/
structure Scalar where
  text : String
  style : Style
  tag : Option String := none
  deriving DecidableEq, Repr

/-! ## Block scalars -/

/-- What happens to the line breaks at the end of a block scalar. -/
inductive Chomping where
  | strip
  | clip
  | keep
  deriving DecidableEq

/-- The sign for a chomping. -/
def Chomping.ofChar? (c : Char) : Option Chomping :=
  if c = '+' then some .keep else if c = '-' then some .strip else none

/-- The header of a block scalar: its chomping and how far it is indented, in either order. -/
def readHeader (c : Cursor) : Option (Chomping × Option Nat × Cursor) :=
  let digit? (c : Cursor) : Option Nat := (c.head?.filter Char.isDigit).map Text.digitValue
  match c.head?.bind Chomping.ofChar? with
  | some chomping =>
    match digit? (c.advance 1) with
    | some 0 => none
    | some n => some (chomping, some n, c.advance 2)
    | none => some (chomping, none, c.advance 1)
  | none =>
    match digit? c with
    | some 0 => none
    | some n =>
      match (c.advance 1).head?.bind Chomping.ofChar? with
      | some chomping => some (chomping, some n, c.advance 2)
      | none => some (.clip, some n, c.advance 1)
    | none => some (.clip, none, c)

/-- Goes past indentation and empty lines: `indent` is how far the lines are indented, if that is
known, `deepest` the deepest indentation met so far and `breaks` the line breaks, last first. A tab
in the indentation is an error. -/
def skipEmptyLines : (left : Nat) → (indent : Option Nat) → (deepest : Nat) → (breaks : List Char) →
    Cursor → Option (Nat × List Char × Cursor)
  | 0, _, _, _, _ => none
  | left + 1, indent, deepest, breaks, c =>
    let blanks := (c.take (· = ' ')).length
    let c := c.advance (match indent with
      | none => blanks
      | some n => min blanks (n - c.column))
    let deepest := max deepest c.column
    let isInside := match indent with
      | none => true
      | some n => c.column < n
    if isInside && c.isAt '\t' then none
    else
      match c.head? with
      | some x =>
        if isBreak x then skipEmptyLines left indent deepest (x :: breaks) c.nextLine
        else some (deepest, breaks, c)
      | none => some (deepest, breaks, c)

/-- What has been read of a block scalar: its text, last character first, the break that ends the
last line, and whether that line begins with a blank. -/
structure Block where
  text : List Char := []
  lastBreak : Option Char := none
  startsBlank : Bool := false

/-- Adds the break after the last line and the empty lines after it, before a line that begins with
a blank or not. In folded text a single line feed between two other lines becomes a blank. -/
def Block.join (folded : Bool) (b : Block) (breaks : List Char) (nextBlank : Bool) : List Char :=
  if folded && b.lastBreak = some '\n' && !b.startsBlank && !nextBlank then
    if breaks.isEmpty then ' ' :: b.text else breaks ++ b.text
  else breaks ++ (b.lastBreak.toList ++ b.text)

/-- Reads the lines of a block scalar that is indented by `indent`; `breaks` are the empty lines
before the next one, last first. -/
def readLines (folded : Bool) (indent : Nat) : (left : Nat) → Block → (breaks : List Char) →
    Cursor → Option (Block × List Char × Cursor)
  | 0, _, _, _ => none
  | left + 1, b, breaks, c =>
    if c.column = indent && c.head?.isSome then do
      let line := c.take fun x => !isBreak x
      let nextBlank := (line.head?.map isBlank).getD false
      let text := line.reverse ++ b.join folded breaks nextBlank
      let c := c.skipLine
      let (lastBreak, c) := match c.head? with
        | some x => (some x, c.nextLine)
        | none => (none, c)
      let (_, breaks, c) ← skipEmptyLines (c.rest.length + 1) (some indent) 0 [] c
      readLines folded indent left ⟨text, lastBreak, nextBlank⟩ breaks c
    else some (b, breaks, c)

/-- Reads a block scalar from the character after its sign; `indent` is that of the lines around
it, or -1. -/
def readBlock (folded : Bool) (indent : Int) (c : Cursor) : Option (String × Cursor) := do
  let (chomping, extra, c) ← readHeader c
  let c := c.skip isBlank
  let c := if c.isAt '#' then c.skipLine else c
  if !c.isLineEnd then none
  else
    let c := if c.head?.isSome then c.nextLine else c
    let around := indent.toNat
    let given := extra.map fun n => if 0 ≤ indent then around + n else n
    let (deepest, breaks, c) ← skipEmptyLines (c.rest.length + 1) given 0 [] c
    let inner := given.getD (max 1 (max deepest (indent + 1).toNat))
    let (b, breaks, c) ← readLines folded inner (c.rest.length + 1) {} breaks c
    let text := match chomping with
      | .strip => b.text
      | .clip => b.lastBreak.toList ++ b.text
      | .keep => breaks ++ (b.lastBreak.toList ++ b.text)
    some (String.ofList text.reverse, c)

/-! ## Quoted scalars -/

/-- Goes past blanks and line breaks. Blanks after a break do not count. -/
def readGap : (left : Nat) → Gap → Cursor → Gap × Cursor
  | 0, g, c => (g, c)
  | left + 1, g, c =>
    match c.head? with
    | none => (g, c)
    | some x =>
      if isBlank x then
        readGap left (if g.firstBreak.isNone then { g with blanks := x :: g.blanks } else g)
          (c.advance 1)
      else if isBreak x then
        readGap left
          (if g.firstBreak.isNone then { g with firstBreak := some x }
           else { g with laterBreaks := x :: g.laterBreaks }) c.nextLine
      else (g, c)

/-- The number of hexadecimal digits that follow a letter after a backslash. -/
def escapeWidth (c : Char) : Option Nat :=
  if c = 'x' then some 2 else if c = 'u' then some 4 else if c = 'U' then some 8 else none

/-- The character that a letter after a backslash stands for. -/
def escapedChar? (c : Char) : Option Char :=
  match c with
  | '0' => some (Char.ofNat 0)
  | 'a' => some (Char.ofNat 7)
  | 'b' => some (Char.ofNat 8)
  | 't' | '\t' => some '\t'
  | 'n' => some '\n'
  | 'v' => some (Char.ofNat 11)
  | 'f' => some (Char.ofNat 12)
  | 'r' => some '\r'
  | 'e' => some (Char.ofNat 27)
  | ' ' | '"' | '/' | '\\' => some c
  | 'N' => some (Char.ofNat 0x85)
  | '_' => some (Char.ofNat 0xA0)
  | 'L' => some (Char.ofNat 0x2028)
  | 'P' => some (Char.ofNat 0x2029)
  | _ => none

/-- The character with a code in hexadecimal digits. -/
def codeChar? (digits : List Char) (width : Nat) : Option Char := do
  if digits.length < width then none
  let code ← digits.foldlM (fun acc d => do pure (acc * 16 + (← Json.hexValue? d))) 0
  if h : code.isValidChar then some (Char.ofNatAux code h) else none

/-- One step inside quotes at a character that is neither blank nor break: the characters it stands
for, and the cursor after it. Nothing is returned at the closing quote. -/
inductive QuotedStep where
  | char (x : Char) (c : Cursor)
  /-- A backslash before a line break: the break and the blanks after it do not count. -/
  | lineEscape (c : Cursor)
  | close (c : Cursor)

/-- Takes one step inside quotes. -/
def quotedStep (double : Bool) (c : Cursor) : Option QuotedStep :=
  match double, c.rest with
  | false, '\'' :: '\'' :: _ => some (.char '\'' (c.advance 2))
  | false, '\'' :: _ => some (.close (c.advance 1))
  | true, '"' :: _ => some (.close (c.advance 1))
  | true, '\\' :: x :: more =>
    if isBreak x then some (.lineEscape (c.advance 1).nextLine)
    else
      match escapeWidth x with
      | some width =>
        (codeChar? (more.take width) width).map fun y => .char y (c.advance (2 + width))
      | none => (escapedChar? x).map fun y => .char y (c.advance 2)
  | true, '\\' :: [] => none
  | _, x :: _ => some (.char x (c.advance 1))
  | _, [] => none

/-- Reads inside quotes up to the closing one; `text` is what has been read, last character first. A
separator of documents may not stand at the start of a line. -/
def readInQuotes (double : Bool) : (left : Nat) → (text : List Char) → Cursor →
    Option (String × Cursor)
  | 0, _, _ => none
  | left + 1, text, c =>
    if c.isDocumentMarker then none
    else
      match c.head? with
      | none => none
      | some x =>
        if isBlank x || isBreak x then
          let (g, c) := readGap (c.rest.length + 1) {} c
          readInQuotes double left (g.joint.reverse ++ text) c
        else
          match quotedStep double c with
          | none => none
          | some (.char y c) => readInQuotes double left (y :: text) c
          | some (.close c) => some (String.ofList text.reverse, c)
          | some (.lineEscape c) =>
            let (g, c) := readGap (c.rest.length + 1) { firstBreak := some '\n' } c
            readInQuotes double left (g.laterBreaks ++ text) c

/-- Reads a quoted scalar from the character after its quote. -/
def readQuoted (double : Bool) (c : Cursor) : Option (String × Cursor) :=
  readInQuotes double (c.rest.length + 1) [] c

/-! ## Plain scalars -/

/-- A bracket, brace, comma or question mark, which a colon may not touch inside brackets. -/
def touchesColon (c : Char) : Bool := ",?[]\x7b\x7d".toList.contains c

/-- A character that ends a plain scalar inside brackets. -/
def endsInFlow (c : Char) : Bool := ",[]\x7b\x7d".toList.contains c

/-- What has been read of a plain scalar: its text, last character first, and what lies after it. -/
structure Plain where
  text : List Char := []
  gap : Gap := {}

/-- Whether a plain scalar ends before a character that follows a gap or stands at its start. -/
def Plain.endsBefore (inFlow : Bool) (indent : Nat) (p : Plain) (x : Char) (c : Cursor) : Bool :=
  let isLater := p.gap.firstBreak.isSome
  (isLater || !p.gap.blanks.isEmpty || p.text.isEmpty) &&
    (c.isDocumentMarker || x = '#' || (!inFlow && isLater && c.column < indent))

/-- Reads a plain scalar: `indent` is how far its further lines have to be indented at least.
Nothing is returned for a colon that touches a bracket inside brackets, and for a tab in the
indentation. -/
def readPlainFrom (inFlow : Bool) (indent : Nat) : (left : Nat) → Plain → Cursor →
    Option (Plain × Cursor)
  | 0, _, _ => none
  | left + 1, p, c =>
    match c.head? with
    | none => some (p, c)
    | some x =>
      if isBlank x || isBreak x then
        if p.gap.firstBreak.isSome && x = '\t' && c.column < indent then none
        else
          let (gap, c) := readGap 1 p.gap c
          readPlainFrom inFlow indent left { p with gap } c
      else if p.endsBefore inFlow indent x c then some (p, c)
      else if inFlow && x = ':' && ((c.rest.drop 1).head?.map touchesColon).getD false then none
      else if (x = ':' && c.isBlankEnd 1) || (inFlow && endsInFlow x) then some (p, c)
      else
        readPlainFrom inFlow indent left ⟨x :: (p.gap.joint.reverse ++ p.text), {}⟩ (c.advance 1)

/-- Reads a plain scalar: its text, whether a line break follows it, and the cursor after that. -/
def readPlain (inFlow : Bool) (indent : Int) (c : Cursor) : Option (String × Bool × Cursor) := do
  let (p, c) ← readPlainFrom inFlow (indent + 1).toNat (c.rest.length + 1) {} c
  some (String.ofList p.text.reverse, p.gap.firstBreak.isSome, c)

/-! ## What plain scalars stand for -/

namespace Scalar

/-- The standard tag with a given name. -/
def standardTag (name : String) : String := "tag:yaml.org,2002:" ++ name

/-- Whether a scalar may stand for a value of a type: plain ones may, and literal ones with the tag
of the type. -/
def mayStandFor (name : String) (s : Scalar) : Bool :=
  s.style = .plain || (s.style = .literal && s.tag = some (standardTag name))

/-- The number that digits of a base denote, at least one digit. -/
def digits? (base : Nat) (cs : List Char) : Option Nat :=
  if cs.isEmpty then none
  else cs.foldlM (fun acc c => do
    let d ← Json.hexValue? c
    if d < base then some (acc * base + d) else none) 0

def largest : Nat := Text.largest64

/-- The number without a sign that a text denotes: in decimal without a zero in front, or after
`0x`, `0o` and `0b`. -/
def unsigned? (cs : List Char) : Option Nat :=
  let value := match cs with
    | '0' :: 'x' :: rest => digits? 16 rest
    | '0' :: 'o' :: rest => digits? 8 rest
    | '0' :: 'b' :: rest => digits? 2 rest
    | '0' :: _ :: _ => none
    | cs => digits? 10 cs
  value.filter fun n => n ≤ largest

/-- The natural number that a scalar stands for; a plus sign may stand before it. -/
def natural? (s : Scalar) : Option Nat :=
  if s.mayStandFor "int" then
    match s.text.toList with
    | '+' :: rest => unsigned? rest
    | cs => unsigned? cs
  else none

/-- The truth value that a scalar stands for. -/
def truth? (s : Scalar) : Option Bool :=
  if !s.mayStandFor "bool" then none
  else if ["true", "True", "TRUE"].contains s.text then some true
  else if ["false", "False", "FALSE"].contains s.text then some false
  else none

/-- The words for nothing. -/
def isNullWord (text : String) : Bool := ["null", "Null", "NULL", "~"].contains text

/-- The text of a scalar, or nothing when it stands for that. A scalar that is tagged as nothing and
says something else is an error. -/
def optionalText? (s : Scalar) : Option (Option String) :=
  if s.style ≠ .plain then some (some s.text)
  else
    match s.tag with
    | some tag =>
      if tag = standardTag "null" then if isNullWord s.text then some none else none
      else some (some s.text)
    | none => if s.text.isEmpty || isNullWord s.text then some none else some (some s.text)

end Scalar

end ContentCache.Yaml
