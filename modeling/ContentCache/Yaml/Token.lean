import ContentCache.Bytes
import ContentCache.Yaml.Scalar

/-!
# Tokens of YAML

A YAML text is a sequence of tokens. Structure is told by indentation and by brackets; tokens for
the beginning and end of indented collections are made on the way. Whether a piece of text is the
key of a mapping is known only at the colon after it, so that each possible key leaves a place that
the colon fills.

Main definition: `tokens?`.
-/

namespace ContentCache.Yaml

inductive Token where
  /-- `%YAML` with a version. -/
  | version (major minor : Nat)
  /-- `%TAG` with a handle and what it stands for. -/
  | tagHandle (handle stem : String)
  | documentStart
  | documentEnd
  | blockSequenceStart
  | blockMappingStart
  | blockEnd
  | flowSequenceStart
  | flowSequenceEnd
  | flowMappingStart
  | flowMappingEnd
  | blockEntry
  | flowEntry
  | key
  | value
  | alias (name : String)
  | anchor (name : String)
  | tag (handle suffix : String)
  | scalar (text : String) (style : Style)
  deriving DecidableEq, Repr

/-! ## Names, tags and directives -/

/-- A letter, a digit, a hyphen or an underscore. -/
def isWordChar (c : Char) : Bool := c.isAlphanum || c = '-' || c = '_'

/-- A character of a tag beside letters, digits, hyphens and underscores. -/
def isTagChar (c : Char) : Bool := ";/?:@&=+$.!~*'()%".toList.contains c

/-- What may follow the name of an anchor. -/
def endsName (c : Char) : Bool := isBlank c || isBreak c || "?:,]\x7d%@`".toList.contains c

/-- Reads the name of an anchor or alias after its sign. -/
def readName (c : Cursor) : Option (String × Cursor) :=
  let name := c.take isWordChar
  let c := c.advance name.length
  if name.isEmpty || !c.endsOr endsName 0 then none else some (String.ofList name, c)

/-- The bytes of escaped characters in a tag, and the others as they are. -/
def tagText? : List Char → Option Bytes
  | [] => some []
  | '%' :: a :: b :: rest => do
    let high ← Json.hexValue? a
    let low ← Json.hexValue? b
    (UInt8.ofNat (high * 16 + low) :: ·) <$> tagText? rest
  | '%' :: _ => none
  | c :: rest => (Bytes.ofText (String.singleton c) ++ ·) <$> tagText? rest

/-- Reads the part of a tag after its handle. Commas and brackets count only where `inFull`. -/
def readTagText (inFull : Bool) (c : Cursor) : Option (String × Cursor) := do
  let written := c.take fun x => isWordChar x || isTagChar x || (inFull && ",[]".toList.contains x)
  let text ← (← tagText? written).text?
  some (text, c.advance written.length)

/-- Reads the handle of a tag: an exclamation mark, or a word between two of them. Beside it stands
what was read after a single mark without a second one. -/
def readHandle (c : Cursor) : Option (List Char × Cursor) :=
  if c.isAt '!' then
    let word := (c.advance 1).take isWordChar
    let after := c.advance (word.length + 1)
    if after.isAt '!' then some ('!' :: word ++ ['!'], after.advance 1) else some ('!' :: word, after)
  else none

/-- Reads a tag from its exclamation mark. -/
def readTag (inFlow : Bool) (c : Cursor) : Option (Token × Cursor) := do
  let (token, c) ←
    if (c.rest.drop 1).head? = some '<' then do
      let (text, c) ← readTagText true (c.advance 2)
      if text.isEmpty || !c.isAt '>' then none
      else some (Token.tag "" text, c.advance 1)
    else do
      let (handle, after) ← readHandle c
      if 1 < handle.length && handle.getLast? = some '!' then do
        let (text, after) ← readTagText false after
        if text.isEmpty then none else some (Token.tag (String.ofList handle) text, after)
      else do
        let (text, after) ← readTagText false (c.advance 1)
        some (if text.isEmpty then Token.tag "" "!" else Token.tag "!" text, after)
  if c.isBlankEnd 0 || (inFlow && c.isAt ',') then some (token, c) else none

/-- Reads the number of a version, at most nine digits. -/
def readVersionNumber (c : Cursor) : Option (Nat × Cursor) :=
  let digits := c.take Char.isDigit
  if digits.isEmpty || 9 < digits.length then none
  else some (Text.ofDigits digits, c.advance digits.length)

/-- Reads the arguments of a directive with a given name. -/
def readDirectiveArguments (name : List Char) (c : Cursor) : Option (Token × Cursor) := do
  if name = "YAML".toList then do
    let (major, c) ← readVersionNumber (c.skip isBlank)
    if !c.isAt '.' then none
    else do
      let (minor, c) ← readVersionNumber (c.advance 1)
      some (.version major minor, c)
  else if name = "TAG".toList then do
    let (handle, c) ← readHandle (c.skip isBlank)
    if handle.getLast? ≠ some '!' || !(c.head?.any isBlank) then none
    else do
      let (stem, c) ← readTagText true (c.skip isBlank)
      if stem.isEmpty || !c.isBlankEnd 0 then none
      else some (.tagHandle (String.ofList handle) stem, c)
  else none

/-- Reads a directive after its percent sign, with the line that it stands in. -/
def readDirective (c : Cursor) : Option (Token × Cursor) := do
  let name := c.take isWordChar
  let c := c.advance name.length
  if name.isEmpty || !c.isBlankEnd 0 then none
  else do
    let (token, c) ← readDirectiveArguments name c
    let c := c.skip isBlank
    let c := if c.isAt '#' then c.skipLine else c
    if !c.isLineEnd then none
    else some (token, if c.head?.isSome then c.nextLine else c)

/-! ## Scanning -/

/-- A piece of text that may turn out to be a key: the place that it left, where it began, and
whether it has to be a key because nothing else may stand there. -/
structure PossibleKey where
  place : Nat
  line : Nat
  column : Nat
  index : Nat
  isRequired : Bool

/-- How far the scanning of a text has come. Tokens stand in places; a possible key leaves an empty
place before its own tokens. `keys` holds the possible key of each level of brackets, innermost
first. -/
structure Scan where
  cursor : Cursor
  places : Array (List Token) := #[]
  keyAllowed : Bool := true
  indent : Int := -1
  outerIndents : List Int := []
  keys : List (Option PossibleKey) := [none]

namespace Scan

/-- Inside brackets. -/
def inFlow (s : Scan) : Bool := 1 < s.keys.length

def push (s : Scan) (t : Token) : Scan := { s with places := s.places.push [t] }

/-- Adds a token that takes some characters. -/
def pushPast (s : Scan) (t : Token) (length : Nat) : Scan :=
  { s.push t with cursor := s.cursor.advance length }

/-- Drops the possible key of the innermost level; a required one must not be dropped. -/
def dropKey (s : Scan) : Option Scan :=
  match s.keys with
  | some key :: outer => if key.isRequired then none else some { s with keys := none :: outer }
  | _ => some s

/-- Remembers that a key may begin here. -/
def saveKey (s : Scan) : Option Scan := do
  if !s.keyAllowed then some s
  else
    let s ← s.dropKey
    let key : PossibleKey :=
      { place := s.places.size, line := s.cursor.line, column := s.cursor.column,
        index := s.cursor.index, isRequired := !s.inFlow && s.indent = (s.cursor.column : Int) }
    some { s with keys := some key :: s.keys.drop 1, places := s.places.push [] }

/-- The most characters that a key may be away from its colon. -/
def longestKey : Nat := 1024

/-- Whether a possible key is too far away to be one. -/
def isStale (s : Scan) (key : PossibleKey) : Bool :=
  key.line < s.cursor.line || key.index + longestKey < s.cursor.index

/-- Forgets the possible keys that are too far away. -/
def forgetStaleKeys (s : Scan) : Option Scan := do
  let keys ← s.keys.mapM fun k =>
    match k with
    | none => some none
    | some key => if s.isStale key then (if key.isRequired then none else some none) else some (some key)
  some { s with keys }

/-- Begins an indented collection when the column is past the indentation; nothing changes inside
brackets. Beside the state stands whether it began. -/
def deepen (s : Scan) (column : Nat) : Scan × Bool :=
  if !s.inFlow && s.indent < (column : Int) then
    ({ s with indent := column, outerIndents := s.indent :: s.outerIndents }, true)
  else (s, false)

/-- Ends the indented collections whose indentation is past a column. -/
def endCollections (places : Array (List Token)) (indent column : Int) :
    List Int → Array (List Token) × Int × List Int
  | [] => (places, indent, [])
  | outer :: rest =>
    if column < indent then endCollections (places.push [.blockEnd]) outer column rest
    else (places, indent, outer :: rest)

/-- Ends the indented collections whose indentation is past a column; nothing changes inside
brackets. -/
def unwind (s : Scan) (column : Int) : Scan :=
  if s.inFlow then s
  else
    let (places, indent, outerIndents) := endCollections s.places s.indent column s.outerIndents
    { s with places, indent, outerIndents }

/-- Goes to the next token: past blanks, comments and line breaks. A tab does not count at the start
of a line where a key may begin. -/
def skipToToken : (left : Nat) → Scan → Scan
  | 0, s => s
  | left + 1, s =>
    let c := s.cursor.skip fun x => x = ' ' || (x = '\t' && (s.inFlow || !s.keyAllowed))
    let c := if c.isAt '#' then c.skipLine else c
    match c.head? with
    | some x =>
      if isBreak x then
        skipToToken left { s with cursor := c.nextLine, keyAllowed := s.keyAllowed || !s.inFlow }
      else { s with cursor := c }
    | none => { s with cursor := c }

def directive (s : Scan) : Option Scan := do
  let s ← (s.unwind (-1)).dropKey
  let (token, cursor) ← readDirective (s.cursor.advance 1)
  some { s.push token with cursor, keyAllowed := false }

/-- A separator of documents. -/
def documentMarker (s : Scan) (t : Token) : Option Scan := do
  let s ← (s.unwind (-1)).dropKey
  some { s.pushPast t 3 with keyAllowed := false }

def openBracket (s : Scan) (t : Token) : Option Scan := do
  let s ← s.saveKey
  some { s.pushPast t 1 with keys := none :: s.keys, keyAllowed := true }

def closeBracket (s : Scan) (t : Token) : Option Scan := do
  let s ← s.dropKey
  let keys := if s.inFlow then s.keys.drop 1 else s.keys
  some { s.pushPast t 1 with keys, keyAllowed := false }

def comma (s : Scan) : Option Scan := do
  let s ← s.dropKey
  some { s.pushPast .flowEntry 1 with keyAllowed := true }

/-- A hyphen before an item. -/
def hyphen (s : Scan) : Option Scan := do
  if !s.inFlow && !s.keyAllowed then none
  else
    let (s, begins) := s.deepen s.cursor.column
    let s ← (if begins then s.push .blockSequenceStart else s).dropKey
    some { s.pushPast .blockEntry 1 with keyAllowed := true }

/-- A question mark before a key. -/
def questionMark (s : Scan) : Option Scan := do
  if !s.inFlow && !s.keyAllowed then none
  else
    let (s, begins) := s.deepen s.cursor.column
    let s ← (if begins then s.push .blockMappingStart else s).dropKey
    some { s.pushPast .key 1 with keyAllowed := !s.inFlow }

/-- A colon after a key: the place of a possible key is filled, or the key is empty. -/
def colon (s : Scan) : Option Scan := do
  match s.keys with
  | some key :: outer =>
    let (s, begins) := s.deepen key.column
    let opening := if begins then [Token.blockMappingStart, .key] else [.key]
    let s := { s with places := s.places.setIfInBounds key.place opening, keys := none :: outer }
    some { s.pushPast .value 1 with keyAllowed := false }
  | _ =>
    if !s.inFlow && !s.keyAllowed then none
    else
      let (s, begins) := s.deepen s.cursor.column
      let s := if begins then s.push .blockMappingStart else s
      some { s.pushPast .value 1 with keyAllowed := !s.inFlow }

def name (s : Scan) (token : String → Token) : Option Scan := do
  let s ← s.saveKey
  let (text, cursor) ← readName (s.cursor.advance 1)
  some { s.push (token text) with cursor, keyAllowed := false }

def tag (s : Scan) : Option Scan := do
  let s ← s.saveKey
  let (token, cursor) ← readTag s.inFlow s.cursor
  some { s.push token with cursor, keyAllowed := false }

def block (s : Scan) (folded : Bool) : Option Scan := do
  let s ← s.dropKey
  let (text, cursor) ← readBlock folded s.indent (s.cursor.advance 1)
  some { s.push (.scalar text (if folded then .folded else .literal)) with cursor, keyAllowed := true }

def quoted (s : Scan) (double : Bool) : Option Scan := do
  let s ← s.saveKey
  let (text, cursor) ← readQuoted double (s.cursor.advance 1)
  some { s.push (.scalar text (if double then .doubleQuoted else .singleQuoted)) with
         cursor, keyAllowed := false }

def plain (s : Scan) : Option Scan := do
  let s ← s.saveKey
  let (text, lineFollows, cursor) ← readPlain s.inFlow s.indent s.cursor
  some { s.push (.scalar text .plain) with cursor, keyAllowed := lineFollows }

/-- A character that no plain scalar begins with, unless it is a hyphen, question mark or colon. -/
def isIndicator (c : Char) : Bool := "-?:,[]\x7b\x7d#&*!|>'\"%@`".toList.contains c

/-- Whether a plain scalar may begin at the next character. -/
def beginsPlain (s : Scan) (x : Char) : Bool :=
  !(isBlank x || isBreak x || isIndicator x) ||
  (x = '-' && !(((s.cursor.rest.drop 1).head?.map isBlank).getD false)) ||
  (!s.inFlow && (x = '?' || x = ':') && !s.cursor.isBlankEnd 1)

/-- The token that begins with the next character. -/
def token (s : Scan) (x : Char) : Option Scan :=
  let c := s.cursor
  let standsAlone := c.isBlankEnd 1
  if c.column = 0 && x = '%' then s.directive
  else if c.isMarker '-' then s.documentMarker .documentStart
  else if c.isMarker '.' then s.documentMarker .documentEnd
  else if x = '[' then s.openBracket .flowSequenceStart
  else if x = '\x7b' then s.openBracket .flowMappingStart
  else if x = ']' then s.closeBracket .flowSequenceEnd
  else if x = '\x7d' then s.closeBracket .flowMappingEnd
  else if x = ',' then s.comma
  else if x = '-' && standsAlone then s.hyphen
  else if x = '?' && (s.inFlow || standsAlone) then s.questionMark
  else if x = ':' && (s.inFlow || standsAlone) then s.colon
  else if x = '*' then s.name .alias
  else if x = '&' then s.name .anchor
  else if x = '!' then s.tag
  else if x = '|' && !s.inFlow then s.block false
  else if x = '>' && !s.inFlow then s.block true
  else if x = '\'' then s.quoted false
  else if x = '"' then s.quoted true
  else if s.beginsPlain x then s.plain
  else none

/-- Scans to the end of the text. -/
def run : (left : Nat) → Scan → Option (List Token)
  | 0, _ => none
  | left + 1, s => do
    let s := skipToToken (s.cursor.rest.length + 1) s
    let s ← s.forgetStaleKeys
    let s := s.unwind s.cursor.column
    match s.cursor.head? with
    | none =>
      let s ← (s.unwind (-1)).dropKey
      some s.places.toList.flatten
    | some x => (← s.token x).run left

end Scan

/-- The mark that may stand before a text. -/
def orderMark : Char := Char.ofNat 0xFEFF

/-- The tokens of a text; nothing when it is not well-formed. -/
def tokens? (text : String) : Option (List Token) :=
  let cs := text.toList
  let cs := if cs.head? = some orderMark then cs.drop 1 else cs
  let cs := if cs.head? = some orderMark then cs.drop 1 else cs
  if !cs.all isAllowed then none
  else
    let cs := unifyBreaks cs
    Scan.run (cs.length + 1) { cursor := { rest := cs } }

end ContentCache.Yaml
