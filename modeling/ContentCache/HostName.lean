import ContentCache.HostName.Bootstring
import ContentCache.HostName.Direction
import ContentCache.HostName.Joining
import ContentCache.HostName.Mapping

/-!
# Host names

The ASCII form of a host name. Its characters are mapped and composed, every label is checked, and
a label with other characters than ASCII is written in letters, digits and hyphens after the mark
`xn--`. A label that comes with the mark is read back and has to be in order itself.

Main definition: `ascii?`.
-/

namespace ContentCache.HostName

def isAscii (c : Char) : Bool := c.toNat < 128

/-- The signs that may not stand in a host name. -/
def refusedSigns : List Char := "%#/:<>?@[\\]^|".toList

/-- A character that may not stand in a host name: control characters, the blank and some signs. -/
def isRefused (c : Char) : Bool := c.toNat ≤ 32 || c.toNat = 127 || refusedSigns.contains c

/-- The mark before a label that is written in ASCII only. -/
def encodedMark : List Char := "xn--".toList

def labels (name : List Char) : List (List Char) := piecesBetween '.' name

/-- Labels with a point between them. -/
def unlabels : List (List Char) → List Char
  | [] => []
  | [l] => l
  | l :: rest => l ++ '.' :: unlabels rest

/-- A name with its characters mapped and composed; nothing when one of them is refused. -/
def normal? (name : List Char) : Option (List Char) :=
  (name.mapM mapped).map fun cs => composed cs.flatten

/-- Whether a label begins with no mark and its joiners stand where they may. -/
def isSound (label : List Char) : Bool := !(label.head?.any isMark) && joinersFit label

/-- A label in both its forms. -/
structure Label where
  shown : List Char
  written : List Char

/-- The longest label that is encoded, in characters. -/
def longestShown : Nat := 1000

/-- The longest encoded label that is read back, in characters after the mark. -/
def longestWritten : Nat := 2000

/-- Both forms of a mapped and composed label; nothing when it is not in order. -/
def label? (label : List Char) : Option Label :=
  if encodedMark.isPrefixOf label then do
    let written := label.drop encodedMark.length
    let shown ← Bootstring.decode? written
    if written.length ≤ longestWritten && !shown.all isAscii && normal? shown = some shown &&
        isSound shown then
      some ⟨shown, label⟩
    else none
  else if label.all isAscii then some ⟨label, label⟩
  else if label.length ≤ longestShown && isSound label then
    some ⟨label, encodedMark ++ Bootstring.encode label⟩
  else none

/-- Whether the labels of a name may stand together: either no letter is written from right to
left, or every label runs in one direction. -/
def directionsFit (ls : List Label) : Bool :=
  let ds := ls.map fun l => l.shown.map direction
  !(ds.any fun d => d.any Direction.isRightward) || ds.all runsOneWay

/-- The ASCII form of any name; nothing when it is not in order. -/
def encoded? (name : List Char) : Option (List Char) := do
  let ls ← (labels (← normal? name)).mapM label?
  if directionsFit ls && ls.all fun l => !(l.shown.any isRefused) then
    some (unlabels (ls.map Label.written))
  else none

/-- A name of ASCII labels none of which is encoded. -/
def isPlain (name : List Char) : Bool :=
  name.all isAscii && (labels (name.map Char.toLower)).all fun l => !encodedMark.isPrefixOf l

/-- The ASCII form of a name; nothing when it is not in order. -/
def ascii? (name : List Char) : Option (List Char) :=
  if isPlain name then
    if name.any isRefused then none else some (name.map Char.toLower)
  else encoded? name

end ContentCache.HostName
