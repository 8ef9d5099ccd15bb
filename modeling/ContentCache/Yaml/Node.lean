import ContentCache.Yaml.Token

/-!
# Nodes of YAML

The tokens of a document make a tree of scalars, sequences and mappings. An alias to a scalar stands
for that scalar; one to a collection is kept as a mark only.

Main definition: `document?`.
-/

namespace ContentCache.Yaml

/-- A node. -/
inductive Node where
  | scalar (s : Scalar)
  | sequence (items : List Node)
  | mapping (entries : List (Node × Node))
  /-- A collection that stands elsewhere in the document. -/
  | elsewhere

/-- The node that stands where nothing is written. -/
def Node.absent : Node := .scalar ⟨"", .plain, none⟩

/-- The tokens that are left, with the anchors seen so far, the latest first, and the handles that
tags may have. -/
structure Reader where
  tokens : List Token
  anchors : List (String × Node) := []
  handles : List (String × String) := []

namespace Reader

def head? (r : Reader) : Option Token := r.tokens.head?

def next (r : Reader) : Reader := { r with tokens := r.tokens.drop 1 }

/-- The next token is one of a list. -/
def isAt (r : Reader) (ts : List Token) : Bool :=
  match r.head? with
  | none => false
  | some t => ts.contains t

/-- The end of the tokens, or one of a list. -/
def isAtOrEnd (r : Reader) (ts : List Token) : Bool := r.head?.isNone || r.isAt ts

def remember (r : Reader) (name : Option String) (node : Node) : Reader :=
  match name with
  | none => r
  | some n => { r with anchors := (n, node) :: r.anchors }

/-- The full form of a tag. -/
def fullTag? (r : Reader) (handle suffix : String) : Option String :=
  if handle.isEmpty then some suffix
  else
    match r.handles.lookup handle with
    | some stem => some (stem ++ suffix)
    | none =>
      if handle = "!" then some ("!" ++ suffix)
      else if handle = "!!" then some (Scalar.standardTag suffix)
      else none

/-- What may stand before a node: an anchor and a tag, in either order. -/
structure Properties where
  anchor : Option String := none
  tag : Option String := none

/-- Reads an anchor and a tag, in either order. -/
def properties (r : Reader) : Option (Properties × Reader) :=
  match r.tokens with
  | .anchor a :: .tag h s :: _ =>
    (r.fullTag? h s).map fun t => (⟨some a, some t⟩, r.next.next)
  | .anchor a :: _ => some (⟨some a, none⟩, r.next)
  | .tag h s :: .anchor a :: _ =>
    (r.fullTag? h s).map fun t => (⟨some a, some t⟩, r.next.next)
  | .tag h s :: _ => (r.fullTag? h s).map fun t => (⟨none, some t⟩, r.next)
  | _ => some ({}, r)

/-! ## Collections

Every function takes the number of steps that are left; each token needs a few of them. -/

mutual

/-- Reads a node. Indented collections count where `inBlock`, and a sequence that is not indented
where `flat`. -/
def node : (left : Nat) → (inBlock flat : Bool) → Reader → Option (Node × Reader)
  | 0, _, _, _ => none
  | left + 1, inBlock, flat, r =>
    match r.head? with
    | some (.alias name) => do some (← r.anchors.lookup name, r.next)
    | _ => do
      let (p, r) ← r.properties
      let open_ := r.remember p.anchor .elsewhere
      match r.head? with
      | some (.scalar text style) =>
        let s := Node.scalar ⟨text, style, p.tag⟩
        some (s, (r.remember p.anchor s).next)
      | some .flowSequenceStart => flowSequence left true [] open_.next
      | some .flowMappingStart => flowMapping left true [] open_.next
      | some .blockSequenceStart => if inBlock then blockSequence left [] open_.next else none
      | some .blockMappingStart => if inBlock then blockMapping left [] open_.next else none
      | some .blockEntry =>
        if flat then flatSequence left [] open_ else emptyNode p r
      | _ => emptyNode p r

/-- The node that stands after properties and nothing else. -/
def emptyNode (p : Properties) (r : Reader) : Option (Node × Reader) :=
  if p.anchor.isSome || p.tag.isSome then
    let s := Node.scalar ⟨"", .plain, p.tag⟩
    some (s, r.remember p.anchor s)
  else none

/-- Reads a node, or the absent one at certain tokens. -/
def nodeUnless : (left : Nat) → (inBlock flat : Bool) → (ends : List Token) → Reader →
    Option (Node × Reader)
  | 0, _, _, _, _ => none
  | left + 1, inBlock, flat, ends, r =>
    if r.isAtOrEnd ends then some (.absent, r) else node left inBlock flat r

/-- Reads the items of an indented sequence. -/
def blockSequence : (left : Nat) → (items : List Node) → Reader → Option (Node × Reader)
  | 0, _, _ => none
  | left + 1, items, r =>
    match r.head? with
    | some .blockEntry => do
      let (item, r) ← nodeUnless left true false [.blockEntry, .blockEnd] r.next
      blockSequence left (item :: items) r
    | some .blockEnd => some (.sequence items.reverse, r.next)
    | _ => none

/-- Reads the items of a sequence that is not indented. -/
def flatSequence : (left : Nat) → (items : List Node) → Reader → Option (Node × Reader)
  | 0, _, _ => none
  | left + 1, items, r =>
    match r.head? with
    | some .blockEntry => do
      let (item, r) ← nodeUnless left true false [.blockEntry, .key, .value, .blockEnd] r.next
      flatSequence left (item :: items) r
    | _ => some (.sequence items.reverse, r)

/-- Reads the entries of an indented mapping. -/
def blockMapping : (left : Nat) → (entries : List (Node × Node)) → Reader → Option (Node × Reader)
  | 0, _, _ => none
  | left + 1, entries, r =>
    match r.head? with
    | some .key => do
      let (key, r) ← nodeUnless left true true [.key, .value, .blockEnd] r.next
      let (value, r) ←
        if r.isAt [.value] then nodeUnless left true true [.key, .value, .blockEnd] r.next
        else some (.absent, r)
      blockMapping left ((key, value) :: entries) r
    | some .blockEnd => some (.mapping entries.reverse, r.next)
    | _ => none

/-- Reads the items of a sequence between brackets. -/
def flowSequence : (left : Nat) → (isFirst : Bool) → (items : List Node) → Reader →
    Option (Node × Reader)
  | 0, _, _, _ => none
  | left + 1, isFirst, items, r =>
    if r.isAt [.flowSequenceEnd] then some (.sequence items.reverse, r.next)
    else if !isFirst && !r.isAt [.flowEntry] then none
    else
      let r := if isFirst then r else r.next
      match r.head? with
      | some .flowSequenceEnd => some (.sequence items.reverse, r.next)
      | some .key => do
        let (entry, r) ← pair left r.next
        flowSequence left false (entry :: items) r
      | _ => do
        let (item, r) ← node left false false r
        flowSequence left false (item :: items) r

/-- Reads the one entry of a mapping that is an item of a sequence between brackets. A key that is
absent takes the token after it along. -/
def pair : (left : Nat) → Reader → Option (Node × Reader)
  | 0, _ => none
  | left + 1, r => do
    let isAbsent := r.isAtOrEnd [.value, .flowEntry, .flowSequenceEnd]
    let (key, r) ← if isAbsent then some (.absent, r.next) else node left false false r
    let (value, r) ←
      if r.isAt [.value] then nodeUnless left false false [.flowEntry, .flowSequenceEnd] r.next
      else some (.absent, r)
    some (.mapping [(key, value)], r)

/-- Reads the entries of a mapping between braces. -/
def flowMapping : (left : Nat) → (isFirst : Bool) → (entries : List (Node × Node)) → Reader →
    Option (Node × Reader)
  | 0, _, _, _ => none
  | left + 1, isFirst, entries, r =>
    if r.isAt [.flowMappingEnd] then some (.mapping entries.reverse, r.next)
    else if !isFirst && !r.isAt [.flowEntry] then none
    else
      let r := if isFirst then r else r.next
      match r.head? with
      | some .flowMappingEnd => some (.mapping entries.reverse, r.next)
      | some .key => do
        let (key, r) ← nodeUnless left false false [.value, .flowEntry, .flowMappingEnd] r.next
        let (value, r) ←
          if r.isAt [.value] then nodeUnless left false false [.flowEntry, .flowMappingEnd] r.next
          else some (.absent, r)
        flowMapping left false ((key, value) :: entries) r
      | _ => do
        let (key, r) ← node left false false r
        flowMapping left false ((key, .absent) :: entries) r

end

/-! ## Documents -/

/-- Goes past the ends of documents. -/
def skipEnds (r : Reader) : Reader :=
  { r with tokens := r.tokens.dropWhile fun t => t = .documentEnd }

/-- Reads directives: at most one version, which is 1.1 or 1.2, and each handle once. -/
def directives : (left : Nat) → (hasVersion : Bool) → Reader → Option Reader
  | 0, _, _ => none
  | left + 1, hasVersion, r =>
    match r.head? with
    | some (.version major minor) =>
      if hasVersion || major ≠ 1 || (minor ≠ 1 && minor ≠ 2) then none
      else directives left true r.next
    | some (.tagHandle handle stem) =>
      if (r.handles.lookup handle).isSome then none
      else directives left hasVersion { r.next with handles := (handle, stem) :: r.handles }
    | _ => some r

/-- The steps that reading some tokens may take. -/
def steps (r : Reader) : Nat := 4 * r.tokens.length + 4

def content (r : Reader) : Option (Node × Reader) :=
  match r.head? with
  | none | some .documentStart | some .documentEnd | some (.version ..) | some (.tagHandle ..) =>
    some (.absent, r)
  | _ => r.node r.steps true false

/-- Reads a document from its directives on. -/
def document (r : Reader) : Option (Node × Reader) := do
  let r ← r.directives (r.tokens.length + 1) false
  if r.isAt [.documentStart] then r.next.content else none

/-- Reads the first document: its content may begin without a mark. -/
def firstDocument (r : Reader) : Option (Node × Reader) :=
  match r.head? with
  | some (.version ..) | some (.tagHandle ..) | some .documentStart => r.document
  | _ => r.node r.steps true false

end Reader

/-- The only document of a text: nothing when the text is not well-formed or has several, and an
absent node when it has none. -/
def document? (text : String) : Option Node := do
  let r : Reader := { tokens := ← tokens? text }
  if r.head?.isNone then some .absent
  else
    let (node, r) ← r.firstDocument
    let r := (if r.isAt [.documentEnd] then r.next else r).skipEnds
    if r.head?.isNone then some node else none

end ContentCache.Yaml
