import ContentCache.Time.Stamp
import ContentCache.Url

/-!
# Paths of cached copies

A copy is stored under the host of its source, a stamp of the time and the path and query of the
source, reduced to a small alphabet: letters, digits, point, underscore, hyphen and the slash
between segments. Every run of other characters becomes one underscore, and empty segments and
those of one or two points are left out.

Main statements: `sanitizeSegment_allowed` (a reduced segment has allowed characters only) and
`sanitizeSegment_eq_self` (a segment of allowed characters stays as it is).
-/

namespace ContentCache.CachePath

/-- The characters that a path may have beside the slash. -/
def isAllowed (c : Char) : Bool := c.isAlphanum || c = '.' || c = '_' || c = '-'

/-- A segment with one underscore for each run of characters that are not allowed; `inRun` tells
that the character before belongs to such a run. -/
def reduce (inRun : Bool) : List Char → List Char
  | [] => []
  | c :: rest =>
    if isAllowed c then c :: reduce false rest
    else if inRun then reduce true rest
    else '_' :: reduce true rest

def sanitizeSegment (segment : List Char) : List Char := reduce false segment

/-- The pieces of a text between slashes: one more than it has slashes. -/
def segments : List Char → List (List Char)
  | [] => [[]]
  | c :: rest =>
    if c = '/' then [] :: segments rest
    else
      match segments rest with
      | [] => [[c]]
      | s :: more => (c :: s) :: more

/-- A segment that is left out: nothing, one point or two. -/
def isDropped (segment : List Char) : Bool :=
  segment = [] || segment = ['.'] || segment = ['.', '.']

def joinSegments : List (List Char) → List Char
  | [] => []
  | [s] => s
  | s :: more => s ++ '/' :: joinSegments more

/-- The segments that are kept of a path, reduced. -/
def keptSegments (path : List Char) : List (List Char) :=
  ((segments path).map sanitizeSegment).filter fun s => !isDropped s

def indexName : List Char := "index".toList

/-- A path reduced to well-formed segments. -/
def sanitizeChars (path : List Char) : List Char :=
  match keptSegments path with
  | [] => indexName
  | kept => joinSegments kept

def sanitize (path : String) : String := String.ofList (sanitizeChars path.toList)

theorem isAllowed_underscore : isAllowed '_' = true := by decide

/-- A reduced segment has allowed characters only. -/
theorem reduce_allowed (inRun : Bool) (segment : List Char) :
    ∀ c ∈ reduce inRun segment, isAllowed c = true := by
  induction segment generalizing inRun with
  | nil => simp [reduce]
  | cons d rest ih =>
    intro c hc
    unfold reduce at hc
    split at hc
    · rename_i hd
      rcases List.mem_cons.1 hc with rfl | hc
      · exact hd
      · exact ih false c hc
    · split at hc
      · exact ih true c hc
      · rcases List.mem_cons.1 hc with rfl | hc
        · exact isAllowed_underscore
        · exact ih true c hc

theorem sanitizeSegment_allowed (segment : List Char) :
    ∀ c ∈ sanitizeSegment segment, isAllowed c = true := reduce_allowed false segment

/-- A segment of allowed characters stays as it is. -/
theorem sanitizeSegment_eq_self {segment : List Char} (h : ∀ c ∈ segment, isAllowed c = true) :
    sanitizeSegment segment = segment := by
  unfold sanitizeSegment
  induction segment with
  | nil => rfl
  | cons d rest ih =>
    have hd : isAllowed d = true := h d (by simp)
    simp [reduce, hd, ih fun c hc => h c (List.mem_cons_of_mem _ hc)]

/-! ## The path of a copy -/

/-- The first segment: the host, with the port after an underscore when it is not the usual one. -/
def hostSegment (u : Url) : List Char :=
  let host := (u.hostText.getD "").toList
  match u.port with
  | none => sanitizeSegment host
  | some port => sanitizeSegment (host ++ '_' :: port.repr.toList)

/-- The path of a URL with its query. -/
def pathAndQuery (u : Url) : String := u.pathText ++ Url.part "?" u.query

/-- The path of a copy of a source that is stored at an instant. -/
def ofSource (u : Url) (now : Time.Instant) : String :=
  String.ofList (hostSegment u) ++ "/" ++ now.stamp ++ "/" ++ sanitize (pathAndQuery u)

end ContentCache.CachePath
