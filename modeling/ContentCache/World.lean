import ContentCache.Cache.Counters
import ContentCache.Cache.Event
import ContentCache.Files.Spool
import ContentCache.Http.Server
import ContentCache.Metadata.Method
import ContentCache.Time.Instant

/-!
# Surroundings and what is observed in them

A call meets a world that it cannot change: a server, local files, disks, a clock and, perhaps, a deadline.
What happens is written into a journal that only grows, whatever the call ends in: requests with
their answers, questions for tokens, log lines, events, counts, waits and the time that has passed.

* `World`, `Journal`: the surroundings, and what has been observed.
* `Exchange`: a complete request with the answer that it got and the purpose that it served.
* `World.now`: the instant, which is later by the time that has passed.
* `World.newSpool`, `World.spillFile`: the nameless files of a call.
-/

namespace ContentCache

/-- What a request is made for. -/
inductive Purpose where
  | call (method : Metadata.Method)
  /-- Content goes to the object store. -/
  | upload
  /-- Content comes from the object store. -/
  | download
  /-- Content comes from its origin. -/
  | origin
  deriving DecidableEq, Repr

/-- A complete request, what the server did about it, and what it was made for. -/
structure Exchange where
  purpose : Purpose
  /-- The redirects that led to it. -/
  hop : Nat
  /-- The time that had passed. -/
  moment : Time.Span
  request : Http.Request
  answer : Http.Answer
  deriving DecidableEq, Repr

/-- How much a log line matters. -/
inductive LogLevel where
  | debug
  | info
  | warning
  deriving DecidableEq, Repr

def LogLevel.text : LogLevel → String
  | debug => "DEBUG"
  | info => "INFO"
  | warning => "WARN"

structure LogLine where
  level : LogLevel
  message : String
  deriving DecidableEq, Repr

/-- What a call meets. -/
structure World where
  server : Http.Server
  /-- Whether connections can be made at all. -/
  listening : Bool := true
  /-- Whether connections can be encrypted, too. -/
  encrypting : Bool := false
  files : Files := .empty
  /-- What becomes of a spool for a new copy: why it cannot be made, or what the disk does with it. -/
  spool : Except IoError SpoolFile := .ok .sound
  /-- What becomes of a file that a stream is buffered in. -/
  spill : Except IoError SpoolFile := .ok .sound
  /-- The instant at which the journal began. -/
  clock : Time.Instant := .epoch
  /-- The time since then after which the call is interrupted. -/
  deadline : Option Time.Span := none

/-- What has been observed. -/
structure Journal where
  /-- The time that has passed. -/
  elapsed : Time.Span := .zero
  exchanges : List Exchange := []
  /-- The questions for a token: whether a kept one was to be passed over. -/
  asked : List Bool := []
  /-- The log of the transfers. -/
  log : List LogLine := []
  /-- What a listener has been told. -/
  events : List CacheEvent := []
  counters : Counters := .zero
  /-- The waits between attempts. -/
  waits : List Time.Span := []
  deriving DecidableEq

namespace Journal

def requests (j : Journal) : List Http.Request := j.exchanges.map Exchange.request

def record (j : Journal) (e : Exchange) : Journal := { j with exchanges := j.exchanges ++ [e] }

/-- Time passes until a moment. -/
def atTime (j : Journal) (moment : Time.Span) : Journal := { j with elapsed := moment }

end Journal

namespace World

/-- The instant, as a clock shows it; the last instant that a clock can show stays. -/
def now (w : World) (j : Journal) : Time.Instant := (w.clock.shiftLater? j.elapsed).getD w.clock

/-- A spool for a new copy, held twice: to be written, and to be read. -/
def newSpool (w : World) (directory : Option String) : Except Failure SpoolFile := do
  let spool ← w.files.spool directory w.spool
  spool.duplicate
  pure spool

/-- A file for a stream that is buffered. -/
def spillFile (w : World) (directory : Option String) : Except Failure SpoolFile :=
  w.files.spool directory w.spill

/-- A spool is not had because of a failure of reading and writing. -/
theorem newSpool_io {w : World} {directory : Option String} {f : Failure}
    (h : w.newSpool directory = .error f) : ∃ detail, f = .io detail := by
  unfold newSpool at h
  cases hs : w.files.spool directory w.spool with
  | error g =>
    rw [hs] at h
    cases h
    exact Files.spool_io hs
  | ok spool =>
    rw [hs] at h
    cases hd : spool.duplicate with
    | error g =>
      simp only [bind, Except.bind, hd] at h
      cases h
      exact IoError.unless_io hd
    | ok u =>
      simp only [bind, Except.bind, hd] at h
      cases h

theorem spillFile_io {w : World} {directory : Option String} {f : Failure}
    (h : w.spillFile directory = .error f) : ∃ detail, f = .io detail :=
  Files.spool_io h

/-- Whether the deadline has been reached. -/
def isOver (w : World) (j : Journal) : Bool :=
  match w.deadline with
  | none => false
  | some d => d.nanoseconds ≤ j.elapsed.nanoseconds

end World

end ContentCache
