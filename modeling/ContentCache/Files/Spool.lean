import ContentCache.Failure
import ContentCache.Files

/-!
# Spools

A spool is a nameless file that holds content while it passes. It is made in a directory that has to be
there, or in the usual place, and whatever is done with it may fail: making it, getting hold of it a second
time, writing, flushing, going back to its start, and reading.

* `SpoolWrite`, `SpoolFile`: what becomes of what is written to a spool, and of the spool.
* `Files.spool`: makes a spool.

Main statement: `Files.spool_io` (it is a failure of reading and writing that keeps it from being made).
-/

namespace ContentCache

/-- What becomes of what is written to a file. -/
structure SpoolWrite where
  /-- What becomes of data that is written behind so many bytes: `none` when all of it is written, else how
  many of its bytes are, and the error. -/
  refusal? : (offset : Nat) → (data : Bytes) → Option (Nat × IoError)
  /-- There is always room for nothing. -/
  nothing : ∀ offset, refusal? offset [] = none

instance : CoeFun SpoolWrite fun _ => Nat → Bytes → Option (Nat × IoError) := ⟨SpoolWrite.refusal?⟩

/-- Every write goes well. -/
def SpoolWrite.sound : SpoolWrite := ⟨fun _ _ => none, fun _ => rfl⟩

/-- A nameless file, by what becomes of the things that are done with it. -/
structure SpoolFile where
  /-- Why nobody gets hold of it a second time. -/
  duplication : Option IoError := none
  write : SpoolWrite := .sound
  flushing : Option IoError := none
  rewinding : Option IoError := none
  /-- The offset that reading does not pass, with the error. -/
  broken : Option (Nat × IoError) := none

/-- A step that fails when there is an error. -/
def IoError.unless : Option IoError → Except Failure Unit
  | none => .ok ()
  | some e => .error e.failure

theorem IoError.unless_io {e : Option IoError} {f : Failure} (h : IoError.unless e = .error f) :
    ∃ detail, f = .io detail := by
  cases e with
  | none => cases h
  | some e => exact ⟨_, (Except.error.inj h).symm⟩

namespace SpoolFile

/-- A file with which everything goes well. -/
def sound : SpoolFile := {}

/-- Gets hold of the file a second time. -/
def duplicate (f : SpoolFile) : Except Failure Unit := IoError.unless f.duplication

/-- Writes data behind so many bytes. -/
def append (f : SpoolFile) (offset : Nat) (data : Bytes) : Except Failure Unit :=
  IoError.unless ((f.write offset data).map Prod.snd)

def flush (f : SpoolFile) : Except Failure Unit := IoError.unless f.flushing

/-- Goes back to the start. -/
def rewind (f : SpoolFile) : Except Failure Unit := IoError.unless f.rewinding

end SpoolFile

/-- Makes a nameless file in a directory, or in the usual place. Where that is there, `disk` tells whether
the file can be made and what becomes of it. -/
def Files.spool (f : Files) (directory : Option String) (disk : Except IoError SpoolFile := .ok .sound) :
    Except Failure SpoolFile :=
  match directory.map f.findDirectory with
  | some (.error e) => .error (.io e.message)
  | _ => disk.mapError IoError.failure

/-- A spool is not made because of a failure of reading and writing. -/
theorem Files.spool_io {files : Files} {directory : Option String} {disk : Except IoError SpoolFile}
    {f : Failure} (h : files.spool directory disk = .error f) : ∃ detail, f = .io detail := by
  unfold spool at h
  split at h
  · exact ⟨_, (Except.error.inj h).symm⟩
  · cases disk with
    | ok file => cases h
    | error e => exact ⟨_, (Except.error.inj h).symm⟩

end ContentCache
