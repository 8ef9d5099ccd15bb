import ContentCache.Content.Length
import ContentCache.Digest.Meter
import ContentCache.Metadata.Client
import ContentCache.Transfer

/-!
# The artifact store

To store content, a place is opened, the content is sent there while it is digested, and what has been
sent is sealed with its digest as a label. To read content, a place is opened and read from.

* `Store.consume`: stores content, and tells what was taken from it. Nothing is repeated.
* `Store.upload`: stores content.
* `Store.resolve`: opens content for reading.
-/

namespace ContentCache

/-- What is told of content that is to be stored. -/
structure UploadOptions where
  labels : Labels := .empty
  /-- The length of the content; zero says nothing. -/
  length : Option Nat := none
  expiresAt : Option Time.Instant := none
  /-- A checksum that is sent along. -/
  checksum : Option String := none
  deriving DecidableEq

def UploadOptions.label (o : UploadOptions) (name value : String) : UploadOptions :=
  { o with labels := o.labels.insert name value }

/-- A store behind a metadata service. -/
structure Store where
  metadata : Metadata.Client
  transfer : Transfer
  /-- The most bytes of a stream without a length that are kept in memory. -/
  memoryLimit : Nat
  spoolDirectory : Option String

namespace Store

/-- The digest of what was taken, as a label. -/
def digestLabels (digest : String) : Labels := Labels.empty.insert digestLabel digest

/-- Seals what has been sent, with its digest as a label. -/
def finish (s : Store) (space path : String) (location : Metadata.WriteLocation)
    (sent : Consumed Unit) : Act ArtifactInfo := do
  Act.conclude sent.result
  let computed := (Meter.start.observe sent.taken).hexDigest
  let artifact ← s.metadata.finalize ⟨space, path, location.uploadId, digestLabels computed⟩
  pure ⟨artifact.createdAt, some (artifact.digest.getD computed)⟩

/-- Sends content to an open place and seals it. The items that were taken are those of the buffering
when the length had to be found out, else those of the sending. -/
def fill (s : Store) (space path : String) (location : Metadata.WriteLocation) (content : Source)
    (o : UploadOptions) : Act (Consumed ArtifactInfo) := do
  let spill ← Act.look fun w _ => w.spillFile s.spoolDirectory
  match resolveLength content o.length s.memoryLimit spill with
  | (.error f, buffered) => pure ⟨.error (.failed f), buffered⟩
  | (.ok m, buffered) => do
    let sent ← s.transfer.put location.url m.source.toStream m.length o.checksum
    let result ← (s.finish space path location sent).settle
    pure ⟨result, if (declaredLength o.length).isSome then sent.taken else buffered⟩

/-- Stores content, and tells what was taken from it. -/
def consume (s : Store) (space path : String) (content : Source) (o : UploadOptions) :
    Act (Consumed ArtifactInfo) := do
  match ← (s.metadata.createWrite ⟨space, path, o.labels, o.expiresAt⟩).settle with
  | .error h => pure ⟨.error h, []⟩
  | .ok location => s.fill space path location content o

/-- Stores content. -/
def upload (s : Store) (space path : String) (content : Source) (o : UploadOptions) :
    Act ArtifactInfo := do
  Act.conclude (← s.consume space path content o).result

/-- Opens content for reading. -/
def resolve (s : Store) (space path : String) : Act (Stream × ArtifactInfo) := do
  let location ← s.metadata.createRead ⟨space, path⟩
  let body ← s.transfer.get location.url
  pure (body, ⟨location.artifact.createdAt, location.artifact.digest⟩)

end Store

end ContentCache
