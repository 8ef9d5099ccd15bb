import ContentCache.Cache.Options
import ContentCache.Cache.Path
import ContentCache.Cache.Source
import ContentCache.Cache.Tee
import ContentCache.Config
import ContentCache.Digest.Spelling
import ContentCache.Origin
import ContentCache.Retrying
import ContentCache.Store

/-!
# A cache of web content

A copy of a source is an artifact in a namespace of its own, labelled with its source and its digest.
A call gives the content of a source from the newest copy when that is fresh, and else from the
origin, storing a new copy on the way.

* `Cache.copy`: one call. It is counted and may have a limit of time.
* `Cache.lookup`: lists the copies and serves the newest one or asks the origin.
* `Cache.serve`, `Cache.populate`: the two ways to the content.
* `Cache.copyRetrying`: calls that are repeated as a policy allows.

Main statement: `copy_of_invalid` (a source that cannot be read leaves no trace).
-/

namespace ContentCache

/-- A cache in front of a store. -/
structure Cache where
  store : Store
  origin : Origin
  /-- The life of a new copy. -/
  life : Option Time.Span
  spoolDirectory : Option String

/-- What is told of a copy. -/
structure CopyInfo where
  cachedAt : Time.Instant
  path : String
  digest : Option String
  fromCache : Bool
  deriving DecidableEq

/-- Content with what is told of it. -/
structure Copy where
  body : Stream
  info : CopyInfo
  deriving DecidableEq

/-! ## From a configuration -/

def Config.http (c : Config) : Http.Client where
  requestLimit := c.requestTimeout
  connectLimit := c.connectTimeout

def Store.ofConfig (c : Config) (tokens : TokenSource) : Store where
  metadata := ⟨c.http, c.endpoint, tokens⟩
  transfer := ⟨c.http, c.verbose⟩
  memoryLimit := c.memoryLimit
  spoolDirectory := c.spoolDirectory

def Cache.ofConfig (c : Config) (tokens : TokenSource) : Cache where
  store := Store.ofConfig c tokens
  origin := ⟨c.http⟩
  life := c.life
  spoolDirectory := c.spoolDirectory

namespace Cache

/-! ## Copies in the store -/

/-- The digest that a caller expects, in its plain form. -/
def expected (o : CacheOptions) : Option String := o.expectedDigest.map Digest.plain

/-- The copies of a source, with the expected digest when there is one. -/
def filterFor (source : String) (digest : Option String) : LabelFilter :=
  ⟨sourceLabel, source⟩ :: (digest.map fun d => ⟨digestLabel, d⟩).toList

def listing (c : Cache) (source : String) (o : CacheOptions) : Act (List Artifact) := do
  Act.tell o.narrated (.listing source)
  c.store.metadata.list ⟨[cacheNamespace], filterFor source (expected o)⟩

def serve (c : Cache) (latest : Artifact) (o : CacheOptions) : Act Copy := do
  Act.tell o.narrated (.loading latest.path latest.createdAt)
  let (body, info) ← c.store.resolve cacheNamespace latest.path
  Act.count .countHit
  Act.tell o.narrated (.done latest.path true)
  pure ⟨body, ⟨info.createdAt, latest.path, info.digest, true⟩⟩

/-! ## Content from the origin -/

/-- The end of the life of a copy made now: the life that the caller wants goes before the usual one,
and a life that is too long to be told has no end. -/
def expiry (c : Cache) (o : CacheOptions) (now : Time.Instant) : Option Time.Instant :=
  (o.expiresIn.orElse fun _ => c.life).bind now.shiftLater?

/-- What is told of a new copy when it is stored. -/
def uploadOptions (c : Cache) (source : String) (o : CacheOptions) (now : Time.Instant)
    (length : Option Nat) : UploadOptions :=
  { ({} : UploadOptions).label sourceLabel source with length, expiresAt := c.expiry o now }

/-- How storing a new copy ends: a failure that the tee has kept, of reading the origin or of writing the
spool, goes before whatever storing made of it. -/
def storedOrTeeFailure (kept : Option Failure) (r : Except Halt ArtifactInfo) :
    Except Halt ArtifactInfo :=
  match r, kept with
  | .error .interrupted, _ => .error .interrupted
  | _, some f => .error (.failed f)
  | r, none => r

/-- Fails when the content does not have the expected digest. -/
def checkDigest (expected : Option String) (info : ArtifactInfo) : Except Failure Unit :=
  match expected with
  | none => .ok ()
  | some d =>
    let actual := info.digest.getD ""
    if actual = d then .ok () else .error (.digestMismatch d actual)

/-- Takes content from its origin and stores it as a new copy. On its way it passes a tee into a spool, which
is what the caller gets to read. -/
def populate (c : Cache) (source : String) (url : Url) (o : CacheOptions) : Act Copy := do
  let now ← Act.look World.now
  let path := CachePath.ofSource url now
  Act.tell o.narrated (.fetching source)
  Act.count .countOriginFetch
  let content ← c.origin.fetch url.text
  let spool ← Act.ofExcept (← Act.look fun w _ => w.newSpool c.spoolDirectory)
  Act.tell o.narrated (.uploading path)
  let tee := TeeStream.through spool.write content.body
  let stored ← c.store.consume cacheNamespace path (.stream tee.items)
    (c.uploadOptions source o now content.length)
  let polled := stored.taken.length
  Act.count fun k => ({ tee with counters := k }.after polled).counters
  let info ← Act.conclude (storedOrTeeFailure (tee.after polled).failure stored.result)
  Act.ofExcept (checkDigest (expected o) info)
  Act.ofExcept spool.rewind
  Act.tell o.narrated (.done path false)
  pure ⟨bytesStream (tee.after polled).held, ⟨info.createdAt, path, info.digest, false⟩⟩

/-! ## Calls -/

/-- Tells that the newest copy is too old. -/
def tellTooOld (latest : Artifact) (o : CacheOptions) : Act Unit :=
  match o.freshAfter with
  | some threshold => Act.tell o.narrated (.tooOld latest.path latest.createdAt threshold)
  | none => pure ()

/-- Serves the newest copy when it is fresh, and else asks the origin. -/
def lookup (c : Cache) (source : String) (url : Url) (o : CacheOptions) : Act Copy := do
  match newest? (← c.listing source o) with
  | none => do
    Act.count fun k => k.countMiss false
    c.populate source url o
  | some latest =>
    if isFresh latest.createdAt o.freshAfter then c.serve latest o
    else do
      tellTooOld latest o
      Act.count fun k => k.countMiss true
      c.populate source url o

/-- How the end of a call is counted. -/
def countEnd {α : Type} : Except Halt α → Counters → Counters
  | .error (.failed f), k =>
    if f.isPrecondition then k.countDigestMismatch else k.countFailure f.isOrigin
  | _, k => k

/-- Counts a call: that it is made, the time that it takes, and how it fails. -/
def account {α : Type} (a : Act α) : Act α := do
  Act.count .countRequest
  let start ← Act.look fun _ j => j.elapsed
  let r ← a.settle
  let stop ← Act.look fun _ j => j.elapsed
  Act.count fun k => countEnd r (k.countDuration (stop.minus start))
  Act.conclude r

/-- Gives the content of a source. -/
def copy (c : Cache) (source : String) (o : CacheOptions) : Act Copy :=
  match readSource source with
  | .error f => Act.fail f
  | .ok url => account (Act.within o.timeout (c.lookup source url o))

/-- Gives the content of a source, repeating the call as a policy allows. -/
def copyRetrying (c : Cache) (source : String) (o : CacheOptions) (p : RetryPolicy) : Act Copy :=
  Act.retrying p (c.copy source o) 0

/-- A source that cannot be read leaves no trace. -/
theorem copy_of_invalid {c : Cache} {source : String} {o : CacheOptions} {f : Failure}
    (h : readSource source = .error f) (w : World) (j : Journal) :
    c.copy source o w j = (.error (.failed f), j) := by
  simp [copy, h]

end Cache

end ContentCache
