import ContentCache.Proofs.Cache.Copying
import ContentCache.Proofs.Content
import ContentCache.Proofs.Digest

/-!
# What a new copy carries

The bytes that an origin delivers pass through a tee, perhaps a buffer, and a meter on their way to the
object store, and the caller gets what the tee has kept. All of these hold the same bytes when a call
ends well, whether the origin has announced their length or not.

* `Cache.Carried`: some bytes, followed through the requests of a call to the copy that it returns.

Main statement: `copy_carried` (a call that returns a new copy has carried some bytes).
-/

namespace ContentCache

open Http (Reply)

/-! ## From the origin to the object store -/

/-- **The body that is sent is what the reply delivers**, to its end, and so are the items that were
taken of it behind a tee, for the digest as well as for the tee. -/
theorem Store.Transmits.carries {s : Store} {w : World} {url : String} {o : UploadOptions}
    {m : Measured} {es : List Exchange} {sent : Http.Sent} {taken items : Stream} {r : Reply}
    {write : SpoolWrite} {blame : IoError → Failure}
    (h : s.Transmits w url (.stream items) o m es sent taken)
    (passing : Tee.Passes write [] r.items items blame)
    (hlength : o.length = r.announced.filter (0 < ·))
    (hsent : Transfer.outcome "upload" (fun _ => ()) sent = .ok ()) :
    ∃ put rest, es = put :: rest ∧ put.request.body = r.delivered ∧ m.length = r.delivered.length ∧
      sent.taken.bytes = r.delivered ∧ taken.bytes = r.delivered ∧ taken.firstError? = none ∧
      r.items.firstError? = none := by
  obtain ⟨resp, hanswered, -, -⟩ := Transfer.outcome_eq_ok hsent
  obtain ⟨front, last, -, hes, -, -⟩ := h.sending.answered_last hanswered
  obtain ⟨put, rest, rfl, hbody, htaken⟩ := h.complete (by rw [hes]; simp)
  obtain ⟨buffered, hmeasured, hkept⟩ := h.measured
  refine ⟨put, rest, rfl, ?_⟩
  cases hd : declaredLength o.length with
  | some n =>
    -- The announced length is trusted: the items are drawn from the reply as they come.
    have hn : r.announced = some n := by
      have := (Option.filter_eq_some_iff.1 hd).1
      rw [hlength] at this
      exact (Option.filter_eq_some_iff.1 this).1
    obtain ⟨rfl, -⟩ := resolveLength_declared_ok hd hmeasured
    have hcomplete := Http.drawItems_complete hbody
    have hsame : Http.drawItems n r.items = Http.drawItems n items :=
      Http.drawItems_of_begins hbody (passing.front_begins (Http.draw_taken_prefix n items) hcomplete)
    have htaken : sent.taken = (Http.drawItems n r.items).1 := htaken.trans (congrArg Prod.fst hsame.symm)
    obtain ⟨hitems, hdelivered, hbytes⟩ :=
      Http.drawItems_announced hn ((congrArg Prod.snd hsame).trans hbody)
    have hkept : taken = sent.taken := by simpa [hd] using hkept
    rw [hkept, htaken, ← hdelivered]
    exact ⟨rfl, (Http.draw_body_length hbody).symm, hbytes, hbytes, hsame ▸ hcomplete, hitems⟩
  | none =>
    -- The items are buffered first, and drawn from the buffer.
    obtain ⟨hsound, rfl, -⟩ := resolveLength_stream_ok hd hmeasured
    obtain ⟨rfl, hitems⟩ := passing.of_unbroken hsound
    obtain ⟨hall, hcount, hdrawn, -⟩ := h.whole hd
    have hkept : taken = r.items := by simpa [hd] using hkept
    have hremaining : (Source.stream r.items).remaining = r.delivered := Http.bytes_items r
    rw [hremaining] at hall hcount hdrawn
    rw [hkept]
    exact ⟨hall, hcount, hdrawn, Http.bytes_items r, hitems, hitems⟩

namespace Cache

/-! ## From the origin to the caller -/

/-- The bytes `b`, followed through the requests of a call that returns the copy `x` of a source. -/
structure Carried (source : String) (x : Copy) (b : Bytes) (location : Metadata.WriteLocation)
    (artifact : Artifact) (listed fetched opened sent closed : List Exchange) : Prop where
  listing : ∀ e ∈ listed, e.purpose = .call .listArtifacts
  fetching : ∀ e ∈ fetched, e.purpose = .origin
  /-- The origin has delivered the bytes to their end, with an answer of success. -/
  delivered : ∃ front e after r, fetched = front ++ [e] ∧ e.answer = .reply after r ∧
    Http.isSuccess r.status = true ∧ r.items.firstError? = none ∧ r.delivered = b
  /-- A place has been opened for a copy whose only label is the source. -/
  opening : ∃ expiry, Metadata.Client.Posts .createArtifact (Metadata.CreateRequest.document
    ⟨cacheNamespace, x.info.path, .ofList [(sourceLabel, source)], expiry⟩) opened
  located : Metadata.Client.Answers .createArtifact Metadata.WriteLocation.ofDocument? opened location
  /-- The bytes have been sent there with their length. -/
  put : ∃ e rest, sent = e :: rest ∧ e.purpose = .upload ∧ e.request.method = .put ∧
    (∃ url, Url.read location.url = .ok url ∧ e.request.url = url.withoutUser.withoutFragment) ∧
    e.request.contentLength = some b.length ∧ e.request.body = b
  /-- Nothing else has been put anywhere. -/
  once : (listed ++ (fetched ++ (opened ++ (sent ++ closed)))).filter
    (·.request.method = .put) = sent.take 1
  /-- What has been sent is sealed with the digest of the bytes as the only label. -/
  sealing : Metadata.Client.Posts .finalizeArtifact (Metadata.FinalizeRequest.document
    ⟨cacheNamespace, x.info.path, location.uploadId, .ofList [(digestLabel, Sha256.hexDigest b)]⟩)
    closed
  sealed : Metadata.Client.Answers .finalizeArtifact Metadata.sealedOfDocument? closed artifact
  /-- The caller gets the bytes to their end. -/
  returned : x.body.bytes = b ∧ x.body.firstError? = none
  /-- The caller is told what the answer to the sealing says; a digest that it leaves out is that of the
  bytes. -/
  told : x.info.cachedAt = artifact.createdAt ∧
    x.info.digest = some (artifact.digest.getD (Sha256.hexDigest b))

theorem filter_put_eq_nil {es : List Exchange}
    (h : ∀ e ∈ es, e.request.method = .post ∨ e.request.method = .get) :
    es.filter (·.request.method = .put) = [] :=
  List.filter_eq_nil_iff.2 fun e he => by rcases h e he with h | h <;> simp [h]

/-- A new copy has carried some bytes. -/
theorem Looking.carried {c : Cache} {w : World} {source : String} {url : Url} {o : CacheOptions}
    {es : List Exchange} {steps : List CacheEvent} {k : Counters → Counters} {x : Copy}
    (h : c.Looking w source url o es steps k (.ok x)) (hnew : x.info.fromCache = false) :
    ∃ b location artifact listed fetched opened sent closed,
      es = listed ++ (fetched ++ (opened ++ (sent ++ closed))) ∧
      Carried source x b location artifact listed fetched opened sent closed := by
  obtain ⟨listed, rest, artifacts, steps, rfl, listing, proceeding⟩ := h.ok
  obtain ⟨steps, k, populating⟩ := proceeding.new hnew
  obtain ⟨fetched, storing, delivery, content, write, items, blame, now, info, taken, rfl, fetching,
    hcontent, passing, -, storing', -, hx⟩ := populating.ok
  obtain ⟨opened, sent, closed, location, m, delivery', artifact, rfl, opening, transmitting, accepted,
    sealing, rfl⟩ := storing'.ok
  obtain ⟨resp, hanswered, hsuccess, rfl⟩ := Origin.outcome_eq_ok hcontent
  obtain ⟨front, last, reply, rfl, hreply, rfl⟩ := fetching.answered_last hanswered
  obtain ⟨after, hanswer⟩ := Http.Client.answer_of_reply? hreply
  obtain ⟨put, more, rfl, hbody, hlength, hdigested, hkept, herror, hitems⟩ :=
    transmitting.carries passing rfl accepted
  obtain ⟨hhop, hmethod, -, hannounced, hurl⟩ := transmitting.sending.head_request
  -- The digest that is sent is that of the bytes, because a meter has seen nothing else.
  rw [Meter.hexDigest_observe, hdigested] at sealing hx
  refine ⟨reply.delivered, location, artifact, listed, front ++ [last], opened, put :: more, closed,
    rfl, ?_⟩
  constructor
  case listing => exact listing.purpose_eq
  case fetching => exact fetching.purpose_eq
  case delivered => exact ⟨front, last, after, reply, rfl, hanswer, hsuccess, hitems, rfl⟩
  case opening => exact ⟨_, opening.posts⟩
  case located => exact opening.answers
  case put =>
    refine ⟨put, more, rfl, transmitting.sending.purpose_eq put (by simp), hmethod, hurl, ?_, hbody⟩
    rw [hannounced, ← hlength]
    rfl
  case once =>
    have hfetched := filter_put_eq_nil fun e he => .inr ((fetching.methods e he).elim id id)
    have hsent : (put :: more).filter (·.request.method = .put) = [put] := by
      rw [List.filter_cons_of_pos (by simp [hmethod, Transfer.putOrder]),
        filter_put_eq_nil fun e he => .inr (transmitting.sending.tail_get rfl e he)]
    rw [List.filter_append, filter_put_eq_nil listing.methods, List.filter_append, hfetched,
      List.filter_append, filter_put_eq_nil opening.methods, List.filter_append, hsent,
      filter_put_eq_nil sealing.methods]
    rfl
  case sealing => exact sealing.posts
  case sealed => exact sealing.answers
  case returned =>
    rw [hx]
    exact ⟨by rw [bytes_bytesStream, hkept], firstError?_bytesStream _⟩
  case told =>
    rw [hx]
    exact ⟨rfl, rfl⟩

/-- Nothing is listed, the origin gives its content in chunks, one of them empty, and everything that
follows goes well. -/
def chunkedWorld : World where
  server := .ofAnswers [said "\x7b\x7d",
    .reply .zero { pieces := [[104], [], [105, 33]], framing := .chunked false },
    said "\x7b\"signedUploadUrl\":\"http://s/?k\",\"uploadId\":\"u\"\x7d", said "",
    said ("\x7b\"artifact\":\x7b\"namespace\":\"n\",\"path\":\"p\"," ++
      "\"createdAt\":\"2024-01-01T00:00:00Z\"\x7d\x7d")]

end Cache

end ContentCache
