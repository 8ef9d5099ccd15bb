import ContentCache.Proofs.Cache.Copying
import ContentCache.Proofs.Content
import ContentCache.Proofs.Digest

/-!
# What a digest label describes

Content on its way to the object store passes a meter in whole chunks, and only behind the meter is it
cut to the announced length. So the label of what is sealed is the digest of the chunks that were drawn.
These are the content that was sent, and perhaps the rest of the chunk that the announced length cuts
in two.

* `Store.Labelled`: what was sent, what was drawn for it, and the label.

Main statements: `sealed_digest_of_drawn`, and `sealed_digest_of_more` (a length that cuts a chunk in two
leaves a label that does not describe what was sent).
-/

namespace ContentCache

/-! ## Sealed content -/

namespace Store

/-- What the label of sealed content describes, where `put` is the request that has carried the content,
`closed` are the requests that seal it, and `drawn` are the chunks that were drawn for it. -/
structure Labelled (space path uploadId : String) (content : Source) (o : UploadOptions)
    (put : Exchange) (closed : List Exchange) (drawn : Stream) : Prop where
  method : put.request.method = .put
  announced : put.request.contentLength = some put.request.body.length
  /-- The content has been cut to the announced length, and so have the chunks. -/
  cut : put.request.body = content.toStream.bytes.take put.request.body.length ∧
    put.request.body = drawn.bytes.take put.request.body.length
  /-- **The label is the digest of the chunks.** -/
  label : Metadata.Client.Posts .finalizeArtifact (Metadata.FinalizeRequest.document
    ⟨space, path, uploadId, digestLabels (Sha256.hexDigest drawn.bytes)⟩) closed
  /-- Without a declared length everything has been drawn and sent. -/
  whole : declaredLength o.length = none →
    drawn.bytes = content.toStream.bytes ∧ put.request.body = content.toStream.bytes
  /-- A declared length is that of the body, and no more chunks have been drawn than it needs. -/
  declared : ∀ n, declaredLength o.length = some n →
    put.request.body.length = n ∧ Http.Spans n content.toStream drawn
  /-- **The chunks are what has been sent** unless the declared length cuts one of them in two. -/
  describes : drawn.bytes = put.request.body ↔ ∀ n, declaredLength o.length = some n →
    ∃ front, front <+: content.toStream ∧ Stream.firstError? front = none ∧
      (Stream.bytes front).length = n

variable {s : Store} {w : World} {space path : String} {content : Source} {o : UploadOptions}
  {es closed : List Exchange}

/-- What has been sent is labelled with the digest of what was drawn for it. -/
theorem Transmits.labelled {url uploadId : String} {m : Measured} {sent : Http.Sent} {taken : Stream}
    {r : Except Halt Artifact} (h : s.Transmits w url content o m es sent taken)
    (accepted : Transfer.outcome "upload" (fun _ => ()) sent = .ok ())
    (sealing : s.Seals w space path uploadId (Meter.start.observe sent.taken).hexDigest closed r)
    (hclosed : closed ≠ []) :
    ∃ put rest drawn, es = put :: rest ∧ Labelled space path uploadId content o put closed drawn := by
  obtain ⟨resp, hanswered, -⟩ := Transfer.outcome_eq_ok accepted
  obtain ⟨front, last, -, hes, -⟩ := h.sending.answered_last hanswered
  obtain ⟨put, rest, rfl, hbody, htaken⟩ := h.complete (by rw [hes]; simp)
  obtain ⟨-, hmethod, -, hheader, -⟩ := h.sending.head_request
  obtain ⟨buffered, hmeasured, -⟩ := h.measured
  rw [Meter.hexDigest_observe] at sealing
  have spans : Http.Spans m.length m.source.toStream sent.taken := by
    rw [htaken]
    exact Http.drawItems_spans hbody
  have hlength : put.request.body.length = m.length := Http.draw_body_length hbody
  have hdrawn : put.request.body = sent.taken.bytes.take m.length := by
    rw [htaken]
    exact (Http.draw_body_eq hbody).1
  have hannounced : put.request.contentLength = some put.request.body.length := by
    rw [hheader, hlength]
    rfl
  refine ⟨put, rest, sent.taken, rfl, ?_⟩
  cases hd : declaredLength o.length with
  | none =>
    -- All that was drawn has been sent, because the length is that of the content.
    obtain ⟨hremaining, -, hall, hcontent⟩ := h.whole hd
    have hwhole : put.request.body = content.toStream.bytes := hremaining.trans hcontent.symm
    have hsame : sent.taken.bytes = put.request.body := hall.trans hremaining.symm
    constructor
    case method => exact hmethod
    case announced => exact hannounced
    case cut => rw [hsame, List.take_length, hwhole, List.take_length]; exact ⟨rfl, rfl⟩
    case label => exact sealing.posts_of_ne_nil hclosed
    case whole => exact fun _ => ⟨hsame.trans hwhole, hwhole⟩
    case declared => intro n hn; rw [hd] at hn; cases hn
    case describes => exact iff_of_true hsame fun n hn => by rw [hd] at hn; cases hn
  | some n =>
    -- The content is untouched, and its chunks are cut behind the meter.
    obtain ⟨rfl, -⟩ := resolveLength_declared_ok hd hmeasured
    constructor
    case method => exact hmethod
    case announced => exact hannounced
    case cut => rw [hlength, spans.take_bytes]; exact ⟨hdrawn, hdrawn⟩
    case label => exact sealing.posts_of_ne_nil hclosed
    case whole => intro hn; rw [hd] at hn; cases hn
    case declared =>
      intro n' hn
      obtain rfl := Option.some.inj (hd.symm.trans hn)
      exact ⟨hlength, spans⟩
    case describes =>
      have hsame : sent.taken.bytes = put.request.body ↔ sent.taken.bytes.length = n := by
        constructor
        · intro h
          rw [h]
          exact hlength
        · intro h
          rw [hdrawn, List.take_of_length_le (Nat.le_of_eq h)]
      rw [hsame, spans.length_eq_iff]
      constructor
      · intro h n' hn
        obtain rfl := Option.some.inj (hd.symm.trans hn)
        exact h
      · intro h
        exact h n hd

/-- The requests of storing content, and the label when it is sealed. -/
theorem Storing.labelled {x : Consumed ArtifactInfo} (h : s.Storing w space path content o es x) :
    ∃ opened sent closed, es = opened ++ (sent ++ closed) ∧
      (∀ e ∈ opened, e.purpose = .call .createArtifact) ∧ (∀ e ∈ sent, e.purpose = .upload) ∧
      (∀ e ∈ closed, e.purpose = .call .finalizeArtifact) ∧
      (closed ≠ [] → ∃ put rest uploadId drawn, sent = put :: rest ∧
        Labelled space path uploadId content o put closed drawn) := by
  cases h with
  | unopened opening | unmeasured opening =>
    exact ⟨es, [], [], by simp, opening.purpose_eq, by simp, by simp, fun hne => absurd rfl hne⟩
  | @unsent opened sent _ _ _ _ _ opening transmitting =>
    exact ⟨opened, sent, [], by simp, opening.purpose_eq, transmitting.sending.purpose_eq, by simp,
      fun hne => absurd rfl hne⟩
  | @sent opened sent closed location _ _ _ _ _ opening transmitting accepted digested sealing =>
    subst digested
    refine ⟨opened, sent, closed, rfl, opening.purpose_eq, transmitting.sending.purpose_eq,
      sealing.purpose_eq, fun hclosed => ?_⟩
    obtain ⟨put, rest, drawn, hsent, labelled⟩ := transmitting.labelled accepted sealing hclosed
    exact ⟨put, rest, location.uploadId, drawn, hsent, labelled⟩

end Store

/-- **The label of sealed content is the digest of the chunks that were drawn for it.** Those are the
bytes that have been sent when no length was declared or the declared one falls on the end of a chunk,
and else there are more of them. -/
theorem sealed_digest_of_drawn (s : Store) (w : World) (j : Journal) (space path : String)
    (content : Source) (o : UploadOptions) :
    ∃ opened sent closed,
      (s.upload space path content o w j).2.exchanges = j.exchanges ++ (opened ++ (sent ++ closed)) ∧
      (∀ e ∈ opened, e.purpose = .call .createArtifact) ∧ (∀ e ∈ sent, e.purpose = .upload) ∧
      (∀ e ∈ closed, e.purpose = .call .finalizeArtifact) ∧
      (closed ≠ [] → ∃ put rest uploadId drawn, sent = put :: rest ∧
        Store.Labelled space path uploadId content o put closed drawn) := by
  obtain ⟨n, hg, -, consumed, -, storing⟩ := s.upload_quietly w space path content o j
  obtain ⟨opened, sent, closed, hes, hopened, hsent, hclosed, labelled⟩ := storing.labelled
  exact ⟨opened, sent, closed, by rw [← hes]; exact hg.exchanges, hopened, hsent, hclosed, labelled⟩

/-! ## A length that cuts a chunk in two -/

/-- Whatever is stored is accepted and sealed. -/
def acceptingWorld : World where
  server := .ofAnswers [
    Cache.said "\x7b\"signedUploadUrl\":\"http://s/?k\",\"uploadId\":\"u\"\x7d", Cache.said "",
    Cache.said ("\x7b\"artifact\":\x7b\"namespace\":\"n\",\"path\":\"p\"," ++
      "\"createdAt\":\"2024-01-01T00:00:00Z\"\x7d\x7d")]

/-- Two bytes of three are declared. -/
def declaresTwo : UploadOptions := { length := some 2 }

set_option maxRecDepth 10000 in
/-- **A declared length that cuts a chunk in two leaves a label that does not describe what was sent**:
two bytes are sent, and the label is the digest of three. -/
theorem sealed_digest_of_more :
    (Cache.usual.store.upload "n" "p" (.ofBytes [104, 105, 33]) declaresTwo acceptingWorld
        {}).2.exchanges.map (fun e => (e.purpose, e.request.method, e.request.body)) =
        [(.call .createArtifact, .post, Bytes.ofText
            (Metadata.CreateRequest.document ⟨"n", "p", .empty, none⟩).write),
          (.upload, .put, [104, 105]),
          (.call .finalizeArtifact, .post, Bytes.ofText (Metadata.FinalizeRequest.document
            ⟨"n", "p", "u", Store.digestLabels (Sha256.hexDigest [104, 105, 33])⟩).write)] ∧
      Sha256.hexDigest [104, 105, 33] ≠ Sha256.hexDigest [104, 105] := by
  constructor <;> decide +kernel

end ContentCache
