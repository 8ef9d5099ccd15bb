import ContentCache.Proofs.Cache.ExpectedDigest
import ContentCache.Proofs.Cache.Freshness
import ContentCache.Proofs.Heedless

/-!
# What a call verifies

When no copy is fresh and every step goes well, the content of the origin is sent and sealed with its
digest, and only then that digest is compared with the expected one. So what is stored carries the right
label whatever the caller expects. A caller who expects another digest gets no content. That is counted
as a mismatch and as no other failure, and it is never worth a repeat.

* `Transfer.put_ends`, `Store.consume_ends`, `Cache.populate_ends`: what the steps come to when they go
  well.
* `Cache.Renewal`: what is answered to a call that finds no fresh copy when every step goes well.

Main statements: `Store.consume_sound` (content that can be read to its end is stored under its digest)
and `copy_verifies`.
-/

namespace ContentCache

/-! ## Sending -/

namespace Transfer

variable {t : Transfer} {w : World} {j k : Journal} {url : String} {checksum : Option String}
  {sent : Http.Sent} {r : Http.Response}

theorem acceptPut_ends (ha : sent.delivery = .answered r) (hs : Http.isSuccess r.status = true) :
    (t.acceptPut url sent).Ends w j (.ok ()) j := by
  unfold acceptPut Http.Sent.response
  rw [ha, Act.conclude_ok_bind]
  refine .after_say ?_
  rw [if_pos hs]
  exact Act.ends_pure ()

/-- Sending goes well with an answer of success. -/
theorem put_ends {body : Stream} {length : Nat}
    (h : t.http.send (putOrder url body length checksum) w j = (sent, k))
    (ha : sent.delivery = .answered r) (hs : Http.isSuccess r.status = true) :
    (t.put url body length checksum).Ends w j (.ok ⟨.ok (), sent.taken⟩) k := by
  have hsend : Act.ofRun (t.http.send (putOrder url body length checksum)) w j = (.ok sent, k) := by
    rw [Act.ofRun_apply, h]
  refine .after_say (((t.http.send_heedless _ w).ends hsend).bind ?_)
  exact (acceptPut_ends ha hs).settle.bind (Act.ends_pure _)

/-- Content of which as many bytes are announced as it has is taken whole when there is an answer. -/
theorem taken_of_answered {items : Stream}
    (h : t.http.send (putOrder url items items.bytes.length checksum) w j = (sent, k))
    (ha : sent.delivery = .answered r) :
    sent.taken.bytes = items.bytes ∧ sent.taken.firstError? = none ∧ sent.taken <+: items := by
  obtain ⟨n, -, -, sent', hsent, sending⟩ := t.http.send_quietly w
    (putOrder url items items.bytes.length checksum) j
  rw [Act.ofRun_apply, h] at hsent
  obtain rfl : sent = sent' := Except.ok.inj hsent
  obtain ⟨front, last, -, hes, -⟩ := sending.answered_last ha
  obtain ⟨put, rest, hput⟩ := List.exists_cons_of_ne_nil (l := n.exchanges) (by rw [hes]; simp)
  rw [hput] at sending
  have htaken : sent.taken = (Http.drawItems items.bytes.length items).1 :=
    sending.taken_eq (List.cons_ne_nil _ _)
  have hbody : (Http.drawItems items.bytes.length items).2 = some put.request.body :=
    sending.head_request.2.2.1
  obtain ⟨hall, hbytes, -⟩ := Http.drawItems_all hbody (Nat.le_refl _)
  rw [htaken]
  exact ⟨hbytes.trans hall, Http.drawItems_complete hbody, Http.draw_taken_prefix _ items⟩

/-- Content that can be read to its end is sent in its own chunks as it is in others. -/
theorem send_of_sound {items : Stream} (he : items.firstError? = none)
    (h : t.http.send (putOrder url (bytesStream items.bytes) items.bytes.length checksum) w j =
      (sent, k)) :
    ∃ sent', t.http.send (putOrder url items items.bytes.length checksum) w j = (sent', k) ∧
      sent'.delivery = sent.delivery := by
  have hbytes : (bytesStream items.bytes).bytes = items.bytes := bytes_bytesStream _
  have hdraw : (Http.drawItems items.bytes.length (bytesStream items.bytes)).2 =
      (Http.drawItems items.bytes.length items).2 := by
    have hcut := Stream.cut_of_firstError? (firstError?_bytesStream items.bytes)
    rw [Http.drawItems_sound (Nat.le_of_eq (by rw [hcut, hbytes])),
      Http.drawItems_sound (Nat.le_of_eq (by rw [Stream.cut_of_firstError? he])), hbytes]
  obtain ⟨hdelivery, hjournal⟩ := t.http.send_chunks
    (o := putOrder url (bytesStream items.bytes) items.bytes.length checksum) rfl hdraw w j
  rw [h] at hdelivery hjournal
  exact ⟨_, Prod.ext rfl hjournal.symm, hdelivery.symm⟩

end Transfer

/-! ## Storing -/

namespace Store

variable {s : Store} {w : World} {space path : String} {o : UploadOptions}
  {location : Metadata.WriteLocation} {sent : Http.Sent} {r : Http.Response} {artifact : Artifact}
  {j j₁ j₂ k : Journal}

/-- What has been sent is sealed with the digest of what was taken. -/
theorem finish_ends {taken : Stream}
    (hseal : s.metadata.finalize ⟨space, path, location.uploadId,
      digestLabels (Sha256.hexDigest taken.bytes)⟩ w j = (.ok artifact, k)) :
    (s.finish space path location ⟨.ok (), taken⟩).Ends w j
      (.ok ⟨artifact.createdAt, some (artifact.digest.getD (Sha256.hexDigest taken.bytes))⟩) k := by
  unfold finish
  rw [Act.conclude_ok_bind, Meter.hexDigest_observe]
  exact ((s.metadata.call_heedless _ _ _ w).ends hseal).bind (Act.ends_pure _)

/-- Storing goes well when all of its steps do. -/
theorem consume_ends {content : Source} {m : Measured} {buffered : Stream}
    (hopen : s.metadata.createWrite ⟨space, path, o.labels, o.expiresAt⟩ w j = (.ok location, j₁))
    (hmeasure : resolveLength content o.length s.memoryLimit (w.spillFile s.spoolDirectory) =
      (.ok m, buffered))
    (hsend : s.transfer.http.send
      (Transfer.putOrder location.url m.source.toStream m.length o.checksum) w j₁ = (sent, j₂))
    (ha : sent.delivery = .answered r) (hs : Http.isSuccess r.status = true)
    (hseal : s.metadata.finalize ⟨space, path, location.uploadId,
      digestLabels (Sha256.hexDigest sent.taken.bytes)⟩ w j₂ = (.ok artifact, k)) :
    (s.consume space path content o).Ends w j
      (.ok ⟨.ok ⟨artifact.createdAt,
          some (artifact.digest.getD (Sha256.hexDigest sent.taken.bytes))⟩,
        if (declaredLength o.length).isSome then sent.taken else buffered⟩) k := by
  refine ((s.metadata.call_heedless _ _ _ w).ends hopen).settle.bind ?_
  refine Act.Ends.after_look (x := w.spillFile s.spoolDirectory) (fun _ _ => rfl) ?_
  rw [hmeasure]
  refine (Transfer.put_ends hsend ha hs).bind ?_
  exact (finish_ends hseal).settle.bind (Act.ends_pure _)

/-- **Content that can be read to its end is stored under its digest**, in whatever chunks it comes and
whether its length is declared or found out. -/
theorem consume_sound {items : Stream} {b : Bytes} (he : items.firstError? = none)
    (hb : items.bytes = b) (hlength : ∀ n, declaredLength o.length = some n → n = b.length)
    (hbuffer : declaredLength o.length = none →
      (Source.stream items).Bufferable s.memoryLimit (w.spillFile s.spoolDirectory))
    (hopen : s.metadata.createWrite ⟨space, path, o.labels, o.expiresAt⟩ w j = (.ok location, j₁))
    (hsend : s.transfer.http.send
      (Transfer.putOrder location.url (bytesStream b) b.length o.checksum) w j₁ = (sent, j₂))
    (ha : sent.delivery = .answered r) (hs : Http.isSuccess r.status = true)
    (hseal : s.metadata.finalize ⟨space, path, location.uploadId, digestLabels (Sha256.hexDigest b)⟩
      w j₂ = (.ok artifact, k)) :
    ∃ taken : Stream, taken.bytes = b ∧ taken.firstError? = none ∧ taken <+: items ∧
      (s.consume space path (.stream items) o).Ends w j
        (.ok ⟨.ok ⟨artifact.createdAt, some (artifact.digest.getD (Sha256.hexDigest b))⟩, taken⟩) k := by
  subst hb
  cases hd : declaredLength o.length with
  | none =>
    -- The content is sent from the buffer, in the buffer's own chunks.
    obtain ⟨m, hmeasure, hsource, hcount⟩ := (hbuffer hd).resolved hd
    rw [← hsource, ← hcount] at hsend
    have hbytes : (bytesStream items.bytes).bytes = items.bytes := bytes_bytesStream _
    have htaken : sent.taken.bytes = items.bytes := by
      rw [hcount, hsource, ← congrArg List.length hbytes] at hsend
      exact (Transfer.taken_of_answered hsend ha).1.trans hbytes
    rw [← htaken] at hseal
    have hends := consume_ends hopen hmeasure hsend ha hs hseal
    rw [htaken, hd] at hends
    exact ⟨items, rfl, he, List.prefix_rfl, hends⟩
  | some n =>
    -- The content is sent in the chunks in which it comes, and the server does not see them.
    obtain rfl := hlength n hd
    have hmeasure : resolveLength (.stream items) o.length s.memoryLimit
        (w.spillFile s.spoolDirectory) = (.ok ⟨.stream items, items.bytes.length⟩, []) := by
      simp [resolveLength, hd]
    obtain ⟨sent', hsend, hdelivery⟩ := Transfer.send_of_sound he hsend
    rw [← hdelivery] at ha
    obtain ⟨htaken, herror, hbegins⟩ := Transfer.taken_of_answered hsend ha
    rw [← htaken] at hseal
    have hends := consume_ends hopen hmeasure hsend ha hs hseal
    rw [htaken, hd] at hends
    exact ⟨sent'.taken, htaken, herror, hbegins, hends⟩

end Store

/-! ## Fetching -/

namespace Origin

theorem fetch_heedless (o : Origin) (url : String) (w : World) : (o.fetch url).Heedless w :=
  (o.http.ask_heedless _ _ w).bind fun _ => Act.heedless_ofExcept _

/-- Content that can be read to its end has the length that its origin has announced. -/
theorem length_of_fetched {o : Origin} {url : String} {w : World} {j k : Journal}
    {content : OriginContent} (h : o.fetch url w j = (.ok content, k))
    (he : content.body.firstError? = none) {n : Nat} (hn : declaredLength content.length = some n) :
    n = content.body.bytes.length := by
  obtain ⟨added, -, -, sent, sending, hr⟩ := o.fetch_quietly w url j
  rw [h] at hr
  obtain ⟨r, hanswered, -, rfl⟩ := outcome_eq_ok hr.symm
  obtain ⟨-, -, reply, -, -, rfl⟩ := sending.answered_last hanswered
  have hannounced : reply.announced = some n :=
    (Option.filter_eq_some_iff.1 (Option.filter_eq_some_iff.1 hn).1).1
  exact (Http.length_of_announced hannounced he).symm

end Origin

namespace Cache

open Metadata.Client (Posts Answers)

variable {c : Cache} {w : World} {source : String} {url : Url} {o : CacheOptions}
  {listed : List Artifact} {r : Except Halt Copy} {j j₁ k : Journal}

/-! ## A new copy -/

theorem settlement_ends (o : CacheOptions) (path : String) (r : Except Halt Copy) :
    (settlement o path r).Ends w j r j := by
  cases r with
  | error h => exact (Act.ends_conclude (.error h)).bind_halt
  | ok x =>
    rw [settlement, Act.conclude_ok_bind]
    exact .after_tell (Act.ends_pure x)

/-- A new copy is stored by way of a spool that takes every chunk, and the call ends as what is stored has
it. -/
theorem populate_ends {content : OriginContent} {spool : SpoolFile} {consumed : Consumed ArtifactInfo}
    (hfetch : c.origin.fetch url.text w j = (.ok content, j₁))
    (hspool : w.newSpool c.spoolDirectory = .ok spool)
    (hwritten : Tee.Writes spool.write [] content.body)
    (hstore : (c.store.consume cacheNamespace (CachePath.ofSource url (w.now j))
      (.stream content.body.cut) (c.uploadOptions source o (w.now j) content.length)).Ends w j₁
        (.ok consumed) k) (htaken : consumed.taken <+: content.body.cut) :
    (c.populate source url o).Ends w j
      (settled o (CachePath.ofSource url (w.now j)) spool Tee.failureOf consumed) k := by
  obtain ⟨blame, passing, hkept⟩ := TeeStream.through_passes spool.write content.body
  obtain ⟨hitems, rfl⟩ := passing.of_written hwritten
  rw [← hitems] at hstore htaken
  obtain ⟨hfailure, hheld, -⟩ := hkept consumed.taken htaken
  refine .after_look (fun j' hj => hj.now w) (.after_tell (.after_count ?_))
  refine ((c.origin.fetch_heedless _ w).ends hfetch).bind ?_
  refine Act.Ends.after_look (x := w.newSpool c.spoolDirectory) (fun _ _ => rfl) ?_
  rw [hspool, Act.ofExcept_ok_bind]
  refine .after_tell (hstore.bind (.after_count ?_))
  rw [settlement_eq o _ spool Tee.failureOf consumed hfailure hheld]
  exact settlement_ends o _ _

/-- A call that finds no fresh copy stores a new one. -/
theorem proceed_ends (hmiss : ¬ hasFresh listed o.freshAfter)
    (h : (c.populate source url o).Ends w j r k) : (c.proceed source url o listed).Ends w j r k := by
  unfold proceed
  cases hnewest : newest? listed with
  | none => exact .after_count h
  | some latest =>
    rw [hasFresh_iff (newest?_eq_some_iff.1 hnewest)] at hmiss
    simp only
    rw [if_neg hmiss]
    unfold tellTooOld
    cases o.freshAfter with
    | none => exact (Act.ends_pure ()).bind (.after_count h)
    | some threshold => exact .after_tell (.after_count h)

theorem lookup_ends
    (hlist : c.store.metadata.list ⟨[cacheNamespace], filterFor source (expected o)⟩ w j =
      (.ok listed, j₁))
    (h : (c.proceed source url o listed).Ends w j₁ r k) : (c.lookup source url o).Ends w j r k := by
  rw [lookup_eq]
  exact Act.Ends.bind (.after_tell ((c.store.metadata.call_heedless _ _ _ w).ends hlist)) h

/-- Content whose label is its digest is what a caller gets who expects that digest, and nobody else. -/
theorem settled_of_digest {path digest d : String} {spool : SpoolFile} {blame : IoError → Failure}
    {taken : Stream} {createdAt : Time.Instant} (hb : taken.firstError? = none)
    (hw : spool.rewinding = none) (hd : expected o = some d) :
    settled o path spool blame ⟨.ok ⟨createdAt, some digest⟩, taken⟩ =
      if digest = d then .ok ⟨bytesStream taken.bytes, ⟨createdAt, path, some digest, false⟩⟩
      else .error (.failed (.digestMismatch d digest)) := by
  rw [settled_of_ok hb, hd, hw]
  by_cases heq : digest = d <;> simp [checkDigest, heq]

/-! ## Counting -/

/-- The counters of the ways in which calls fail. -/
def failures (n : Counters) : List UInt64 := [n.originErrors, n.backendErrors, n.digestMismatches]

theorem Populating.failures_eq {es : List Exchange} {steps : List CacheEvent}
    {f : Counters → Counters} (h : c.Populating w source url o es steps f r) (n : Counters) :
    failures (f n) = failures n := by
  cases h <;> rfl

/-- The work of a call does not count how it fails. -/
theorem Looking.failures_eq {es : List Exchange} {steps : List CacheEvent} {f : Counters → Counters}
    (h : c.Looking w source url o es steps f r) (n : Counters) : failures (f n) = failures n := by
  cases h with
  | unlisted => rfl
  | listed _ proceeding =>
    cases proceeding with
    | hit _ _ serving => cases serving <;> rfl
    | missing _ populating => exact populating.failures_eq _
    | stale _ _ _ populating => exact populating.failures_eq _

/-! ## Calls -/

/-- What is answered to a call that finds no fresh copy when every step goes well: the listing, the
origin, which gives the bytes `b`, and the opening, the sending and the sealing of a new copy. Each step
comes with the journal behind it, as far as servers and clocks can see it. -/
structure Renewal (c : Cache) (w : World) (source : String) (url : Url) (o : CacheOptions)
    (j : Journal) (b : Bytes) where
  listed : List Artifact
  content : OriginContent
  location : Metadata.WriteLocation
  sent : Http.Sent
  answer : Http.Response
  artifact : Artifact
  looked : Journal
  fetched : Journal
  opened : Journal
  delivered : Journal
  sealed : Journal
  listing : c.store.metadata.list ⟨[cacheNamespace], filterFor source (expected o)⟩ w j =
    (.ok listed, looked)
  missing : ¬ hasFresh listed o.freshAfter
  fetching : c.origin.fetch url.text w looked = (.ok content, fetched)
  /-- The content can be read to its end. -/
  readable : content.body.whole = (b, none)
  spool : SpoolFile
  spooling : w.newSpool c.spoolDirectory = .ok spool
  /-- The spool takes every chunk, and can be gone back to the start of. -/
  spooled : Tee.Writes spool.write [] content.body ∧ spool.rewinding = none
  /-- Content of which no length is announced can be buffered. -/
  buffering : declaredLength content.length = none →
    (Source.stream content.body).Bufferable c.store.memoryLimit (w.spillFile c.store.spoolDirectory)
  opening : c.store.metadata.createWrite ⟨cacheNamespace, CachePath.ofSource url (w.now looked),
    .ofList [(sourceLabel, source)], c.expiry o (w.now looked)⟩ w fetched = (.ok location, opened)
  sending : c.store.transfer.http.send
    (Transfer.putOrder location.url (bytesStream b) b.length none) w opened = (sent, delivered)
  answered : sent.delivery = .answered answer
  success : Http.isSuccess answer.status = true
  sealing : c.store.metadata.finalize ⟨cacheNamespace, CachePath.ofSource url (w.now looked),
    location.uploadId, .ofList [(digestLabel, Sha256.hexDigest b)]⟩ w delivered = (.ok artifact, sealed)
  /-- The answer to the sealing does not contradict the label that was sent. -/
  labelled : artifact.digest = none ∨ artifact.digest = some (Sha256.hexDigest b)

namespace Renewal

variable {b : Bytes} {d : String}

/-- The path of the new copy. -/
def path (m : c.Renewal w source url o j b) : String := CachePath.ofSource url (w.now m.looked)

/-- A call that goes well returns the content to a caller who expects its digest, and else fails. -/
theorem ends (m : c.Renewal w source url o j b) (hd : o.expectedDigest = some d) :
    (c.lookup source url o).Ends w j
      (if Sha256.hexDigest b = Digest.plain d then
        .ok ⟨bytesStream b, ⟨m.artifact.createdAt, m.path, some (Sha256.hexDigest b), false⟩⟩
      else .error (.failed (.digestMismatch (Digest.plain d) (Sha256.hexDigest b)))) m.sealed := by
  obtain ⟨hbytes, herror⟩ := Prod.mk.inj m.readable
  have hcut : m.content.body.cut = m.content.body := Stream.cut_of_firstError? herror
  obtain ⟨taken, htaken, hsound, hbegins, hstore⟩ := Store.consume_sound (o := c.uploadOptions source o
    (w.now m.looked) m.content.length) ((Stream.firstError?_cut _).trans herror) hbytes
    (fun n hn => by
      rw [← hbytes, hcut]
      exact Origin.length_of_fetched m.fetching herror hn)
    (hcut.symm ▸ m.buffering) m.opening m.sending m.answered m.success m.sealing
  have hdigest : m.artifact.digest.getD (Sha256.hexDigest b) = Sha256.hexDigest b := by
    rcases m.labelled with h | h <;> rw [h] <;> rfl
  have hexpected : expected o = some (Digest.plain d) := by rw [expected, hd]; rfl
  rw [hdigest] at hstore
  have hends := populate_ends m.fetching m.spooling m.spooled.1 hstore hbegins
  rw [settled_of_digest hsound m.spooled.2 hexpected, htaken] at hends
  exact lookup_ends m.listing (proceed_ends m.missing hends)

/-- The copy has been sealed with the digest of its bytes. -/
theorem sealing_posts (m : c.Renewal w source url o j b) :
    ∃ closed, m.sealed.exchanges = m.delivered.exchanges ++ closed ∧
      Posts .finalizeArtifact (Metadata.FinalizeRequest.document
        ⟨cacheNamespace, m.path, m.location.uploadId, .ofList [(digestLabel, Sha256.hexDigest b)]⟩)
        closed ∧
      Answers .finalizeArtifact Metadata.sealedOfDocument? closed m.artifact := by
  obtain ⟨n, hg, -, calling⟩ := c.store.metadata.call_quietly w .finalizeArtifact
    (Metadata.FinalizeRequest.document
      ⟨cacheNamespace, m.path, m.location.uploadId, .ofList [(digestLabel, Sha256.hexDigest b)]⟩)
    Metadata.sealedOfDocument? m.delivered
  have hrun := m.sealing
  unfold Metadata.Client.finalize at hrun
  rw [path, hrun] at calling
  rw [path, hrun] at hg
  exact ⟨n.exchanges, hg.exchanges, calling.posts, calling.answers⟩

end Renewal

/-- **A new copy is returned exactly when its content has the expected digest.** It is sealed with the
digest of its bytes in any case. Another digest is a mismatch of these two digests, which is counted as
such and as no other failure, and no policy repeats the call. -/
theorem copy_verifies {b : Bytes} {d : String} (hs : readSource source = .ok url)
    (hd : o.expectedDigest = some d) (m : c.Renewal (limited o.timeout w j) source url o j b)
    (h : c.copy source o w j = (r, k)) :
    (∃ closed, k.exchanges = m.delivered.exchanges ++ closed ∧
      Posts .finalizeArtifact (Metadata.FinalizeRequest.document
        ⟨cacheNamespace, m.path, m.location.uploadId, .ofList [(digestLabel, Sha256.hexDigest b)]⟩)
        closed ∧
      Answers .finalizeArtifact Metadata.sealedOfDocument? closed m.artifact) ∧
    ((∃ x, r = .ok x ∧ x.body.bytes = b ∧ x.body.firstError? = none) ↔
      Sha256.hexDigest b = Digest.plain d) ∧
    (Sha256.hexDigest b ≠ Digest.plain d →
      r = .error (.failed (.digestMismatch (Digest.plain d) (Sha256.hexDigest b)))) ∧
    k.counters.digestMismatches =
      j.counters.digestMismatches + (if Sha256.hexDigest b = Digest.plain d then 0 else 1) ∧
    k.counters.originErrors = j.counters.originErrors ∧
    k.counters.backendErrors = j.counters.backendErrors ∧
    ∀ p, c.copyRetrying source o p w j = (r, k) := by
  have hrun := h
  obtain ⟨closed, hclosed, posts, answers⟩ := m.sealing_posts
  obtain ⟨l, hwork, hl⟩ := m.ends hd (begun j) ⟨rfl, rfl, rfl⟩
  obtain ⟨n, hg, -, steps, -, looking⟩ :=
    c.lookup_openly (limited o.timeout w j) source url o (begun j)
  have hfailures : failures l.counters = failures j.counters := by
    rw [hwork] at hg
    rw [hg.counters, looking.failures_eq]
    rfl
  simp only [failures, List.cons.injEq, and_true] at hfailures
  obtain ⟨horigin, hbackend, hmismatches⟩ := hfailures
  rw [copy_apply hs, hwork] at h
  by_cases heq : Sha256.hexDigest b = Digest.plain d
  · rw [if_pos heq, concluded, overtaken_eq_ok.2 rfl] at h
    obtain ⟨rfl, rfl⟩ := Prod.mk.inj h
    refine ⟨⟨closed, hl.exchanges.trans hclosed, posts, answers⟩, iff_of_true ?_ heq,
      fun hne => absurd heq hne, ?_, horigin, hbackend, fun p => Act.retrying_of_ok hrun⟩
    · exact ⟨_, rfl, bytes_bytesStream b, firstError?_bytesStream b⟩
    · rw [if_pos heq, UInt64.add_zero]
      exact hmismatches
  · rw [if_neg heq, concluded, overtaken_failed] at h
    obtain ⟨rfl, rfl⟩ := Prod.mk.inj h
    refine ⟨⟨closed, hl.exchanges.trans hclosed, posts, answers⟩, iff_of_false ?_ heq, fun _ => rfl, ?_,
      horigin, hbackend, fun p => Act.retrying_of_final hrun ?_⟩
    · rintro ⟨x, hx, -⟩
      cases hx
    · rw [if_neg heq, ← hmismatches]
      rfl
    · rw [RetryPolicy.allows, Failure.isTransient_eq_false_of_isPrecondition rfl, Bool.and_false]

/-! ## A run -/

/-- The URL of the source `http://o/`. -/
def plainUrl : Url where
  scheme := "http"
  authority := some { host := some (.name "o") }
  path := .segments [""]

/-! The steps of a call to which nothing is listed, and whose content comes in chunks. -/

def chunkedListing : Except Halt (List Artifact) × Journal :=
  usual.store.metadata.list ⟨[cacheNamespace], filterFor "http://o/" (expected expectsAb)⟩
    chunkedWorld {}

def chunkedFetching : Except Halt OriginContent × Journal :=
  usual.origin.fetch plainUrl.text chunkedWorld chunkedListing.2

def chunkedPath : String := CachePath.ofSource plainUrl (chunkedWorld.now chunkedListing.2)

def chunkedOpening : Except Halt Metadata.WriteLocation × Journal :=
  usual.store.metadata.createWrite ⟨cacheNamespace, chunkedPath, .ofList [(sourceLabel, "http://o/")],
    usual.expiry expectsAb (chunkedWorld.now chunkedListing.2)⟩ chunkedWorld chunkedFetching.2

def chunkedSending : Http.Sent × Journal :=
  usual.store.transfer.http.send (Transfer.putOrder "http://s/?k" (bytesStream [104, 105, 33]) 3 none)
    chunkedWorld chunkedOpening.2

def chunkedSealing : Except Halt Artifact × Journal :=
  usual.store.metadata.finalize ⟨cacheNamespace, chunkedPath, "u",
    .ofList [(digestLabel, Sha256.hexDigest [104, 105, 33])]⟩ chunkedWorld chunkedSending.2

set_option maxRecDepth 10000 in
theorem chunked_steps :
    chunkedListing.1.toOption = some [] ∧
      chunkedFetching.1.toOption = some ⟨none, [.chunk [104], .chunk [], .chunk [105, 33]]⟩ ∧
      chunkedOpening.1.toOption = some ⟨"http://s/?k", "u"⟩ ∧
      chunkedSending.1.delivery = .answered ⟨200, none, some 0, []⟩ ∧
      chunkedSealing.1.toOption = some ⟨"n", "p", newYear, .empty⟩ := by
  decide +kernel

/-- The chunks are stored under their digest. -/
def chunkedRenewal : usual.Renewal chunkedWorld "http://o/" plainUrl expectsAb {} [104, 105, 33] where
  listed := []
  content := ⟨none, [.chunk [104], .chunk [], .chunk [105, 33]]⟩
  location := ⟨"http://s/?k", "u"⟩
  sent := chunkedSending.1
  answer := ⟨200, none, some 0, []⟩
  artifact := ⟨"n", "p", newYear, .empty⟩
  looked := chunkedListing.2
  fetched := chunkedFetching.2
  opened := chunkedOpening.2
  delivered := chunkedSending.2
  sealed := chunkedSealing.2
  listing := eq_of_toOption chunked_steps.1
  missing := not_hasFresh_nil _
  fetching := eq_of_toOption chunked_steps.2.1
  readable := rfl
  spool := .sound
  spooling := rfl
  spooled := ⟨Tee.writes_sound _ _, rfl⟩
  buffering := fun _ => Source.bufferable_of_sound _ rfl
  opening := eq_of_toOption chunked_steps.2.2.1
  sending := rfl
  answered := chunked_steps.2.2.2.1
  success := rfl
  sealing := eq_of_toOption chunked_steps.2.2.2.2
  labelled := .inl rfl

set_option maxRecDepth 10000 in
/-- A caller who expects another digest gets a mismatch, whatever the policy. -/
theorem copy_verifies_chunks :
    (usual.copy "http://o/" expectsAb chunkedWorld {}).1 =
        .error (.failed (.digestMismatch "ab" (Sha256.hexDigest [104, 105, 33]))) ∧
      (usual.copy "http://o/" expectsAb chunkedWorld {}).2.counters.digestMismatches = 1 ∧
      ∀ p, usual.copyRetrying "http://o/" expectsAb p chunkedWorld {} =
        usual.copy "http://o/" expectsAb chunkedWorld {} := by
  have hs : (readSource "http://o/").toOption = some plainUrl := by decide +kernel
  have hne : Sha256.hexDigest [104, 105, 33] ≠ Digest.plain "ab" := by decide +kernel
  generalize hwork : usual.copy "http://o/" expectsAb chunkedWorld {} = work
  obtain ⟨r, k⟩ := work
  obtain ⟨-, -, hmismatch, hcounted, -, -, hretrying⟩ :=
    copy_verifies (eq_ok_of_toOption hs) rfl chunkedRenewal hwork
  rw [if_neg hne] at hcounted
  exact ⟨hmismatch hne, hcounted, hretrying⟩

end Cache

end ContentCache
