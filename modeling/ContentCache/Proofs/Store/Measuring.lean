import ContentCache.Proofs.Labelling

/-!
# Content of unknown length

Content for which no length is declared is measured, by seeks or by buffering, before anything of it is
sent. What is sent then are the bytes from its position to its end, and what is sealed is labelled with
their digest. When measuring fails nothing is sent at all.

* `Http.IsHttpAddress`: a URL that plain requests can be sent to.
* `Store.Fills`: what becomes of content of unknown length when a place has been opened for it.

Main statements: `Sending.made` (an order that can be sent is sent) and `upload_fills`, with
`upload_spill_failed` (a spill file that can be made is not enough).
-/

namespace ContentCache

/-! ## Orders that are sent -/

namespace Http

/-- A URL that plain requests can be sent to. -/
def IsHttpAddress (text : String) : Prop :=
  ∃ url, Url.read text = .ok url ∧ url.scheme = "http" ∧ url.host.isSome = true ∧
    isAddress (Target.ofUrl url).url = true

/-- A client gives a request, and a connection, some time. -/
def Client.IsPatient (c : Client) : Prop :=
  0 < c.requestLimit.nanoseconds ∧ 0 < c.connectLimit.nanoseconds

theorem Target.ofUrl_scheme (url : Url) : (Target.ofUrl url).url.scheme = url.scheme := by
  unfold Target.ofUrl
  split <;> rfl

/-- An order to such a URL has a draft when its headers can be sent. -/
theorem Order.draft_of_address {o : Order} (ha : IsHttpAddress o.url)
    (hh : o.token.all isHeaderText = true ∧ o.contentMd5.all isHeaderText = true) :
    ∃ d, o.draft = .ok d ∧ d.url.scheme = "http" ∧ d.payload = o.payload := by
  obtain ⟨url, hread, hscheme, hhost, haddress⟩ := ha
  have hweb : Url.isWebScheme url.scheme = true := by rw [hscheme]; rfl
  have hnone : url.host.isNone = false := by
    cases hu : url.host with
    | none => rw [hu] at hhost; cases hhost
    | some h => rfl
  unfold Order.draft
  rw [hread]
  simp only [hnone, hh.1, hh.2, hweb, haddress, Bool.and_self, Bool.not_true, Bool.or_self,
    Bool.false_eq_true, if_false]
  exact ⟨_, rfl, (Target.ofUrl_scheme url).trans hscheme, rfl⟩

namespace Client

variable {c : Client} {w : World} {o : Order} {es : List Exchange} {sent : Sent}

/-- **An order that can be sent is sent**: its server is reached, and its body is complete. -/
theorem Sending.made (h : c.Sending w o es sent) {d : Draft} {body : Bytes} (hd : o.draft = .ok d)
    (hr : c.reaches w d.url = true) (hb : d.payload.draw.2 = some body) (hw : w.deadline = none) :
    es ≠ [] := by
  cases h with
  | unusable h => rw [hd] at h; cases h
  | sent h trail =>
    obtain rfl := Except.ok.inj (hd.symm.trans h)
    have attempted {x : Reaction × Stream} (ha : Attempt c w o.purpose 0 d es x) : es ≠ [] := by
      cases ha with
      | unreached hno => rw [hr] at hno; cases hno
      | late _ hsome => rw [hw] at hsome; cases hsome
      | incomplete _ hno => rw [hb] at hno; cases hno
      | unanswered | abandoned | replied => simp
    cases trail with
    | interrupted h | unanswered h => exact attempted h
    | answered | astray | redirected => simp

/-- Where an answer comes from, somebody listens, and there is time for a request. -/
theorem Sending.reached {resp : Response} (h : c.Sending w o es sent)
    (ha : sent.delivery = .answered resp) : w.listening = true ∧ c.IsPatient := by
  obtain ⟨front, last, r, hes, -⟩ := h.answered_last ha
  obtain ⟨e, rest, rfl⟩ := List.exists_cons_of_ne_nil (by rw [hes]; simp : es ≠ [])
  obtain ⟨d, -, hs⟩ := h.head_sends
  have hreached := hs.reached
  simp only [reaches, Bool.and_eq_true, decide_eq_true_iff] at hreached
  exact ⟨hreached.1.1.1, hreached.1.2, hreached.2⟩

end Client

end Http

/-- A metadata call that has a value has reached its service. -/
theorem Metadata.Client.Calling.reached {α : Type} {c : Metadata.Client} {w : World}
    {method : Metadata.Method} {request : Json} {decode : Json → Option α} {es : List Exchange} {a : α}
    (h : c.Calling w method request decode es (.ok a)) : w.listening = true ∧ c.http.IsPatient := by
  have posted {fs : List Exchange} {resp : Http.Response}
      (first : c.Posting w method request false fs (.ok resp)) :
      w.listening = true ∧ c.http.IsPatient := by
    generalize hr : (.ok resp : Except Halt Http.Response) = r at first
    cases first with
    | unissued => cases hr
    | @posted _ _ _ sent _ sending =>
      unfold Http.Sent.response at hr
      cases hd : sent.delivery with
      | answered resp' => exact sending.reached hd
      | failed | interrupted => simp [hd] at hr
  generalize hr : (.ok a : Except Halt α) = r at h
  cases h with
  | halted | haltedAgain => cases hr
  | answered first | answeredAgain first => exact posted first

/-! ## Storing -/

namespace Store

variable {s : Store} {w : World} {space path : String} {content : Source} {o : UploadOptions}
  {es : List Exchange}

/-- What becomes of content of unknown length when a place has been opened for it, with the requests that
send it and those that seal it. -/
structure Fills (s : Store) (w : World) (space path : String) (content : Source) (o : UploadOptions)
    (location : Metadata.WriteLocation) (sending sealing : List Exchange)
    (r : Except Halt ArtifactInfo) : Prop where
  /-- Nothing is sent of content that cannot be measured, and that is the failure. -/
  hindered : ∀ f, content.Hindered s.memoryLimit (w.spillFile s.spoolDirectory) f →
    (∃ detail, f = .io detail) ∧ sending = [] ∧ sealing = [] ∧ r = .error (.failed f)
  /-- Nothing is sent either of content that has been measured and breaks off before its end: the transfer
  fails without an answer. -/
  unread : (∀ f, ¬ content.Hindered s.memoryLimit (w.spillFile s.spoolDirectory) f) → ∀ n e,
    content.BreaksOff s.memoryLimit (w.spillFile s.spoolDirectory) n e → n < content.remaining.length →
    sending = [] ∧ sealing = [] ∧ ∃ message, r = .error (.failed (.transfer none message))
  /-- Other content is sent when its place is an address, its checksum can be sent along, and there is
  time for a request, as there is for a client that has opened the place. -/
  sent : (∀ f, ¬ content.Hindered s.memoryLimit (w.spillFile s.spoolDirectory) f) →
    (∀ n e, content.BreaksOff s.memoryLimit (w.spillFile s.spoolDirectory) n e →
      content.remaining.length ≤ n) →
    Http.IsHttpAddress location.url → o.checksum.all Http.isHeaderText = true →
    s.transfer.http = s.metadata.http ∨ s.transfer.http.IsPatient → sending ≠ []
  /-- The first request carries the content, with the length of what is left of it. -/
  carries : ∀ put rest, sending = put :: rest →
    put.purpose = .upload ∧ put.hop = 0 ∧ put.request.method = .put ∧
    (∃ url, Url.read location.url = .ok url ∧
      put.request.url = url.withoutUser.withoutFragment) ∧
    put.request.contentLength = some content.remaining.length ∧
    put.request.body = content.remaining
  /-- What has been sent well is sealed with its digest, and in no other case anything is sealed. -/
  sealed : (∀ f, ¬ content.Hindered s.memoryLimit (w.spillFile s.spoolDirectory) f) → ∃ sent items,
    Stream.bytes items <+: content.remaining ∧
    s.transfer.http.Sending w
      (Transfer.putOrder location.url items content.remaining.length o.checksum) sending sent ∧
    (∀ halt, Transfer.outcome "upload" (fun _ => ()) sent = .error halt →
      sealing = [] ∧ r = .error halt) ∧
    (Transfer.outcome "upload" (fun _ => ()) sent = .ok () → ∃ x,
      s.Seals w space path location.uploadId (Sha256.hexDigest content.remaining) sealing x ∧
      r = x.map fun a => ⟨a.createdAt, some (a.digest.getD (Sha256.hexDigest content.remaining))⟩)
  /-- When all goes well the seal names the place, and its answer is what the caller is told. -/
  told : ∀ info, r = .ok info →
    Metadata.Client.Posts .finalizeArtifact (Metadata.FinalizeRequest.document
      ⟨space, path, location.uploadId, digestLabels (Sha256.hexDigest content.remaining)⟩) sealing ∧
    ∃ artifact, Metadata.Client.Answers .finalizeArtifact Metadata.sealedOfDocument? sealing artifact ∧
      info = ⟨artifact.createdAt,
        some (artifact.digest.getD (Sha256.hexDigest content.remaining))⟩

section Transmitted

variable {location : Metadata.WriteLocation} {opened sending sealing : List Exchange} {m : Measured}
  {sent : Http.Sent} {taken : Stream}

/-- Content that is sent has been measured, so nothing hinders that. -/
theorem Transmits.unhindered (h : s.Transmits w location.url content o m es sent taken)
    (hd : declaredLength o.length = none) (f : Failure) :
    ¬ content.Hindered s.memoryLimit (w.spillFile s.spoolDirectory) f := by
  obtain ⟨buffered, hmeasured, -⟩ := h.measured
  rw [← resolveLength_error_iff hd, hmeasured]
  exact nofun

/-- Content that has been measured is carried whole by the first request. -/
theorem Transmits.carries_whole {put : Exchange} {rest : List Exchange}
    (h : s.Transmits w location.url content o m (put :: rest) sent taken)
    (hd : declaredLength o.length = none) :
    put.purpose = .upload ∧ put.hop = 0 ∧ put.request.method = .put ∧
      (∃ url, Url.read location.url = .ok url ∧
        put.request.url = url.withoutUser.withoutFragment) ∧
      put.request.contentLength = some content.remaining.length ∧
      put.request.body = content.remaining := by
  obtain ⟨hbody, hlength, -⟩ := h.whole hd
  obtain ⟨hhop, hmethod, -, hannounced, hurl⟩ := h.sending.head_request
  refine ⟨h.sending.purpose_eq _ (by simp), hhop, hmethod, hurl, ?_, hbody⟩
  rw [hannounced, ← hlength]
  rfl

/-- Content that has been measured and can be read to its end is sent when its place can be reached. -/
theorem Transmits.made (h : s.Transmits w location.url content o m es sent taken)
    (hd : declaredLength o.length = none)
    (hread : ∀ n e, content.BreaksOff s.memoryLimit (w.spillFile s.spoolDirectory) n e →
      content.remaining.length ≤ n)
    (hw : w.deadline = none) (hl : w.listening = true) (ha : Http.IsHttpAddress location.url)
    (hc : o.checksum.all Http.isHeaderText = true) (hp : s.transfer.http.IsPatient) : es ≠ [] := by
  obtain ⟨buffered, hmeasured, -⟩ := h.measured
  obtain ⟨-, hlength⟩ := resolveLength_unknown_ok hd hmeasured
  have hall : m.source.toStream.bytes = content.remaining := by
    obtain ⟨n, e, hbreaks, hbytes, -⟩ | ⟨-, hbytes, -⟩ := breaksOff_of_resolved hd hmeasured
    · rw [hbytes, List.take_of_length_le (hread n e hbreaks)]
    · exact hbytes
  have hcut : m.source.toStream.cut = m.source.toStream := cut_of_resolved hd hmeasured
  obtain ⟨d, hdraft, hscheme, hpayload⟩ := Http.Order.draft_of_address
    (o := Transfer.putOrder location.url m.source.toStream m.length o.checksum) ha ⟨rfl, hc⟩
  have hbody : d.payload.draw.2 = some (m.source.toStream.bytes.take m.length) := by
    rw [hpayload]
    exact Http.drawItems_sound (Nat.le_of_eq (by rw [hcut, hall, hlength]))
  refine h.sending.made hdraft ?_ hbody hw
  simp [Http.Client.reaches, hl, hscheme, hp.1, hp.2]

/-- Content that breaks off before its end is not sent. -/
theorem Transmits.unmade (h : s.Transmits w location.url content o m es sent taken)
    (hd : declaredLength o.length = none) {n : Nat} {e : IoError}
    (hbreaks : content.BreaksOff s.memoryLimit (w.spillFile s.spoolDirectory) n e)
    (hn : n < content.remaining.length) : es = [] := by
  obtain ⟨buffered, hmeasured, -⟩ := h.measured
  obtain ⟨-, hlength⟩ := resolveLength_unknown_ok hd hmeasured
  have hbytes : m.source.toStream.bytes = content.remaining.take n := by
    obtain ⟨n', e', hbreaks', hbytes, -⟩ | ⟨hnever, -⟩ := breaksOff_of_resolved hd hmeasured
    · rw [(hbreaks.unique hbreaks').1, hbytes]
    · exact absurd hbreaks (hnever n e)
  cases es with
  | nil => rfl
  | cons put rest =>
    -- A complete body would have as many bytes as are announced, and no more can be read than `n`.
    obtain ⟨first, more, -, hbody, -⟩ := h.complete (List.cons_ne_nil put rest)
    have hdrawn := (Http.draw_body_eq hbody).2
    obtain ⟨front, hfront⟩ := Http.draw_taken_prefix m.length m.source.toStream
    have hcount := congrArg List.length hbytes
    rw [← hfront, Stream.bytes_append, List.length_append, List.length_take] at hcount
    omega

/-- A transfer of which nothing has been sent fails without an answer. -/
theorem outcome_of_unsent {order : Http.Order} {c : Http.Client} (h : c.Sending w order [] sent)
    (hw : w.deadline = none) :
    ∃ message, Transfer.outcome "upload" (fun _ => ()) sent =
      .error (.failed (.transfer none message)) := by
  unfold Transfer.outcome Http.Sent.response
  cases hdelivery : sent.delivery with
  | answered resp =>
    obtain ⟨front, last, reply, hnone, -⟩ := h.answered_last hdelivery
    simp at hnone
  | interrupted => exact absurd hdelivery (h.not_interrupted hw)
  | failed e => exact ⟨_, rfl⟩

/-- The order that sends content of unknown length announces the length of what is left of it. -/
theorem Transmits.order (h : s.Transmits w location.url content o m es sent taken)
    (hd : declaredLength o.length = none) :
    ∃ items, Stream.bytes items <+: content.remaining ∧ s.transfer.http.Sending w
      (Transfer.putOrder location.url items content.remaining.length o.checksum) es sent := by
  obtain ⟨buffered, hmeasured, -⟩ := h.measured
  obtain ⟨hremaining, hlength⟩ := resolveLength_unknown_ok hd hmeasured
  exact ⟨m.source.toStream, hremaining ▸ m.source.toStream_begins, hlength ▸ h.sending⟩

theorem fills_of_unmeasured {f : Failure} {buffered : Stream} (hd : declaredLength o.length = none)
    (measuring : resolveLength content o.length s.memoryLimit (w.spillFile s.spoolDirectory) =
      (.error f, buffered)) :
    s.Fills w space path content o location [] [] (.error (.failed f)) := by
  have hfailure : (resolveLength content o.length s.memoryLimit (w.spillFile s.spoolDirectory)).1 =
      .error f := congrArg Prod.fst measuring
  have hindered := (resolveLength_error_iff hd content s.memoryLimit _ f).1 hfailure
  constructor
  case hindered =>
    intro g hg
    rw [← resolveLength_error_iff hd, hfailure] at hg
    obtain rfl := Except.error.inj hg
    exact ⟨hindered.io fun _ => World.spillFile_io, rfl, rfl, rfl⟩
  case unread => exact fun hno => absurd hindered (hno f)
  case sent => exact fun hno => absurd hindered (hno f)
  case carries => exact fun _ _ hno => nomatch hno
  case sealed => exact fun hno => absurd hindered (hno f)
  case told => exact fun _ hno => nomatch hno

theorem Transmits.fills_of_refused {halt : Halt}
    (h : s.Transmits w location.url content o m sending sent taken)
    (opening : s.Opens w space path o opened (.ok location)) (hd : declaredLength o.length = none)
    (hw : w.deadline = none) (refused : Transfer.outcome "upload" (fun _ => ()) sent = .error halt) :
    s.Fills w space path content o location sending [] (.error halt) := by
  constructor
  case hindered => exact fun f hf => absurd hf (h.unhindered hd f)
  case unread =>
    intro _ n e hbreaks hn
    obtain rfl := h.unmade hd hbreaks hn
    obtain ⟨message, hmessage⟩ := outcome_of_unsent h.sending hw
    obtain rfl := Except.error.inj (refused.symm.trans hmessage)
    exact ⟨rfl, rfl, message, rfl⟩
  case sent =>
    intro _ hread ha hc hpatient
    obtain ⟨hl, hp⟩ := opening.reached
    exact h.made hd hread hw hl ha hc (hpatient.elim (fun hsame => hsame ▸ hp) id)
  case carries =>
    rintro put rest rfl
    exact h.carries_whole hd
  case sealed =>
    intro _
    obtain ⟨items, hitems, hsending⟩ := h.order hd
    refine ⟨sent, items, hitems, hsending, fun halt' hhalt => ⟨rfl, ?_⟩, fun hok => ?_⟩
    · rw [Except.error.inj (refused.symm.trans hhalt)]
    · cases refused.symm.trans hok
  case told => exact fun _ hno => nomatch hno

theorem Transmits.fills_of_accepted {x : Except Halt Artifact} {computed : String}
    (h : s.Transmits w location.url content o m sending sent taken)
    (hd : declaredLength o.length = none)
    (accepted : Transfer.outcome "upload" (fun _ => ()) sent = .ok ())
    (digested : computed = (Meter.start.observe sent.taken).hexDigest)
    (sealed : s.Seals w space path location.uploadId computed sealing x) :
    s.Fills w space path content o location sending sealing
      (x.map fun a => ⟨a.createdAt, some (a.digest.getD computed)⟩) := by
  obtain ⟨resp, hanswered, -⟩ := Transfer.outcome_eq_ok accepted
  obtain ⟨front, last, reply, hsending, -⟩ := h.sending.answered_last hanswered
  obtain ⟨put, rest, rfl⟩ := List.exists_cons_of_ne_nil (by rw [hsending]; simp : sending ≠ [])
  obtain ⟨-, -, hdrawn, -⟩ := h.whole hd
  rw [Meter.hexDigest_observe, hdrawn] at digested
  subst digested
  constructor
  case hindered => exact fun f hf => absurd hf (h.unhindered hd f)
  case unread => exact fun _ n e hbreaks hn => nomatch h.unmade hd hbreaks hn
  case sent => simp
  case carries =>
    intro put' rest' heq
    obtain ⟨rfl, rfl⟩ := List.cons.inj heq
    exact h.carries_whole hd
  case sealed =>
    intro _
    obtain ⟨items, hitems, hsending⟩ := h.order hd
    refine ⟨sent, items, hitems, hsending, fun halt hhalt => ?_, fun _ => ⟨x, sealed, rfl⟩⟩
    cases accepted.symm.trans hhalt
  case told =>
    intro info hinfo
    cases x with
    | error halt => cases hinfo
    | ok artifact => exact ⟨sealed.posts, artifact, sealed.answers, (Except.ok.inj hinfo).symm⟩

end Transmitted

/-- Storing content of unknown length: a place is opened, and then it is filled. -/
theorem Storing.fills {x : Consumed ArtifactInfo} (h : s.Storing w space path content o es x)
    (hd : declaredLength o.length = none) (hw : w.deadline = none) :
    ∃ opened sending sealing, es = opened ++ (sending ++ sealing) ∧
      ((∃ halt, s.Opens w space path o opened (.error halt) ∧ sending = [] ∧ sealing = [] ∧
          x.result = .error halt) ∨
        ∃ location, s.Opens w space path o opened (.ok location) ∧
          s.Fills w space path content o location sending sealing x.result) := by
  cases h with
  | @unopened _ halt opening =>
    exact ⟨es, [], [], by simp, .inl ⟨halt, opening, rfl, rfl, rfl⟩⟩
  | @unmeasured _ location f buffered opening measuring =>
    exact ⟨es, [], [], by simp, .inr ⟨location, opening, fills_of_unmeasured hd measuring⟩⟩
  | @unsent opened sending location _ _ _ _ opening transmitting refused =>
    exact ⟨opened, sending, [], by simp,
      .inr ⟨location, opening, transmitting.fills_of_refused opening hd hw refused⟩⟩
  | @sent opened sending sealing location _ _ _ _ _ opening transmitting accepted digested sealed =>
    exact ⟨opened, sending, sealing, rfl,
      .inr ⟨location, opening, transmitting.fills_of_accepted hd accepted digested sealed⟩⟩

end Store

/-- **Content of unknown length is sent whole or not at all.** When a place has been opened for it, it is
measured; a request carries what is left of it with the length of that, and what has been sent is sealed
with its digest under the name of the place. Content that cannot be measured, or not be read to its end, is
not sent. -/
theorem upload_fills (s : Store) (w : World) (j : Journal) (space path : String) (content : Source)
    (o : UploadOptions) (hd : declaredLength o.length = none) (hw : w.deadline = none) :
    ∃ opened sending sealing,
      (s.upload space path content o w j).2.exchanges =
        j.exchanges ++ (opened ++ (sending ++ sealing)) ∧
      ((∃ halt, s.Opens w space path o opened (.error halt) ∧ sending = [] ∧ sealing = [] ∧
          (s.upload space path content o w j).1 = .error halt) ∨
        ∃ location, s.Opens w space path o opened (.ok location) ∧
          s.Fills w space path content o location sending sealing
            (s.upload space path content o w j).1) := by
  obtain ⟨n, hg, -, consumed, hr, storing⟩ := s.upload_quietly w space path content o j
  obtain ⟨opened, sending, sealing, hes, hcases⟩ := storing.fills hd hw
  rw [hr]
  exact ⟨opened, sending, sealing, by rw [← hes]; exact hg.exchanges, hcases⟩

/-- Three bytes in two chunks, with an empty one between them. -/
def chunksWithGap : Source := .stream [.chunk [104], .chunk [], .chunk [105, 33]]

set_option maxRecDepth 10000 in
/-- Chunks are put together and sent with their length. -/
theorem upload_fills_chunks :
    declaredLength (some 0) = none ∧
      ∃ put ∈ (Cache.usual.store.upload "n" "p" chunksWithGap { length := some 0 } acceptingWorld
          {}).2.exchanges,
        put.request.method = .put ∧ put.request.contentLength = some 3 ∧
          put.request.body = [104, 105, 33] := by
  have hlength : declaredLength (some 0) = none := by decide
  have hgiven : (Cache.usual.store.upload "n" "p" chunksWithGap { length := some 0 } acceptingWorld
      {}).1.toOption.isSome = true := by decide +kernel
  obtain ⟨info, hgiven⟩ := Option.isSome_iff_exists.1 hgiven
  have hr := eq_ok_of_toOption hgiven
  obtain ⟨opened, sending, sealing, hes, ⟨halt, -, -, -, hhalt⟩ | ⟨location, -, fills⟩⟩ :=
    upload_fills Cache.usual.store acceptingWorld {} "n" "p" chunksWithGap { length := some 0 }
      hlength rfl
  · cases hr.symm.trans hhalt
  · have unhindered : ∀ f, ¬ chunksWithGap.Hindered Cache.usual.store.memoryLimit
        (acceptingWorld.spillFile Cache.usual.store.spoolDirectory) f := by
      intro f hindered
      obtain ⟨-, -, -, hf⟩ := fills.hindered f hindered
      cases hr.symm.trans hf
    obtain ⟨sent, items, -, hsending, hrefused, -⟩ := fills.sealed unhindered
    cases sending with
    | nil =>
      -- What has not been sent has no answer, and so the call would not have ended well.
      obtain ⟨halt, hhalt⟩ : ∃ halt, Transfer.outcome "upload" (fun _ => ()) sent = .error halt :=
        Transfer.outcome_of_unanswered fun resp hanswered => by
          obtain ⟨front, e, reply, hnone, -⟩ := hsending.answered_last hanswered
          simp at hnone
      cases hr.symm.trans (hrefused halt hhalt).2
    | cons put rest =>
      obtain ⟨-, -, hmethod, -, hannounced, hbody⟩ := fills.carries put rest rfl
      exact ⟨hlength, put, by simp [hes], hmethod, hannounced, hbody⟩

set_option maxRecDepth 10000 in
/-- **A spill file that can be made is not enough**: when it cannot be written to, nothing is sent, although
the stream can be read to its end and every answer would be one of success. -/
theorem upload_spill_failed :
    chunksWithGap.toStream.firstError? = none ∧
      (World.spillFile { acceptingWorld with spill := .ok .full } none).toOption.isSome = true ∧
      (Store.upload { Cache.usual.store with memoryLimit := 2 } "n" "p" chunksWithGap {}
          { acceptingWorld with spill := .ok .full } {}).2.exchanges.map (fun e => (e.purpose, e.answer)) =
        [(.call .createArtifact,
          Cache.said "\x7b\"signedUploadUrl\":\"http://s/?k\",\"uploadId\":\"u\"\x7d")] := by
  refine ⟨rfl, rfl, ?_⟩
  decide +kernel

end ContentCache
