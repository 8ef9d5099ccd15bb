import ContentCache.Proofs.Content.Resolving
import ContentCache.Proofs.Metadata.Calling
import ContentCache.Store

/-!
# The exchanges of storing and of opening

Storing content opens a place, sends the content there and seals it; each step is taken only when the
one before has gone well. Opening content asks for a place and reads from there.

* `Transfer.outcome`: how a transfer ends, by what became of its request.
* `Store.Transmits`: the exchanges of sending content whose length has been found out.
* `Store.Storing`, `Store.Opening`: the exchanges and the end that can come of storing and of opening,
  one rule for each way.
* `Store.Names`: requests name a place, its labels and the end of its life.

Main statements: `consume_quietly` and `resolve_quietly` (what a store does is one of these ways) and
`Storing.names` (storing names one place).
-/

namespace ContentCache

namespace Transfer

variable {α : Type} {w : World}

/-- How a transfer ends, by what became of its request. -/
def outcome (operation : String) (use : Http.Response → α) (sent : Http.Sent) : Except Halt α :=
  match sent.response (unanswered operation) with
  | .ok r =>
    if Http.isSuccess r.status then .ok (use r)
    else .error (.failed (Failure.transferStatusFailure operation r.status))
  | .error h => .error h

/-- A transfer goes well with an answer of success. -/
theorem outcome_eq_ok {operation : String} {use : Http.Response → α} {sent : Http.Sent} {a : α}
    (h : outcome operation use sent = .ok a) :
    ∃ r, sent.delivery = .answered r ∧ Http.isSuccess r.status = true ∧ a = use r := by
  unfold outcome Http.Sent.response at h
  cases hd : sent.delivery with
  | failed | interrupted => simp [hd] at h
  | answered r =>
    simp only [hd] at h
    split at h
    · next hs => exact ⟨r, rfl, hs, (Except.ok.inj h).symm⟩
    · cases h

/-- An answer that is none of success is a refusal with its status. -/
theorem outcome_of_refused {operation : String} {use : Http.Response → α} {sent : Http.Sent}
    {r : Http.Response} (hd : sent.delivery = .answered r) (hs : Http.isSuccess r.status = false) :
    outcome operation use sent =
      .error (.failed (Failure.transferStatusFailure operation r.status)) := by
  simp [outcome, Http.Sent.response, hd, hs]

theorem outcome_of_unanswered {operation : String} {use : Http.Response → α} {sent : Http.Sent}
    (h : ∀ r, sent.delivery ≠ .answered r) : ∃ halt, outcome operation use sent = .error halt := by
  cases ho : outcome operation use sent with
  | error halt => exact ⟨halt, rfl⟩
  | ok a =>
    obtain ⟨r, hr, -⟩ := outcome_eq_ok ho
    exact absurd hr (h r)

theorem acceptPut_quietly (t : Transfer) (w : World) (url : String) (sent : Http.Sent) :
    (t.acceptPut url sent).Quietly w fun es r =>
      es = [] ∧ r = outcome "upload" (fun _ => ()) sent := by
  unfold acceptPut outcome
  cases sent.response (unanswered "upload") with
  | error h => exact Act.quietly_conclude _ ⟨rfl, rfl⟩
  | ok r =>
    rw [Act.conclude_ok_bind]
    refine .after_say ?_
    simp only
    split
    · exact Act.quietly_pure () ⟨rfl, rfl⟩
    · exact .after_say (Act.quietly_fail _ ⟨rfl, rfl⟩)

/-- **Sending content**: its request, and the end that this brings about. -/
theorem put_quietly (t : Transfer) (w : World) (url : String) (body : Stream) (length : Nat)
    (checksum : Option String) :
    (t.put url body length checksum).Quietly w fun es r =>
      ∃ consumed, r = .ok consumed ∧
        ∃ sent, t.http.Sending w (putOrder url body length checksum) es sent ∧
          consumed = ⟨outcome "upload" (fun _ => ()) sent, sent.taken⟩ := by
  refine .after_say ((t.http.send_quietly w _).bind_total fun es sent hs => ?_)
  refine (t.acceptPut_quietly w url sent).settle.bind_total ?_
  rintro fs r ⟨rfl, rfl⟩
  exact Act.quietly_pure _ ⟨_, rfl, sent, by simpa using hs, rfl⟩

/-- **Opening content for reading**: its request, and the end that this brings about. -/
theorem get_quietly (t : Transfer) (w : World) (url : String) :
    (t.get url).Quietly w fun es r =>
      ∃ sent, t.http.Sending w (getOrder url) es sent ∧
        r = outcome "download" Http.Response.body sent := by
  refine .after_say ((t.http.ask_quietly w _ _).bind ?_ ?_)
  · rintro es h ⟨sent, hs, hr⟩
    exact ⟨sent, hs, by rw [outcome, ← hr]⟩
  · rintro es r ⟨sent, hs, hr⟩
    refine .after_say ?_
    split
    · next hok => exact Act.quietly_pure _ ⟨sent, by simpa using hs, by simp [outcome, ← hr, hok]⟩
    · next hok => exact Act.quietly_fail _ ⟨sent, by simpa using hs, by simp [outcome, ← hr, hok]⟩

end Transfer

namespace Store

variable {s : Store} {w : World} {space path : String} {content : Source} {o : UploadOptions}

/-! ## Storing -/

/-- The exchanges of sending content to an open place, with its length, what became of the request and
the items that were taken from the content. -/
structure Transmits (s : Store) (w : World) (url : String) (content : Source) (o : UploadOptions)
    (m : Measured) (es : List Exchange) (sent : Http.Sent) (taken : Stream) : Prop where
  measured : ∃ buffered,
    resolveLength content o.length s.memoryLimit (w.spillFile s.spoolDirectory) =
      (.ok m, buffered) ∧
    taken = if (declaredLength o.length).isSome then sent.taken else buffered
  sending : s.transfer.http.Sending w
    (Transfer.putOrder url m.source.toStream m.length o.checksum) es sent

/-- A call that opens a place for content. -/
abbrev Opens (s : Store) (w : World) (space path : String) (o : UploadOptions) :
    List Exchange → Except Halt Metadata.WriteLocation → Prop :=
  s.metadata.Calling w .createArtifact
    (Metadata.CreateRequest.document ⟨space, path, o.labels, o.expiresAt⟩)
    Metadata.WriteLocation.ofDocument?

/-- A call that seals what has been sent, with its digest. -/
abbrev Seals (s : Store) (w : World) (space path uploadId digest : String) :
    List Exchange → Except Halt Artifact → Prop :=
  s.metadata.Calling w .finalizeArtifact
    (Metadata.FinalizeRequest.document ⟨space, path, uploadId, digestLabels digest⟩)
    Metadata.sealedOfDocument?

/-- The exchanges of storing content, how it ends, and the items that were taken: no place is opened,
the length of the content is not found out, sending it fails, or there is a call to seal it. -/
inductive Storing (s : Store) (w : World) (space path : String) (content : Source)
    (o : UploadOptions) : List Exchange → Consumed ArtifactInfo → Prop where
  | unopened {es : List Exchange} {h : Halt} (opening : s.Opens w space path o es (.error h)) :
      Storing s w space path content o es ⟨.error h, []⟩
  | unmeasured {es : List Exchange} {location : Metadata.WriteLocation} {f : Failure}
      {buffered : Stream} (opening : s.Opens w space path o es (.ok location))
      (measuring : resolveLength content o.length s.memoryLimit
        (w.spillFile s.spoolDirectory) = (.error f, buffered)) :
      Storing s w space path content o es ⟨.error (.failed f), buffered⟩
  | unsent {es fs : List Exchange} {location : Metadata.WriteLocation} {m : Measured}
      {sent : Http.Sent} {taken : Stream} {h : Halt}
      (opening : s.Opens w space path o es (.ok location))
      (transmitting : s.Transmits w location.url content o m fs sent taken)
      (refused : Transfer.outcome "upload" (fun _ => ()) sent = .error h) :
      Storing s w space path content o (es ++ fs) ⟨.error h, taken⟩
  | sent {es fs gs : List Exchange} {location : Metadata.WriteLocation} {m : Measured}
      {sent : Http.Sent} {taken : Stream} {computed : String} {r : Except Halt Artifact}
      (opening : s.Opens w space path o es (.ok location))
      (transmitting : s.Transmits w location.url content o m fs sent taken)
      (accepted : Transfer.outcome "upload" (fun _ => ()) sent = .ok ())
      (digested : computed = (Meter.start.observe sent.taken).hexDigest)
      (sealing : s.Seals w space path location.uploadId computed gs r) :
      Storing s w space path content o (es ++ (fs ++ gs))
        ⟨r.map fun a => ⟨a.createdAt, some (a.digest.getD computed)⟩, taken⟩

/-- What has been sent well is sealed. -/
theorem finish_quietly (s : Store) (w : World) (space path : String)
    (location : Metadata.WriteLocation) (taken : Stream) :
    (s.finish space path location ⟨.ok (), taken⟩).Quietly w fun gs r =>
      ∃ a, s.Seals w space path location.uploadId (Meter.start.observe taken).hexDigest gs a ∧
        r = a.map fun a => ⟨a.createdAt, some (a.digest.getD (Meter.start.observe taken).hexDigest)⟩ := by
  unfold finish
  rw [Act.conclude_ok_bind]
  refine (s.metadata.call_quietly w _ _ _).bind (fun gs h sealing => ?_) fun gs a sealing => ?_
  · exact ⟨.error h, sealing, rfl⟩
  · exact Act.quietly_pure _ ⟨.ok a, by simpa using sealing, rfl⟩

/-- Filling an open place, as it is seen from outside. -/
theorem fill_quietly (s : Store) (w : World) (space path : String) (content : Source)
    (o : UploadOptions) {es : List Exchange} {location : Metadata.WriteLocation}
    (opening : s.Opens w space path o es (.ok location)) :
    (s.fill space path location content o).Quietly w fun fs r =>
      ∃ consumed, r = .ok consumed ∧ s.Storing w space path content o (es ++ fs) consumed := by
  refine .after_look fun j => ?_
  cases hm : resolveLength content o.length s.memoryLimit (w.spillFile s.spoolDirectory) with
  | mk measured buffered =>
    cases measured with
    | error f => exact Act.quietly_pure _ ⟨_, rfl, by simpa using .unmeasured opening hm⟩
    | ok m =>
      -- From here on the end of the transfer decides whether there is a call to seal.
      refine (s.transfer.put_quietly w _ _ _ _).bind_total ?_
      rintro fs consumed ⟨sent, hs, rfl⟩
      have transmitting : s.Transmits w location.url content o m fs sent _ :=
        ⟨⟨buffered, hm, rfl⟩, hs⟩
      cases ho : Transfer.outcome "upload" (fun _ => ()) sent with
      | error h =>
        refine (Act.quietly_conclude (.error h) (P := fun gs r => gs = [] ∧ r = .error h)
          ⟨rfl, rfl⟩).settle.bind_total ?_
        rintro gs r ⟨rfl, rfl⟩
        exact Act.quietly_pure _ ⟨_, rfl, by simpa using .unsent opening transmitting ho⟩
      | ok u =>
        refine (s.finish_quietly w space path location sent.taken).settle.bind_total ?_
        rintro gs r ⟨a, sealing, rfl⟩
        exact Act.quietly_pure _ ⟨_, rfl, by simpa using .sent opening transmitting ho rfl sealing⟩

/-- **Storing content**, as it is seen from outside. -/
theorem consume_quietly (s : Store) (w : World) (space path : String) (content : Source)
    (o : UploadOptions) :
    (s.consume space path content o).Quietly w fun es r =>
      ∃ consumed, r = .ok consumed ∧ s.Storing w space path content o es consumed := by
  refine (s.metadata.call_quietly w _ _ _).settle.bind_total fun es r opening => ?_
  cases r with
  | error h => exact Act.quietly_pure _ ⟨_, rfl, by simpa using .unopened opening⟩
  | ok location => exact s.fill_quietly w space path content o opening

theorem upload_quietly (s : Store) (w : World) (space path : String) (content : Source)
    (o : UploadOptions) :
    (s.upload space path content o).Quietly w fun es r =>
      ∃ consumed, r = consumed.result ∧ s.Storing w space path content o es consumed := by
  refine (s.consume_quietly w space path content o).bind_total fun es consumed storing => ?_
  exact Act.quietly_conclude _ ⟨consumed, rfl, by simpa using storing⟩

/-- What is sent is a complete body, drawn from the content. -/
theorem Transmits.complete {url : String} {m : Measured} {es : List Exchange} {sent : Http.Sent}
    {taken : Stream} (h : s.Transmits w url content o m es sent taken) (hne : es ≠ []) :
    ∃ put rest, es = put :: rest ∧
      (Http.drawItems m.length m.source.toStream).2 = some put.request.body ∧
      sent.taken = (Http.drawItems m.length m.source.toStream).1 := by
  obtain ⟨put, rest, rfl⟩ := List.exists_cons_of_ne_nil hne
  exact ⟨put, rest, rfl, h.sending.head_request.2.2.1, h.sending.taken_eq hne⟩

/-- **Content without a declared length is carried whole** by the request that sends it. -/
theorem Transmits.whole {url : String} {m : Measured} {put : Exchange} {rest : List Exchange}
    {sent : Http.Sent} {taken : Stream} (h : s.Transmits w url content o m (put :: rest) sent taken)
    (hd : declaredLength o.length = none) :
    put.request.body = content.remaining ∧ m.length = content.remaining.length ∧
      sent.taken.bytes = content.remaining ∧ content.toStream.bytes = content.remaining := by
  obtain ⟨put', rest', heq, hbody, htaken⟩ := h.complete (by simp)
  obtain ⟨rfl, rfl⟩ := List.cons.inj heq
  obtain ⟨buffered, hmeasured, -⟩ := h.measured
  obtain ⟨hremaining, hlength⟩ := resolveLength_unknown_ok hd hmeasured
  have hbegins := m.source.toStream_begins
  rw [hremaining] at hbegins
  obtain ⟨hwhole, hdrawn, hcount⟩ := Http.drawItems_all hbody (hlength ▸ hbegins.length_le)
  rw [← hwhole] at hbegins
  have hall := hbegins.eq_of_length (hcount.trans hlength)
  rw [htaken, hdrawn]
  exact ⟨hall, hlength, hall, toStream_of_resolved hd hmeasured (hwhole.symm.trans hall)⟩

/-- What storing takes of a stream comes from its front. -/
theorem Storing.taken_begins {items : Stream} {x : Consumed ArtifactInfo}
    {es : List Exchange} (h : s.Storing w space path (.stream items) o es x) : x.taken <+: items := by
  have transmitted {url : String} {m : Measured} {fs : List Exchange} {sent : Http.Sent}
      {taken : Stream} (transmitting : s.Transmits w url (.stream items) o m fs sent taken) :
      taken <+: items := by
    obtain ⟨buffered, hmeasured, rfl⟩ := transmitting.measured
    cases hd : declaredLength o.length with
    | none =>
      obtain ⟨-, rfl, -⟩ := resolveLength_stream_ok hd hmeasured
      simp
    | some n =>
      obtain ⟨rfl, -⟩ := resolveLength_declared_ok hd hmeasured
      rw [Option.isSome_some, if_pos rfl]
      rcases transmitting.sending.taken_cases with hnone | hdrawn
      · rw [hnone]
        exact List.nil_prefix
      · rw [hdrawn]
        exact Http.draw_taken_prefix n items
  cases h with
  | unopened => exact List.nil_prefix
  | @unmeasured _ _ f buffered _ measuring =>
    cases hd : declaredLength o.length with
    | some n => simp [resolveLength, hd] at measuring
    | none =>
      have buffering := resolveLength_stream hd s.memoryLimit (w.spillFile s.spoolDirectory) items
      rw [measuring] at buffering
      exact buffering.taken_begins
  | unsent _ transmitting | sent _ transmitting => exact transmitted transmitting

/-- Storing makes requests of three kinds. -/
theorem Storing.purpose_eq {es : List Exchange} {x : Consumed ArtifactInfo}
    (h : s.Storing w space path content o es x) :
    ∀ e ∈ es, e.purpose = .call .createArtifact ∨ e.purpose = .upload ∨
      e.purpose = .call .finalizeArtifact := by
  cases h with
  | unopened opening | unmeasured opening => exact fun e he => .inl (opening.purpose_eq e he)
  | unsent opening transmitting =>
    intro e he
    rcases List.mem_append.1 he with he | he
    · exact .inl (opening.purpose_eq e he)
    · exact .inr (.inl (transmitting.sending.purpose_eq e he))
  | sent opening transmitting _ _ sealing =>
    intro e he
    rcases List.mem_append.1 he with he | he
    · exact .inl (opening.purpose_eq e he)
    · rcases List.mem_append.1 he with he | he
      · exact .inr (.inl (transmitting.sending.purpose_eq e he))
      · exact .inr (.inr (sealing.purpose_eq e he))

/-- The requests that open a place and that seal it name it, and the first kind tells its labels and the
end of its life. -/
structure Names (space path : String) (labels : Labels) (expiresAt : Option Time.Instant)
    (es : List Exchange) : Prop where
  opening : ∀ e ∈ es, e.purpose = .call .createArtifact → e.hop = 0 → e.request.method = .post ∧
    e.request.body =
      Bytes.ofText (Metadata.CreateRequest.document ⟨space, path, labels, expiresAt⟩).write
  sealing : ∀ e ∈ es, e.purpose = .call .finalizeArtifact → e.hop = 0 → e.request.method = .post ∧
    ∃ uploadId digest, e.request.body =
      Bytes.ofText (Metadata.FinalizeRequest.document ⟨space, path, uploadId, digestLabels digest⟩).write

theorem Names.append {labels : Labels} {expiresAt : Option Time.Instant} {es fs : List Exchange}
    (h : Names space path labels expiresAt es) (h' : Names space path labels expiresAt fs) :
    Names space path labels expiresAt (es ++ fs) where
  opening := List.forall_mem_append.2 ⟨h.opening, h'.opening⟩
  sealing := List.forall_mem_append.2 ⟨h.sealing, h'.sealing⟩

/-- Requests of other kinds name no place. -/
theorem names_of_purpose {labels : Labels} {expiresAt : Option Time.Instant} {es : List Exchange}
    (h : ∀ e ∈ es, e.purpose ≠ .call .createArtifact ∧ e.purpose ≠ .call .finalizeArtifact) :
    Names space path labels expiresAt es where
  opening := fun e he hp => absurd hp (h e he).1
  sealing := fun e he hp => absurd hp (h e he).2

theorem Opens.names {es : List Exchange} {r : Except Halt Metadata.WriteLocation}
    (h : s.Opens w space path o es r) : Names space path o.labels o.expiresAt es where
  opening := fun e he _ hop => h.documents e he hop
  sealing := fun e he hp => by
    rw [h.purpose_eq e he] at hp
    cases hp

theorem Seals.names {uploadId digest : String} {es : List Exchange} {r : Except Halt Artifact}
    (h : s.Seals w space path uploadId digest es r) : Names space path o.labels o.expiresAt es where
  opening := fun e he hp => by
    rw [h.purpose_eq e he] at hp
    cases hp
  sealing := fun e he _ hop => ⟨(h.documents e he hop).1, uploadId, digest, (h.documents e he hop).2⟩

/-- **Storing names one place.** -/
theorem Storing.names {es : List Exchange} {x : Consumed ArtifactInfo}
    (h : s.Storing w space path content o es x) : Names space path o.labels o.expiresAt es := by
  have transmitted {fs : List Exchange} {url : String} {m : Measured} {sent : Http.Sent}
      {taken : Stream} (h : s.Transmits w url content o m fs sent taken) :
      Names space path o.labels o.expiresAt fs :=
    names_of_purpose fun e he => by simp [h.sending.purpose_eq e he, Transfer.putOrder]
  cases h with
  | unopened opening | unmeasured opening => exact Opens.names opening
  | unsent opening transmitting => exact (Opens.names opening).append (transmitted transmitting)
  | sent opening transmitting _ _ sealing =>
    exact (Opens.names opening).append ((transmitted transmitting).append (Seals.names sealing))

/-- Storing begins with the call that opens a place, and there is no other one. -/
theorem Storing.opened {es : List Exchange} {x : Consumed ArtifactInfo}
    (h : s.Storing w space path content o es x) :
    ∃ opened rest r, es = opened ++ rest ∧ s.Opens w space path o opened r ∧
      ∀ e ∈ rest, e.purpose ≠ .call .createArtifact := by
  cases h with
  | unopened opening | unmeasured opening => exact ⟨es, [], _, by simp, opening, by simp⟩
  | unsent opening transmitting =>
    refine ⟨_, _, _, rfl, opening, fun e he => ?_⟩
    simp [transmitting.sending.purpose_eq e he, Transfer.putOrder]
  | sent opening transmitting _ _ sealing =>
    refine ⟨_, _, _, rfl, opening, fun e he => ?_⟩
    rcases List.mem_append.1 he with he | he
    · simp [transmitting.sending.purpose_eq e he, Transfer.putOrder]
    · simp [sealing.purpose_eq e he]

/-- Content is stored when all three steps have gone well. -/
theorem Storing.ok {es : List Exchange} {info : ArtifactInfo} {taken : Stream}
    (h : s.Storing w space path content o es ⟨.ok info, taken⟩) :
    ∃ opened sending sealing location m sent artifact,
      es = opened ++ (sending ++ sealing) ∧ s.Opens w space path o opened (.ok location) ∧
      s.Transmits w location.url content o m sending sent taken ∧
      Transfer.outcome "upload" (fun _ => ()) sent = .ok () ∧
      s.Seals w space path location.uploadId (Meter.start.observe sent.taken).hexDigest sealing
        (.ok artifact) ∧
      info = ⟨artifact.createdAt,
        some (artifact.digest.getD (Meter.start.observe sent.taken).hexDigest)⟩ := by
  generalize hx : (⟨.ok info, taken⟩ : Consumed ArtifactInfo) = x at h
  cases h with
  | unopened | unmeasured | unsent => cases hx
  | @sent opened sending sealing location m sent _ _ r opening transmitting accepted digested sealing' =>
    obtain ⟨hr, rfl⟩ := Consumed.mk.inj hx
    cases r with
    | error h => cases hr
    | ok artifact =>
      subst digested
      exact ⟨opened, sending, sealing, location, m, sent, artifact, rfl, opening, transmitting, accepted,
        sealing', Except.ok.inj hr⟩

/-! ## Opening -/

/-- A call that opens a place to read from. -/
abbrev Finds (s : Store) (w : World) (space path : String) :
    List Exchange → Except Halt Metadata.ReadLocation → Prop :=
  s.metadata.Calling w .resolveArtifact (Metadata.ResolveRequest.document ⟨space, path⟩)
    Metadata.ReadLocation.ofDocument?

/-- The exchanges of opening content and how it ends: no place is found, or it is read from. -/
inductive Opening (s : Store) (w : World) (space path : String) :
    List Exchange → Except Halt (Stream × ArtifactInfo) → Prop where
  | unfound {es : List Exchange} {h : Halt} (finding : s.Finds w space path es (.error h)) :
      Opening s w space path es (.error h)
  | found {es fs : List Exchange} {location : Metadata.ReadLocation} {sent : Http.Sent}
      (finding : s.Finds w space path es (.ok location))
      (reading : s.transfer.http.Sending w (Transfer.getOrder location.url) fs sent) :
      Opening s w space path (es ++ fs) ((Transfer.outcome "download" Http.Response.body sent).map
        fun body => (body, ⟨location.artifact.createdAt, location.artifact.digest⟩))

/-- Content is looked up, and then read. -/
theorem Opening.parts {es : List Exchange} {r : Except Halt (Stream × ArtifactInfo)}
    (h : s.Opening w space path es r) :
    ∃ found got x, es = found ++ got ∧ s.Finds w space path found x ∧
      ∀ e ∈ got, e.purpose = .download := by
  cases h with
  | unfound finding => exact ⟨es, [], _, by simp, finding, by simp⟩
  | found finding reading => exact ⟨_, _, _, rfl, finding, reading.purpose_eq⟩

/-- Content is opened when its place is found and can be read. -/
theorem Opening.ok {es : List Exchange} {body : Stream} {info : ArtifactInfo}
    (h : s.Opening w space path es (.ok (body, info))) :
    ∃ found got location sent, es = found ++ got ∧ s.Finds w space path found (.ok location) ∧
      s.transfer.http.Sending w (Transfer.getOrder location.url) got sent ∧
      Transfer.outcome "download" Http.Response.body sent = .ok body ∧
      info = ⟨location.artifact.createdAt, location.artifact.digest⟩ := by
  generalize hx : (.ok (body, info) : Except Halt (Stream × ArtifactInfo)) = r at h
  cases h with
  | unfound => cases hx
  | @found found got location sent finding reading =>
    cases ho : Transfer.outcome "download" Http.Response.body sent with
    | error halt => rw [ho] at hx; cases hx
    | ok b =>
      rw [ho] at hx
      obtain ⟨rfl, rfl⟩ := Prod.mk.inj (Except.ok.inj hx)
      exact ⟨found, got, location, sent, rfl, finding, reading, ho, rfl⟩

/-- **Opening content**, as it is seen from outside. -/
theorem resolve_quietly (s : Store) (w : World) (space path : String) :
    (s.resolve space path).Quietly w (s.Opening w space path) := by
  refine (s.metadata.call_quietly w _ _ _).bind (fun es h finding => .unfound finding) ?_
  intro es location finding
  refine (s.transfer.get_quietly w location.url).bind ?_ ?_
  · rintro fs h ⟨sent, reading, hr⟩
    have found := Opening.found finding reading
    rw [← hr] at found
    exact found
  · rintro fs body ⟨sent, reading, hr⟩
    have found := Opening.found finding reading
    rw [← hr] at found
    exact Act.quietly_pure _ (by rw [List.append_nil]; exact found)

end Store

end ContentCache
