import ContentCache.Proofs.Cache.Committing
import ContentCache.Proofs.Failing

/-!
# Who is to blame for a failure

A call blames the origin when the origin gives no answer or none of success, and when its content breaks
off while the store reads it. The error of reading goes before whatever the store has made of it, and
nothing is sealed then; so does the error of writing the spool, which is blamed on nobody but the disk.
Everything else that goes wrong is told as it is, and it is never the origin that is blamed for it.

* `TokenSource.SparesOrigin`: the failures of a token source have nothing to do with an origin.
* `Store.Reads`: storing a broken stream comes to its error.
* `Cache.Blames`: how a call ends that has asked the origin.

Main statements: `copy_blames_origin`, with `Store.Storing.broken` (what storing a broken stream comes to) and
`copy_blames_elsewhere` (what spools and token sources have to do with it).
-/

namespace ContentCache

/-! ## Failures behind the cache -/

/-- A halt that is a failure, and none of the origin. -/
def Halt.SparesOrigin (h : Halt) : Prop := ∃ f, h = .failed f ∧ f.isOrigin = false

/-- The failures of a token source have nothing to do with an origin. -/
def TokenSource.SparesOrigin (t : TokenSource) : Prop :=
  ∀ files asked force f, t.issue files asked force = .error f → f.isOrigin = false

theorem TokenSource.fixed_sparesOrigin (token : String) : (fixed token).SparesOrigin :=
  fixed_fails token

theorem TokenSource.file_sparesOrigin (path : String) : (file path).SparesOrigin :=
  file_fails path fun _ => rfl

/-- Nothing but an origin has failures of an origin. -/
theorem Failure.common_sparesOrigin : Failure.Common (·.isOrigin = false) :=
  ⟨fun _ => rfl, fun _ _ => rfl, fun _ _ => rfl, fun _ => rfl⟩

namespace Store

variable {s : Store} {w : World} {space path : String} {content : Source} {o : UploadOptions}
  {es : List Exchange}

/-! ## Streams that break off -/

/-- Storing a stream comes to its error: a place has been opened for it, and all chunks before it can be
buffered, or it is drawn for a request that reaches a server. -/
def Reads (s : Store) (w : World) (items : Stream) (o : UploadOptions)
    (opening : Except Halt Metadata.WriteLocation) : Prop :=
  ∃ location, opening = .ok location ∧
    match declaredLength o.length with
    | none => Keeps s.memoryLimit (w.spillFile s.spoolDirectory) [] items
    | some n => ∃ d, (Transfer.putOrder location.url items n o.checksum).draft = .ok d ∧
        s.transfer.http.reaches w d.url = true

section

variable {items taken : Stream} {e : IoError} {location : Metadata.WriteLocation}

theorem reads_iff_keeps (hd : declaredLength o.length = none) :
    s.Reads w items o (.ok location) ↔ Keeps s.memoryLimit (w.spillFile s.spoolDirectory) [] items := by
  simp [Reads, hd]

theorem reads_iff_reaches {n : Nat} (hd : declaredLength o.length = some n) :
    s.Reads w items o (.ok location) ↔
      ∃ d, (Transfer.putOrder location.url items n o.checksum).draft = .ok d ∧
        s.transfer.http.reaches w d.url = true := by
  simp [Reads, hd]

/-- A stream that breaks off is sent nowhere. -/
theorem Transmits.broken {m : Measured} {sent : Http.Sent}
    (h : s.Transmits w location.url (.stream items) o m es sent taken) (hw : w.deadline = none)
    (he : items.firstError? = some e)
    (hshort : ∀ n, declaredLength o.length = some n → items.cut.bytes.length < n) :
    es = [] ∧ (∀ r, sent.delivery ≠ .answered r) ∧
      (s.Reads w items o (.ok location) → taken.firstError? = some e) ∧
      (¬ s.Reads w items o (.ok location) → taken.firstError? = none) := by
  obtain ⟨buffered, hmeasured, rfl⟩ := h.measured
  cases hd : declaredLength o.length with
  | none =>
    -- Buffering comes to the error before there is anything to send.
    obtain ⟨hnone, -⟩ := resolveLength_stream_ok hd hmeasured
    rw [hnone] at he
    cases he
  | some n =>
    obtain ⟨rfl, -⟩ := resolveLength_declared_ok hd hmeasured
    have hdraw : (Transfer.putOrder location.url items n o.checksum).payload.draw = (items.cut, none) :=
      Http.drawItems_broken he (hshort n hd)
    obtain ⟨hes, hno, hreads, hunread⟩ := h.sending.incomplete (congrArg Prod.snd hdraw) hw
    rw [Option.isSome_some, if_pos rfl, reads_iff_reaches hd]
    refine ⟨hes, hno, fun hr => ?_, fun hr => ?_⟩
    · rw [hreads hr]
      exact (congrArg Stream.firstError? (congrArg Prod.fst hdraw)).trans
        ((Stream.firstError?_cut items).trans he)
    · rw [hunread hr]
      rfl

/-- The error of a stream that cannot be measured is taken when all chunks before it can be kept. -/
theorem taken_of_unmeasured {f : Failure} (he : items.firstError? = some e)
    (h : resolveLength (.stream items) o.length s.memoryLimit (w.spillFile s.spoolDirectory) =
      (.error f, taken)) :
    (s.Reads w items o (.ok location) → taken.firstError? = some e) ∧
      (¬ s.Reads w items o (.ok location) → taken.firstError? = none) := by
  cases hd : declaredLength o.length with
  | some n => simp [resolveLength, hd] at h
  | none =>
    have buffering := resolveLength_stream hd s.memoryLimit (w.spillFile s.spoolDirectory) items
    rw [h] at buffering
    rw [reads_iff_keeps hd]
    cases buffering with
    | broken _ kept =>
      exact ⟨fun _ => (Stream.firstError?_cut items).trans he, fun hno => absurd kept hno⟩
    | @unkept front data _ begins sound _ unkept =>
      refine ⟨fun kept => absurd unkept (kept front data begins sound f), fun _ => ?_⟩
      exact (Stream.firstError?_append front _).trans (by rw [sound]; rfl)
    | unfinished sound => cases sound.symm.trans he

/-- **Storing a stream that breaks off fails after a place has been opened**, and nothing is sent. The
error of the stream is taken exactly when storing comes to it. -/
theorem Storing.broken {x : Consumed ArtifactInfo}
    (h : s.Storing w space path (.stream items) o es x) (hw : w.deadline = none)
    (he : items.firstError? = some e)
    (hshort : ∀ n, declaredLength o.length = some n → items.cut.bytes.length < n) :
    ∃ opening halt, s.Opens w space path o es opening ∧ x.result = .error halt ∧
      (s.Reads w items o opening → x.taken.firstError? = some e) ∧
      (¬ s.Reads w items o opening → x.taken.firstError? = none) := by
  cases h with
  | @unopened _ halt opening =>
    refine ⟨.error halt, halt, opening, rfl, ?_, fun _ => rfl⟩
    rintro ⟨location, hopened, -⟩
    cases hopened
  | @unmeasured _ location f buffered opening measuring =>
    exact ⟨.ok location, .failed f, opening, rfl, taken_of_unmeasured he measuring⟩
  | @unsent _ _ location _ _ _ halt opening transmitting refused =>
    obtain ⟨rfl, -, hreads⟩ := transmitting.broken hw he hshort
    rw [List.append_nil]
    exact ⟨.ok location, halt, opening, rfl, hreads⟩
  | sent _ transmitting accepted =>
    obtain ⟨-, hno, -⟩ := transmitting.broken hw he hshort
    obtain ⟨r, hanswered, -⟩ := Transfer.outcome_eq_ok accepted
    exact absurd hanswered (hno r)

end

end Store

namespace Cache

variable {c : Cache} {w : World} {source : String} {url : Url} {o : CacheOptions}
  {es : List Exchange} {steps : List CacheEvent} {k : Counters → Counters} {r : Except Halt Copy}

/-! ## Calls -/

/-- The options with which a new copy is stored when the origin has given an answer. -/
abbrev copyOptions (c : Cache) (source : String) (o : CacheOptions) (now : Time.Instant)
    (a : Http.Response) : UploadOptions :=
  c.uploadOptions source o now (a.contentLength.filter (0 < ·))

/-- What becomes of content that has been stored: it is returned, it has the wrong digest, or the spool cannot
be gone back to the start of. -/
def Stored (spool : SpoolFile) (r : Except Halt Copy) : Prop :=
  (∃ x, r = .ok x) ∨ (∃ d actual, r = .error (.failed (.digestMismatch d actual))) ∨
    ∃ e, spool.rewinding = some e ∧ r = .error (.failed e.failure)

/-- How a call ends that has asked the origin, by what has become of the request, with the requests that
follow: there is no answer, it is none of success, there is no spool, or the content is stored by way of
the spool. -/
inductive Blames (c : Cache) (w : World) (source : String) (url : Url) (o : CacheOptions) :
    Http.Sent → List Exchange → Except Halt Copy → Prop where
  | unanswered {sent : Http.Sent} {e : Http.ClientError} (h : sent.delivery = .failed e) :
      Blames c w source url o sent []
        (.error (.failed (.origin none ("GET " ++ url.text ++ " failed: " ++ e.message))))
  | refused {sent : Http.Sent} {a : Http.Response} (h : sent.delivery = .answered a)
      (status : Http.isSuccess a.status = false) :
      Blames c w source url o sent [] (.error (.failed
        (.origin (some a.status) (url.text ++ " returned status " ++ a.status.repr))))
  | unspooled {sent : Http.Sent} {a : Http.Response} {f : Failure} (h : sent.delivery = .answered a)
      (status : Http.isSuccess a.status = true)
      (spooling : w.newSpool c.spoolDirectory = .error f) (io : ∃ detail, f = .io detail) :
      Blames c w source url o sent [] (.error (.failed f))
  /-- The content can be read to its end and written to the spool: how storing it ends is told as it is. -/
  | sound {sent : Http.Sent} {a : Http.Response} {spool : SpoolFile} {storing : List Exchange}
      {r : Except Halt Copy} {now : Time.Instant} {consumed : Consumed ArtifactInfo}
      (h : sent.delivery = .answered a) (status : Http.isSuccess a.status = true)
      (body : a.body.firstError? = none) (spooling : w.newSpool c.spoolDirectory = .ok spool)
      (written : Tee.Writes spool.write [] a.body)
      (stored : c.store.Storing w cacheNamespace (CachePath.ofSource url now) (.stream a.body)
        (c.copyOptions source o now a) storing consumed)
      (own : ∀ h, consumed.result = .error h → r = .error h ∧ h.SparesOrigin)
      (well : ∀ info, consumed.result = .ok info → Stored spool r) :
      Blames c w source url o sent storing r
  /-- The content breaks off: nothing is sent, and so nothing is sealed. It is the origin when storing
  comes to the error, and how storing ends is told as it is otherwise. -/
  | broken {sent : Http.Sent} {a : Http.Response} {spool : SpoolFile} {e : IoError}
      {storing : List Exchange} {r : Except Halt Copy} {now : Time.Instant}
      {consumed : Consumed ArtifactInfo} {opening : Except Halt Metadata.WriteLocation}
      (h : sent.delivery = .answered a) (status : Http.isSuccess a.status = true)
      (body : a.body.firstError? = some e) (spooling : w.newSpool c.spoolDirectory = .ok spool)
      (written : Tee.Writes spool.write [] a.body)
      (stored : c.store.Storing w cacheNamespace (CachePath.ofSource url now) (.stream a.body)
        (c.copyOptions source o now a) storing consumed)
      (opened : c.store.Opens w cacheNamespace (CachePath.ofSource url now)
        (c.copyOptions source o now a) storing opening)
      (origin : c.store.Reads w a.body (c.copyOptions source o now a) opening →
        r = .error (.failed (.origin none ("failed to read origin body: " ++ e.text))))
      (own : ¬ c.store.Reads w a.body (c.copyOptions source o now a) opening →
        ∃ h, consumed.result = .error h ∧ r = .error h ∧ h.SparesOrigin) :
      Blames c w source url o sent storing r
  /-- A chunk cannot be written to the spool, and its error ends the content: nothing is sent, and so nothing
  is sealed. It is the spool when storing comes to the error, and how storing ends is told as it is
  otherwise. -/
  | unwritten {sent : Http.Sent} {a : Http.Response} {spool : SpoolFile} {front : Stream} {data : Bytes}
      {n : Nat} {e : IoError} {storing : List Exchange} {r : Except Halt Copy} {now : Time.Instant}
      {consumed : Consumed ArtifactInfo} {opening : Except Halt Metadata.WriteLocation}
      (h : sent.delivery = .answered a) (status : Http.isSuccess a.status = true)
      (spooling : w.newSpool c.spoolDirectory = .ok spool)
      (begins : front ++ [.chunk data] <+: a.body) (sound : front.firstError? = none)
      (refused : spool.write front.bytes.length data = some (n, e))
      (stored : c.store.Storing w cacheNamespace (CachePath.ofSource url now)
        (.stream (front ++ [.error e])) (c.copyOptions source o now a) storing consumed)
      (opened : c.store.Opens w cacheNamespace (CachePath.ofSource url now)
        (c.copyOptions source o now a) storing opening)
      (io : c.store.Reads w (front ++ [.error e]) (c.copyOptions source o now a) opening →
        r = .error (.failed (.io ("failed to write spool file: " ++ e.text))))
      (own : ¬ c.store.Reads w (front ++ [.error e]) (c.copyOptions source o now a) opening →
        ∃ h, consumed.result = .error h ∧ r = .error h ∧ h.SparesOrigin) :
      Blames c w source url o sent storing r

/-- **In no other way it is the origin**: there is no answer or none of success, or its content breaks
off. -/
theorem Blames.origin_cases {sent : Http.Sent} {storing : List Exchange} {status : Option Nat}
    {message : String}
    (h : c.Blames w source url o sent storing (.error (.failed (.origin status message)))) :
    (∃ e, sent.delivery = .failed e ∧ status = none ∧
        message = "GET " ++ url.text ++ " failed: " ++ e.message) ∨
      (∃ a, sent.delivery = .answered a ∧ Http.isSuccess a.status = false ∧
        status = some a.status ∧ message = url.text ++ " returned status " ++ a.status.repr) ∨
      ∃ a e, sent.delivery = .answered a ∧ Http.isSuccess a.status = true ∧
        a.body.firstError? = some e ∧ status = none ∧
        message = "failed to read origin body: " ++ e.text ∧
        ∀ x ∈ storing, x.purpose = .call .createArtifact := by
  have spared {h : Halt} (hs : h.SparesOrigin)
      (hr : (.error (.failed (.origin status message)) : Except Halt Copy) = .error h) : False := by
    obtain ⟨f, rfl, hf⟩ := hs
    cases hr
    cases hf
  generalize hr : (.error (.failed (.origin status message)) : Except Halt Copy) = r at h
  cases h with
  | unanswered h => cases hr; exact .inl ⟨_, h, rfl, rfl⟩
  | refused h hstatus => cases hr; exact .inr (.inl ⟨_, h, hstatus, rfl, rfl⟩)
  | unspooled _ _ _ io =>
    obtain ⟨detail, rfl⟩ := io
    cases hr
  | @sound _ _ _ _ _ consumed _ _ _ _ _ _ own well =>
    cases hresult : consumed.result with
    | error h => exact (spared (own h hresult).2 (hr.trans (own h hresult).1)).elim
    | ok info =>
      obtain ⟨x, hx⟩ | ⟨d, actual, hx⟩ | ⟨e, -, hx⟩ := well info hresult
      · cases hr.trans hx
      · cases hr.trans hx
      · cases hr.trans hx
  | @broken a _ e _ _ now _ opening h hstatus body _ _ _ opened origin own =>
    by_cases hreads : c.store.Reads w a.body (c.copyOptions source o now a) opening
    · cases hr.trans (origin hreads)
      exact .inr (.inr ⟨a, e, h, hstatus, body, rfl, rfl, opened.purpose_eq⟩)
    · obtain ⟨h, -, hown, hspares⟩ := own hreads
      exact (spared hspares (hr.trans hown)).elim
  | @unwritten a _ front _ _ e _ _ now _ opening _ _ _ _ _ _ _ _ io own =>
    by_cases hreads : c.store.Reads w (front ++ [.error e]) (c.copyOptions source o now a) opening
    · cases hr.trans (io hreads)
    · obtain ⟨h, -, hown, hspares⟩ := own hreads
      exact (spared hspares (hr.trans hown)).elim

/-- A length that is announced is that of the reply. -/
theorem announced_of_declared {reply : Http.Reply} {n : Nat}
    (hn : declaredLength (reply.response.contentLength.filter (0 < ·)) = some n) :
    reply.announced = some n :=
  (Option.filter_eq_some_iff.1 (Option.filter_eq_some_iff.1 hn).1).1

/-- What comes before the end of content has fewer bytes than were announced. -/
theorem front_short {a : Http.Response} {reply : Http.Reply} (ha : a = reply.response) {front : Stream}
    {data : Bytes} (hdata : data ≠ []) (hbegins : front ++ [.chunk data] <+: a.body) {n : Nat}
    (hn : declaredLength (a.contentLength.filter (0 < ·)) = some n) : front.bytes.length < n := by
  subst ha
  obtain ⟨rest, hrest⟩ := hbegins
  obtain ⟨hbytes, -⟩ := Http.items_of_announced (announced_of_declared hn)
  have hbody : Stream.bytes (front ++ (.chunk data :: rest)) = reply.body.take n := by
    rw [← hbytes, ← List.singleton_append, ← List.append_assoc, hrest]
    rfl
  have hcount := congrArg List.length hbody
  have hpositive := List.length_pos_iff.2 hdata
  rw [Stream.bytes_append, Stream.bytes_cons_chunk, List.length_append, List.length_append,
    List.length_take] at hcount
  omega

/-- Content that breaks off has fewer bytes than were announced. -/
theorem items_short {a : Http.Response} {reply : Http.Reply} (ha : a = reply.response) {e : IoError}
    (he : a.body.firstError? = some e) {n : Nat}
    (hn : declaredLength (a.contentLength.filter (0 < ·)) = some n) : a.body.cut.bytes.length < n := by
  subst ha
  obtain ⟨hbytes, hnone | hlt⟩ := Http.items_of_announced (announced_of_declared hn)
  · have he : reply.items.firstError? = some e := he
    rw [hnone] at he
    cases he
  · show reply.items.cut.bytes.length < n
    rw [Http.cut_items, hbytes, List.length_take]
    omega

/-- Content that has been stored, when no error was among the items that were taken. -/
theorem stored_of_settled {path : String} {spool : SpoolFile} {blame : IoError → Failure}
    {taken : Stream} {info : ArtifactInfo} (hb : taken.firstError? = none) :
    Stored spool (settled o path spool blame ⟨.ok info, taken⟩) := by
  rw [settled_of_ok hb]
  cases hd : checkDigest (expected o) info with
  | error f =>
    obtain ⟨d, -, -, rfl⟩ := checkDigest_eq_error hd
    exact .inr (.inl ⟨d, _, rfl⟩)
  | ok u =>
    cases hw : spool.rewinding with
    | none => exact .inl ⟨_, rfl⟩
    | some e => exact .inr (.inr ⟨e, hw, rfl⟩)

/-- An error that has come out of a tee goes before what has been made of it, unless that was the origin. -/
theorem settled_of_spared {path : String} {spool : SpoolFile} {blame : IoError → Failure} {taken : Stream}
    {e : IoError} {halt : Halt} (he : taken.firstError? = some e) (hs : halt.SparesOrigin) :
    settled o path spool blame ⟨.error halt, taken⟩ = .error (.failed (blame e)) := by
  refine settled_of_broken he ?_
  obtain ⟨f, rfl, -⟩ := hs
  simp

/-! ### What is blamed -/

section

variable {fetched storing : List Exchange} {sent : Http.Sent}

/-- Without an answer of success the origin is blamed. -/
theorem blames_of_unfetched {halt : Halt} (hw : w.deadline = none)
    (fetching : c.origin.http.Sending w (Origin.order url.text) fetched sent)
    (failed : Origin.outcome url.text sent = .error halt) :
    c.Blames w source url o sent [] (.error halt) := by
  unfold Origin.outcome Http.Sent.response at failed
  cases hd : sent.delivery with
  | interrupted => exact absurd hd (fetching.not_interrupted hw)
  | failed e =>
    simp only [hd, Except.error.injEq] at failed
    rw [← failed]
    exact .unanswered hd
  | answered a =>
    simp only [hd, Origin.accept] at failed
    cases hstatus : Http.isSuccess a.status with
    | true =>
      rw [hstatus, if_pos rfl] at failed
      cases failed
    | false =>
      rw [hstatus, if_neg (by simp)] at failed
      cases failed
      exact .refused hd hstatus

variable {a : Http.Response} {reply : Http.Reply} {now : Time.Instant} {spool : SpoolFile}
  {result : Except Halt ArtifactInfo} {taken : Stream}

/-- Content that is written to the spool up to its first error: that lies with the origin. -/
theorem blames_of_written (hw : w.deadline = none) (ht : c.store.metadata.tokens.SparesOrigin)
    (hd : sent.delivery = .answered a) (hstatus : Http.isSuccess a.status = true)
    (ha : a = reply.response) (spooling : w.newSpool c.spoolDirectory = .ok spool)
    (written : Tee.Writes spool.write [] a.body)
    (stored : c.store.Storing w cacheNamespace (CachePath.ofSource url now) (.stream a.body.cut)
      (c.copyOptions source o now a) storing ⟨result, taken⟩) :
    c.Blames w source url o sent storing
      (settled o (CachePath.ofSource url now) spool Tee.failureOf ⟨result, taken⟩) := by
  have hcut : a.body.cut = a.body := by rw [ha]; exact Http.cut_items reply
  rw [hcut] at stored
  have spares {halt : Halt} (hr : result = .error halt) : halt.SparesOrigin := by
    subst hr
    exact (stored.fails Failure.common_sparesOrigin ht).failed hw
  cases hbody : a.body.firstError? with
  | none =>
    have hb := Stream.firstError?_of_begins stored.taken_begins hbody
    refine .sound hd hstatus hbody spooling written stored ?_ ?_
    · rintro halt rfl
      exact ⟨settled_of_error hb, spares rfl⟩
    · rintro info rfl
      exact stored_of_settled hb
  | some e =>
    obtain ⟨opening, halt, opened, rfl, hreads, hunread⟩ :=
      stored.broken hw hbody fun n => items_short ha hbody
    refine .broken hd hstatus hbody spooling written stored opened (fun hr => ?_) fun hr => ?_
    · exact settled_of_spared (hreads hr) (spares rfl)
    · exact ⟨halt, rfl, settled_of_error (hunread hr), spares rfl⟩

/-- Content with a chunk that cannot be written to the spool: that lies with the spool. -/
theorem blames_of_unwritten (hw : w.deadline = none) (ht : c.store.metadata.tokens.SparesOrigin)
    (hd : sent.delivery = .answered a) (hstatus : Http.isSuccess a.status = true)
    (ha : a = reply.response) (spooling : w.newSpool c.spoolDirectory = .ok spool) {front : Stream}
    {data : Bytes} {n : Nat} {e : IoError} (begins : front ++ [.chunk data] <+: a.body)
    (sound : front.firstError? = none) (refused : spool.write front.bytes.length data = some (n, e))
    (stored : c.store.Storing w cacheNamespace (CachePath.ofSource url now)
      (.stream (front ++ [.error e])) (c.copyOptions source o now a) storing ⟨result, taken⟩) :
    c.Blames w source url o sent storing
      (settled o (CachePath.ofSource url now) spool Tee.spoolFailureOf ⟨result, taken⟩) := by
  have hdata : data ≠ [] := by
    rintro rfl
    cases (spool.write.nothing _).symm.trans refused
  have hfirst : Stream.firstError? (front ++ [.error e]) = some e := by
    rw [Stream.firstError?_append, sound]
    rfl
  have hbytes : Stream.bytes (Stream.cut (front ++ [.error e])) = front.bytes := by
    rw [Stream.cut_append sound, Stream.bytes_append]
    exact List.append_nil _
  obtain ⟨opening, halt, opened, rfl, hreads, hunread⟩ := stored.broken hw hfirst fun n hn => by
    rw [hbytes]
    exact front_short ha hdata begins hn
  have spares : halt.SparesOrigin := (stored.fails Failure.common_sparesOrigin ht).failed hw
  refine .unwritten hd hstatus spooling begins sound refused stored opened (fun hr => ?_) fun hr => ?_
  · exact settled_of_spared (hreads hr) spares
  · exact ⟨halt, rfl, settled_of_error (hunread hr), spares⟩

end

/-- A call that asks the origin blames it as it should. -/
theorem Populating.blames (h : c.Populating w source url o es steps k r) (hw : w.deadline = none)
    (ht : c.store.metadata.tokens.SparesOrigin) :
    ∃ fetched storing sent, es = fetched ++ storing ∧
      c.origin.http.Sending w (Origin.order url.text) fetched sent ∧
      c.Blames w source url o sent storing r := by
  cases h with
  | @unfetched _ sent halt fetching failed =>
    exact ⟨es, [], sent, by simp, fetching, blames_of_unfetched hw fetching failed⟩
  | @unspooled _ sent _ _ fetching fetched spooling =>
    obtain ⟨a, hd, hstatus, -⟩ := Origin.outcome_eq_ok fetched
    exact ⟨es, [], sent, by simp, fetching, .unspooled hd hstatus spooling (World.newSpool_io spooling)⟩
  | @stored fetched storing sent content now path spool items blame consumed fetching fetched' spooling
      passing named stored =>
    subst named
    obtain ⟨a, hd, hstatus, rfl⟩ := Origin.outcome_eq_ok fetched'
    obtain ⟨-, -, reply, -, -, ha⟩ := fetching.answered_last hd
    refine ⟨fetched, storing, sent, rfl, fetching, ?_⟩
    cases passing with
    | whole written => exact blames_of_written hw ht hd hstatus ha spooling written stored
    | refused begins sound _ refused =>
      exact blames_of_unwritten hw ht hd hstatus ha spooling begins sound refused stored

/-- A call asks the origin in the end, or ends before without a word of it. -/
theorem Looking.blames (h : c.Looking w source url o es steps k r) (hw : w.deadline = none)
    (ht : c.store.metadata.tokens.SparesOrigin) :
    ∃ before fetched storing, es = before ++ (fetched ++ storing) ∧
      (∀ e ∈ before, e.purpose = .call .listArtifacts ∨ e.purpose = .call .resolveArtifact ∨
        e.purpose = .download) ∧
      ((fetched = [] ∧ storing = [] ∧ ∀ halt, r = .error halt → halt.SparesOrigin) ∨
        ∃ sent, c.origin.http.Sending w (Origin.order url.text) fetched sent ∧
          c.Blames w source url o sent storing r) := by
  cases h with
  | unlisted listing =>
    refine ⟨es, [], [], by simp, fun e he => .inl (listing.purpose_eq e he), .inl ⟨rfl, rfl, ?_⟩⟩
    rintro halt hr
    cases hr
    exact (listing.fails Failure.common_sparesOrigin ht).failed hw
  | @listed asked rest _ _ _ _ listing proceeding =>
    cases proceeding with
    | hit _ _ serving =>
      refine ⟨asked ++ rest, [], [], by simp, fun e he => ?_, .inl ⟨rfl, rfl, fun halt hr => ?_⟩⟩
      · rcases List.mem_append.1 he with he | he
        · exact .inl (listing.purpose_eq e he)
        · exact .inr (serving.purpose_eq e he)
      · cases serving with
        | served => cases hr
        | unopened opening =>
          cases hr
          exact (opening.fails Failure.common_sparesOrigin ht).failed hw
    | missing _ populating | stale _ _ _ populating =>
      obtain ⟨fetched, storing, sent, rfl, fetching, blames⟩ := populating.blames hw ht
      exact ⟨asked, fetched, storing, rfl, fun e he => .inl (listing.purpose_eq e he),
        .inr ⟨sent, fetching, blames⟩⟩

/-- **A call blames the origin for what goes wrong there, and for nothing else**: when it gives no answer
or none of success, and when its content breaks off while it is stored. A spool that cannot be written to is
told of in place of what becomes of storing then, and is not blamed on the origin either. -/
theorem copy_blames_origin {j k : Journal} (hs : readSource source = .ok url) (ho : o.timeout = none)
    (hw : w.deadline = none) (ht : c.store.metadata.tokens.SparesOrigin)
    (h : c.copy source o w j = (r, k)) :
    ∃ before fetched storing, k.exchanges = j.exchanges ++ (before ++ (fetched ++ storing)) ∧
      (∀ e ∈ before, e.purpose = .call .listArtifacts ∨ e.purpose = .call .resolveArtifact ∨
        e.purpose = .download) ∧
      ((fetched = [] ∧ storing = [] ∧ ∀ halt, r = .error halt → halt.SparesOrigin) ∨
        ∃ sent, c.origin.http.Sending w (Origin.order url.text) fetched sent ∧
          c.Blames w source url o sent storing r ∧
          ∀ status message, r = .error (.failed (.origin status message)) →
            (∃ e, sent.delivery = .failed e ∧ status = none ∧
              message = "GET " ++ url.text ++ " failed: " ++ e.message) ∨
            (∃ a, sent.delivery = .answered a ∧ Http.isSuccess a.status = false ∧
              status = some a.status ∧ message = url.text ++ " returned status " ++ a.status.repr) ∨
            ∃ a e, sent.delivery = .answered a ∧ Http.isSuccess a.status = true ∧
              a.body.firstError? = some e ∧ status = none ∧
              message = "failed to read origin body: " ++ e.text ∧
              ∀ x ∈ storing, x.purpose = .call .createArtifact) := by
  rw [copy_apply hs, ho] at h
  obtain ⟨hr, rfl⟩ := Prod.mk.inj h
  obtain ⟨n, hg, -, steps, -, looking⟩ := c.lookup_openly w source url o (begun j)
  obtain ⟨before, fetched, storing, hes, hbefore, hcases⟩ := looking.blames hw ht
  have hr : (c.lookup source url o w (begun j)).1 = r := hr
  rw [hr] at hcases
  refine ⟨before, fetched, storing, by rw [← hes]; exact hg.exchanges, hbefore, ?_⟩
  obtain hnot | ⟨sent, fetching, blames⟩ := hcases
  · exact .inl hnot
  · refine .inr ⟨sent, fetching, blames, ?_⟩
    rintro status message rfl
    exact blames.origin_cases

/-! ## A run -/

/-- A place is opened for whatever is stored. -/
def openingAnswer : Http.Answer :=
  said "\x7b\"signedUploadUrl\":\"http://s/?k\",\"uploadId\":\"u\"\x7d"

/-- Nothing is listed, the origin gives fewer bytes than it has announced, and a place is opened. -/
def truncatedWorld : World where
  server := .ofAnswers [said "\x7b\x7d",
    .reply .zero { pieces := [[104, 105, 33]], framing := .length (some 9) },
    openingAnswer]

set_option maxRecDepth 10000 in
/-- Content that breaks off is a failure of the origin, and nothing is sent. -/
theorem copy_blames_truncated :
    ∃ (a : Http.Response) (e : IoError) (storing : List Exchange),
      (usual.copy "http://o/" {} truncatedWorld {}).1 =
        .error (.failed (.origin none "failed to read origin body: error decoding response body")) ∧
      Http.isSuccess a.status = true ∧ a.body.firstError? = some e ∧
      "failed to read origin body: error decoding response body" =
        "failed to read origin body: " ++ e.text ∧
      storing <:+ (usual.copy "http://o/" {} truncatedWorld {}).2.exchanges ∧
      ∀ x ∈ storing, x.purpose = .call .createArtifact := by
  have hs : (readSource "http://o/").toOption.isSome = true := by decide +kernel
  obtain ⟨url, hs⟩ := Option.isSome_iff_exists.1 hs
  have hr : haltOf (usual.copy "http://o/" {} truncatedWorld {}).1 =
      some (.failed (.origin none "failed to read origin body: error decoding response body")) := by
    decide +kernel
  have hr := eq_error_of_haltOf hr
  generalize hwork : usual.copy "http://o/" {} truncatedWorld {} = work at hr ⊢
  obtain ⟨r, k⟩ := work
  obtain rfl := hr
  obtain ⟨before, fetched, storing, hes, -, ⟨-, -, hspares⟩ | ⟨sent, -, -, hcases⟩⟩ :=
    copy_blames_origin (eq_ok_of_toOption hs) rfl rfl (TokenSource.fixed_sparesOrigin "t") hwork
  · obtain ⟨f, hf, hspares⟩ := hspares _ rfl
    cases hf
    cases hspares
  · obtain ⟨e, -, -, hmessage⟩ | ⟨a, -, -, hnone, -⟩ | ⟨a, e, -, hstatus, he, -, hmessage, hstoring⟩ :=
      hcases _ _ rfl
    · have hletters := congrArg String.toList hmessage
      simp at hletters
    · cases hnone
    · exact ⟨a, e, storing, rfl, hstatus, he, hmessage, ⟨before ++ fetched, by simp [hes]⟩, hstoring⟩

/-! ## A spool that cannot be written to -/

/-- Nothing is listed, the origin gives its content in chunks, and there is no room for it in the spool. -/
def unwrittenWorld : World where
  server := .ofAnswers [said "\x7b\x7d",
    .reply .zero { pieces := [[104], [105, 33]], framing := .chunked false }, openingAnswer]
  spool := .ok .full

set_option maxRecDepth 10000 in
/-- **A spool that cannot be written to goes before what the store has made of it**: the origin has given
all of its content, and storing what has come out of the tee fails in other words than the call does. And
a token source can fail in the words of an origin before there is any request. -/
theorem copy_blames_elsewhere :
    haltOf (usual.copy "http://o/" {} unwrittenWorld {}).1 = some (.failed (.io
        "failed to write spool file: No space left on device (os error 28)")) ∧
      haltOf (usual.store.upload cacheNamespace "o/19700101T000000.000000000Z/index"
        (.stream (TeeStream.through SpoolFile.full.write [.chunk [104], .chunk [105, 33]]).items)
        (usual.uploadOptions "http://o/" {} .epoch none) { server := .ofAnswers [openingAnswer] } {}).1 =
          some (.failed (.io "No space left on device (os error 28)")) ∧
      haltOf (tokenless.copy "http://o/" {} unwrittenWorld {}).1 =
        some (.failed (.origin none "no token")) := by
  refine ⟨?_, ?_, ?_⟩ <;> decide +kernel

end Cache

end ContentCache
