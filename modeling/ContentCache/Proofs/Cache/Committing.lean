import ContentCache.Proofs.Cache.Copying
import ContentCache.Proofs.Content

/-!
# When content is sealed

Content that has been sent to the object store is sealed when the answer is one of success. The answer
is the reply to the request that carried the content, unless that reply leads elsewhere: then it is the
reply to the last request for content that followed, and the object store may never have accepted
anything.

* `Decided`: what the replies of the object store have to do with the sealing and with the end.

Main statements: `sealed_only_if_accepted`, and `sealed_after_redirect` (a reply that leads elsewhere is
no refusal).
-/

namespace ContentCache

variable {α β : Type}

/-- What the replies of the object store have to do with the sealing and with the end. -/
structure Decided (c : Http.Client) (w : World) (order : Http.Order)
    (opened sent closed : List Exchange) (r : Except Halt α) : Prop where
  opening : ∀ e ∈ opened, e.purpose = .call .createArtifact
  sending : ∀ e ∈ sent, e.purpose = .upload
  sealing : ∀ e ∈ closed, e.purpose = .call .finalizeArtifact
  /-- The first request is the one of the order, which puts the content. -/
  put : ∀ put rest, sent = put :: rest → put.request.method = .put ∧
    ∃ d, order.draft = .ok d ∧ c.Sends w .upload 0 d put
  unsent : sent = [] → closed = []
  /-- Without a reply nothing is sealed. -/
  unanswered : ∀ put rest, sent = put :: rest → c.reply? w put = none →
    closed = [] ∧ ∃ h, r = .error h
  /-- A reply that leads nowhere else and is none of success is the end. -/
  refused : ∀ put rest reply, sent = put :: rest → c.reply? w put = some reply →
    ¬ c.goesOn order reply → Http.isSuccess reply.status = false →
    rest = [] ∧ closed = [] ∧
      r = .error (.failed (Failure.transferStatusFailure "upload" reply.status))
  /-- A reply that leads elsewhere leaves it to the last reply. -/
  redirected : ∀ put rest reply, sent = put :: rest → c.reply? w put = some reply →
    c.goesOn order reply → Http.isMove c.keepsMethod .put reply.status = true ∧
      reply.location.isSome = true ∧
      (closed ≠ [] → ∃ front last reply', rest = front ++ [last] ∧ last.request.method = .get ∧
        c.reply? w last = some reply' ∧ Http.isSuccess reply'.status = true)

namespace Decided

variable {c : Http.Client} {w : World} {order : Http.Order} {opened sent closed : List Exchange}
  {r : Except Halt α}

/-- Nothing is sent, and nothing is sealed. -/
theorem of_unsent (opening : ∀ e ∈ opened, e.purpose = .call .createArtifact) :
    Decided c w order opened [] [] r where
  opening := opening
  sending := by simp
  sealing := by simp
  put := by simp
  unsent := by simp
  unanswered := by simp
  refused := by simp
  redirected := by simp

/-- Content is sent, and a transfer that does not go well is the end. -/
theorem of_sending {url : String} {body : Stream} {length : Nat} {checksum : Option String}
    {delivery : Http.Sent} (opening : ∀ e ∈ opened, e.purpose = .call .createArtifact)
    (sending : c.Sending w (Transfer.putOrder url body length checksum) sent delivery)
    (sealing : ∀ e ∈ closed, e.purpose = .call .finalizeArtifact)
    (hend : ∀ h, Transfer.outcome "upload" (fun _ => ()) delivery = .error h →
      closed = [] ∧ r = .error h) :
    Decided c w (Transfer.putOrder url body length checksum) opened sent closed r where
  opening := opening
  sending := sending.purpose_eq
  sealing := sealing
  put := by
    rintro put rest rfl
    exact ⟨sending.head_request.2.1, sending.head_sends⟩
  unsent := by
    rintro rfl
    cases ho : Transfer.outcome "upload" (fun _ => ()) delivery with
    | error h => exact (hend h ho).1
    | ok u =>
      obtain ⟨resp, hanswered, -⟩ := Transfer.outcome_eq_ok ho
      obtain ⟨front, last, -, hnil, -⟩ := sending.answered_last hanswered
      simp at hnil
  unanswered := by
    rintro put rest rfl hnone
    obtain ⟨-, -, hno⟩ | ⟨reply, hsome, -⟩ := sending.head_delivery
    · obtain ⟨h, ho⟩ := Transfer.outcome_of_unanswered hno
      exact ⟨(hend h ho).1, h, (hend h ho).2⟩
    · rw [hnone] at hsome
      cases hsome
  refused := by
    rintro put rest reply rfl hreply hstays hstatus
    obtain ⟨hnone, -⟩ | ⟨reply', hsome, hanswer, -⟩ := sending.head_delivery
    · rw [hreply] at hnone
      cases hnone
    · obtain rfl := Option.some.inj (hreply.symm.trans hsome)
      obtain ⟨hrest, hanswered⟩ := hanswer hstays
      exact ⟨hrest, hend _ (Transfer.outcome_of_refused hanswered hstatus)⟩
  redirected := by
    rintro put rest reply rfl hreply hgoes
    obtain ⟨hmove, hlocation⟩ := Http.Client.isMove_of_goesOn hgoes rfl
    refine ⟨hmove, hlocation, fun hclosed => ?_⟩
    cases ho : Transfer.outcome "upload" (fun _ => ()) delivery with
    | error h => exact absurd (hend h ho).1 hclosed
    | ok u =>
      obtain ⟨resp, hanswered, hsuccess, -⟩ := Transfer.outcome_eq_ok ho
      obtain ⟨-, -, hno⟩ | ⟨reply', hsome, -, hlast⟩ := sending.head_delivery
      · exact absurd hanswered (hno resp)
      · obtain rfl := Option.some.inj (hreply.symm.trans hsome)
        obtain ⟨front, last, reply', rfl, hr, rfl⟩ := hlast resp hgoes hanswered
        exact ⟨front, last, reply', rfl, sending.tail_get rfl last (by simp), hr, hsuccess⟩

/-- The end may be told in another way, as long as a refusal stays what it is. -/
theorem congr {x : Except Halt β} (h : Decided c w order opened sent closed r)
    (hx : sent ≠ [] → (∀ f, r = .error (.failed f) → x = .error (.failed f)) ∧
      ∀ halt, r = .error halt → ∃ halt', x = .error halt') :
    Decided c w order opened sent closed x where
  opening := h.opening
  sending := h.sending
  sealing := h.sealing
  put := h.put
  unsent := h.unsent
  unanswered := by
    rintro put rest hsent hnone
    obtain ⟨hclosed, halt, hr⟩ := h.unanswered put rest hsent hnone
    exact ⟨hclosed, (hx (by simp [hsent])).2 halt hr⟩
  refused := by
    rintro put rest reply hsent hreply hstays hstatus
    obtain ⟨hrest, hclosed, hr⟩ := h.refused put rest reply hsent hreply hstays hstatus
    exact ⟨hrest, hclosed, (hx (by simp [hsent])).1 _ hr⟩
  redirected := h.redirected

/-- **What is sealed has been accepted**: the request that carries the content has got a reply, which is
one of success or leads elsewhere. -/
theorem accepted (h : Decided c w order opened sent closed r) (hclosed : closed ≠ []) :
    ∃ put rest reply, sent = put :: rest ∧ c.reply? w put = some reply ∧
      (Http.isSuccess reply.status = true ∨ c.goesOn order reply) := by
  cases sent with
  | nil => exact absurd (h.unsent rfl) hclosed
  | cons put rest =>
    cases hreply : c.reply? w put with
    | none => exact absurd (h.unanswered put rest rfl hreply).1 hclosed
    | some reply =>
      refine ⟨put, rest, reply, rfl, hreply, ?_⟩
      by_cases hgoes : c.goesOn order reply
      · exact .inr hgoes
      · cases hstatus : Http.isSuccess reply.status with
        | true => exact .inl rfl
        | false => exact absurd (h.refused put rest reply rfl hreply hgoes hstatus).2.1 hclosed

end Decided

namespace Store

variable {s : Store} {w : World} {space path : String} {content : Source} {o : UploadOptions}
  {es : List Exchange}

/-- When a stream has been sent, no error was among the items that were taken of it. -/
theorem Transmits.unbroken {items : Stream} {url : String} {m : Measured} {sent : Http.Sent}
    {taken : Stream} (h : s.Transmits w url (.stream items) o m es sent taken) (hne : es ≠ []) :
    taken.firstError? = none := by
  obtain ⟨put, rest, -, hbody, htaken⟩ := h.complete hne
  obtain ⟨buffered, hmeasured, rfl⟩ := h.measured
  cases hd : declaredLength o.length with
  | some n =>
    rw [Option.isSome_some, if_pos rfl, htaken]
    exact Http.drawItems_complete hbody
  | none =>
    obtain ⟨herror, rfl, -⟩ := resolveLength_stream_ok hd hmeasured
    simpa using herror

/-- **Storing is decided by the replies of the object store.** When a stream has been sent, no error was
among the items that were taken of it. -/
theorem Storing.decided {x : Consumed ArtifactInfo} (h : s.Storing w space path content o es x) :
    ∃ order opened sent closed, es = opened ++ (sent ++ closed) ∧
      Decided s.transfer.http w order opened sent closed x.result ∧
      ∀ items, content = .stream items → sent ≠ [] → x.taken.firstError? = none := by
  cases h with
  | unopened opening | unmeasured opening =>
    exact ⟨Transfer.putOrder "" [] 0 none, es, [], [], by simp, .of_unsent opening.purpose_eq,
      fun _ _ h => absurd rfl h⟩
  | @unsent opened sent _ _ _ _ halt opening transmitting refused =>
    refine ⟨_, opened, sent, [], by simp,
      .of_sending opening.purpose_eq transmitting.sending (by simp) ?_, ?_⟩
    · rintro h hr
      rw [refused] at hr
      cases hr
      exact ⟨rfl, rfl⟩
    · rintro items rfl hne
      exact transmitting.unbroken hne
  | @sent opened sent closed _ _ _ _ _ _ opening transmitting accepted _ sealing =>
    refine ⟨_, opened, sent, closed, rfl,
      .of_sending opening.purpose_eq transmitting.sending sealing.purpose_eq ?_, ?_⟩
    · rintro h hr
      rw [accepted] at hr
      cases hr
    · rintro items rfl hne
      exact transmitting.unbroken hne

end Store

namespace Cache

variable {c : Cache} {w : World} {source : String} {url : Url} {o : CacheOptions}
  {es : List Exchange} {steps : List CacheEvent} {k : Counters → Counters} {r : Except Halt Copy}

theorem Populating.decided (h : c.Populating w source url o es steps k r) :
    ∃ order fetched opened sent closed, es = fetched ++ (opened ++ (sent ++ closed)) ∧
      (∀ e ∈ fetched, e.purpose = .origin) ∧
      Decided c.store.transfer.http w order opened sent closed r := by
  cases h with
  | unfetched fetching | unspooled fetching =>
    exact ⟨Transfer.putOrder "" [] 0 none, es, [], [], [], by simp, fetching.purpose_eq,
      .of_unsent (by simp)⟩
  | @stored fetched storing _ _ _ _ _ _ _ consumed fetching _ _ _ _ storing' =>
    obtain ⟨order, opened, sent, closed, rfl, decided, hunbroken⟩ := storing'.decided
    refine ⟨order, fetched, opened, sent, closed, rfl, fetching.purpose_eq, decided.congr fun hne => ?_⟩
    -- An error behind the tee would hide that of the store, but none was taken before the content went.
    have hb := hunbroken _ rfl hne
    obtain ⟨result, taken⟩ := consumed
    constructor
    · rintro f rfl
      exact settled_of_error hb
    · rintro halt rfl
      exact ⟨halt, settled_of_error hb⟩

/-- What comes before storing sends no content and seals none. -/
theorem Looking.decided (h : c.Looking w source url o es steps k r) :
    ∃ order before opened sent closed, es = before ++ (opened ++ (sent ++ closed)) ∧
      (∀ e ∈ before, e.purpose ≠ .upload ∧ e.purpose ≠ .call .finalizeArtifact) ∧
      Decided c.store.transfer.http w order opened sent closed r := by
  cases h with
  | unlisted listing =>
    refine ⟨Transfer.putOrder "" [] 0 none, es, [], [], [], by simp, ?_, .of_unsent (by simp)⟩
    intro e he
    simp [listing.purpose_eq e he]
  | @listed asked rest _ _ _ _ listing proceeding =>
    have hasked : ∀ e ∈ asked, e.purpose ≠ .upload ∧ e.purpose ≠ .call .finalizeArtifact := by
      intro e he
      simp [listing.purpose_eq e he]
    cases proceeding with
    | hit _ _ serving =>
      refine ⟨Transfer.putOrder "" [] 0 none, asked ++ rest, [], [], [], by simp, ?_, .of_unsent (by simp)⟩
      intro e he
      rcases List.mem_append.1 he with he | he
      · exact hasked e he
      · rcases serving.purpose_eq e he with hp | hp <;> simp [hp]
    | missing _ populating | stale _ _ _ populating =>
      obtain ⟨order, fetched, opened, sent, closed, rfl, hfetched, decided⟩ := populating.decided
      refine ⟨order, asked ++ fetched, opened, sent, closed, by simp, ?_, decided⟩
      intro e he
      rcases List.mem_append.1 he with he | he
      · exact hasked e he
      · simp [hfetched e he]

/-- A call as a whole, with its limit of time. -/
theorem copy_decided (c : Cache) (source : String) (o : CacheOptions) (w : World) (j : Journal) :
    ∃ order before opened sent closed,
      (c.copy source o w j).2.exchanges = j.exchanges ++ (before ++ (opened ++ (sent ++ closed))) ∧
      (∀ e ∈ before, e.purpose ≠ .upload ∧ e.purpose ≠ .call .finalizeArtifact) ∧
      Decided c.store.transfer.http (limited o.timeout w j) order opened sent closed
        (c.copy source o w j).1 := by
  cases hs : readSource source with
  | error f =>
    rw [copy_of_invalid hs]
    exact ⟨Transfer.putOrder "" [] 0 none, [], [], [], [], by simp, by simp, .of_unsent (by simp)⟩
  | ok url =>
    obtain ⟨n, hg, -, steps, -, looking⟩ := c.lookup_openly (limited o.timeout w j) source url o (begun j)
    obtain ⟨order, before, opened, sent, closed, hes, hbefore, decided⟩ := looking.decided
    rw [copy_apply hs]
    refine ⟨order, before, opened, sent, closed, by rw [← hes]; exact hg.exchanges, hbefore,
      decided.congr fun _ => ⟨fun f hf => ?_, fun halt hf => ?_⟩⟩
    · rw [concluded, hf, overtaken_failed]
    · rw [concluded, hf]
      exact overtaken_error _ _

end Cache

/-- **Content is sealed when the object store accepts it**, for an upload and for a call of the cache:
the reply to the request that carries the content is one of success, or it leads elsewhere. A reply that
leads nowhere else and is none of success is the end, with its status. -/
theorem sealed_only_if_accepted (c : Cache) (w : World) (j : Journal) (space path : String)
    (content : Source) (u : UploadOptions) (source : String) (o : CacheOptions) :
    (∃ order opened sent closed,
      (c.store.upload space path content u w j).2.exchanges =
        j.exchanges ++ (opened ++ (sent ++ closed)) ∧
      Decided c.store.transfer.http w order opened sent closed
        (c.store.upload space path content u w j).1 ∧
      (closed ≠ [] → ∃ put rest reply, sent = put :: rest ∧
        c.store.transfer.http.reply? w put = some reply ∧
        (Http.isSuccess reply.status = true ∨ c.store.transfer.http.goesOn order reply))) ∧
    ∃ order before opened sent closed,
      (c.copy source o w j).2.exchanges = j.exchanges ++ (before ++ (opened ++ (sent ++ closed))) ∧
      (∀ e ∈ before, e.purpose ≠ .upload ∧ e.purpose ≠ .call .finalizeArtifact) ∧
      Decided c.store.transfer.http (Cache.limited o.timeout w j) order opened sent closed
        (c.copy source o w j).1 ∧
      (closed ≠ [] → ∃ put rest reply, sent = put :: rest ∧
        c.store.transfer.http.reply? (Cache.limited o.timeout w j) put = some reply ∧
        (Http.isSuccess reply.status = true ∨ c.store.transfer.http.goesOn order reply)) := by
  constructor
  · obtain ⟨n, hg, -, consumed, hr, storing⟩ := c.store.upload_quietly w space path content u j
    obtain ⟨order, opened, sent, closed, hes, decided, -⟩ := storing.decided
    rw [← hr] at decided
    exact ⟨order, opened, sent, closed, by rw [← hes]; exact hg.exchanges, decided, decided.accepted⟩
  · obtain ⟨order, before, opened, sent, closed, hes, hbefore, decided⟩ := c.copy_decided source o w j
    exact ⟨order, before, opened, sent, closed, hes, hbefore, decided, decided.accepted⟩

/-! ## A reply that leads elsewhere -/

/-- The status of an answer that is a reply. -/
def statusOf : Http.Answer → Option Nat
  | .reply _ r => some r.status
  | _ => none

/-- The object store answers that the content is to be seen elsewhere, and there is something there. -/
def movedWorld : World where
  server := .ofAnswers [
    Cache.said "\x7b\"signedUploadUrl\":\"http://s/?k\",\"uploadId\":\"u\"\x7d",
    .reply .zero { status := 303, location := some "http://e/" }, Cache.said "another content",
    Cache.said ("\x7b\"artifact\":\x7b\"namespace\":\"n\",\"path\":\"p\"," ++
      "\"createdAt\":\"2024-01-01T00:00:00Z\"\x7d\x7d")]

set_option maxRecDepth 10000 in
/-- **A reply that leads elsewhere is no refusal**: the content is sealed although the object store has
not accepted it. -/
theorem sealed_after_redirect :
    (Cache.usual.store.upload "n" "p" (.ofBytes [104, 105, 33]) {} movedWorld {}).1.toOption =
        some ⟨Cache.newYear,
          some "c0ddd62c7717180e7ffb8a15bb9674d3ec92592e0b7ac7d1d5289836b4553be2"⟩ ∧
      (Cache.usual.store.upload "n" "p" (.ofBytes [104, 105, 33]) {} movedWorld {}).2.exchanges.map
          (fun e => (e.purpose, e.request.method, statusOf e.answer)) =
        [(.call .createArtifact, .post, some 200), (.upload, .put, some 303), (.upload, .get, some 200),
          (.call .finalizeArtifact, .post, some 200)] := by
  constructor <;> decide +kernel

end ContentCache
