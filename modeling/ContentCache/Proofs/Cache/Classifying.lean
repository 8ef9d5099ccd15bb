import ContentCache.Proofs.Cache.Ordering
import ContentCache.Proofs.Cache.Repeating
import ContentCache.Proofs.Metadata.Reissuing

/-!
# Which failures of the metadata service are repeated

A call of the metadata service that has got a reply to its last request fails in few ways. An answer
without success is a refusal, with the code that it says or that its status implies, and only three codes
make a refusal worth a repeat. The other ways are an answer of success that cannot be understood, a token
that is not accepted when no other one can be sent, and a redirect that leads nowhere. Those that are told
like a call without an answer are worth a repeat, so that a whole call, with its upload, may be made again
for a service that has answered all that it was asked.

* `Metadata.Client.FailsOn`: the ways in which a call can fail on a reply.
* `Metadata.Client.Explains`: a failure is that of the metadata call that came last, or of another kind.
* `Cache.WorthRepeating`: the failures after which a call is repeated.

Main statement: `copyRetrying_worthRepeating`, with `Calling.failsOn` (what a metadata call makes of a
reply) and `copy_explains` (where the failure of a call comes from).
-/

namespace ContentCache

/-! ## Failures -/

namespace Failure

/-- A failure as metadata calls have it. -/
def isMetadata : Failure → Bool
  | metadata _ | rejected .. => true
  | _ => false

/-- The codes of refusals that are worth a repeat. -/
def transientCodes : List String := ["unavailable", "deadline_exceeded", "resource_exhausted"]

theorem mem_transientCodes (code message : String) :
    code ∈ transientCodes ↔ (rejected code message).isTransient = true := by
  simp [transientCodes, isTransient, isTransientCode, or_assoc]

end Failure

/-! ## Last replies -/

namespace LastReply

variable {c : Http.Client} {w : World} {es fs : List Exchange} {r s : Http.Reply}

theorem exists_getLast? (h : LastReply c w es r) :
    ∃ e, es.getLast? = some e ∧ c.reply? w e = some r := by
  obtain ⟨front, e, rfl, hr⟩ := h
  exact ⟨e, by simp, hr⟩

theorem unique (h : LastReply c w es r) (h' : LastReply c w es s) : r = s := by
  obtain ⟨e, he, hr⟩ := h.exists_getLast?
  obtain ⟨f, hf, hs⟩ := h'.exists_getLast?
  obtain rfl := Option.some.inj (he.symm.trans hf)
  exact Option.some.inj (hr.symm.trans hs)

theorem ne_nil (h : LastReply c w es r) : es ≠ [] := by
  obtain ⟨front, e, rfl, -⟩ := h
  simp

/-- Exchanges in front make no difference. -/
theorem of_append (h : LastReply c w (es ++ fs) r) (hne : fs ≠ []) : LastReply c w fs r := by
  obtain ⟨e, he, hr⟩ := h.exists_getLast?
  have hlast : (es ++ fs).getLast? = fs.getLast? := by
    rw [List.getLast?_append, List.getLast?_eq_some_getLast hne, Option.some_or]
  obtain ⟨front, hfs⟩ := List.getLast?_eq_some_iff.1 (hlast.symm.trans he)
  exact ⟨front, e, hfs, hr⟩

end LastReply

namespace Metadata

/-! ## Documents of answers -/

theorem Method.decode_isSome (method : Method) (d : Json) :
    (method.decode d).isSome = method.understands d := by
  cases method <;> rfl

namespace Client

variable {c : Client} {w : World} {method : Method} {request : Json} {es fs : List Exchange} {h : Halt}
  {reply : Http.Reply}

/-! ## Calls that fail on a reply -/

/-- The ways in which a call can fail whose last request got a reply. -/
inductive FailsOn (c : Client) (w : World) (method : Method) (request : Json) (reply : Http.Reply) :
    Halt → Prop where
  /-- An answer without success is a refusal. -/
  | refused {code message : String} (status : Http.isSuccess reply.status = false)
      (said : code = (saidCode? reply.response).getD (codeForStatus reply.status)) :
      FailsOn c w method request reply (.failed (.rejected code message))
  /-- The body of an answer of success is complete, and not the document of the method. -/
  | misunderstood (status : Http.isSuccess reply.status = true)
      (complete : reply.response.body.firstError? = none)
      (document : (Json.ofBytes? reply.response.body.bytes).any method.understands = false) :
      FailsOn c w method request reply (.failed (undecodable method))
  /-- The body of an answer of success breaks off. -/
  | brokenOff (status : Http.isSuccess reply.status = true)
      (incomplete : reply.response.body.firstError? ≠ none) :
      FailsOn c w method request reply (.failed (undecodable method))
  /-- The token is not accepted, and posting once more fails before anything is sent. -/
  | tokenless {h : Halt} (status : reply.status = unauthorized)
      (again : c.Posting w method request true [] (.error h)) : FailsOn c w method request reply h
  /-- A redirect leads nowhere. -/
  | astray {h : Halt} (status : Http.isRedirect reply.status = true)
      (location : reply.location.isSome = true)
      (told : h = .interrupted ∨ ∃ e, h = .failed (unanswered method e)) :
      FailsOn c w method request reply h

/-- What is not accepted fails by its status or by its body. -/
theorem failsOn_of_accept {f : Failure} (h : accept method method.decode reply.response = .error f) :
    c.FailsOn w method request reply (.failed f) := by
  unfold accept at h
  split at h
  · next hs =>
    split at h
    · cases h
    · next hd =>
      obtain rfl := Except.error.inj h
      by_cases hbody : reply.response.body.firstError? = none
      · refine .misunderstood hs hbody ?_
        unfold document? at hd
        rw [hbody] at hd
        cases hread : Json.ofBytes? reply.response.body.bytes with
        | none => rfl
        | some d =>
          rw [hread, Option.bind_some] at hd
          rw [Option.any_some, ← Method.decode_isSome, hd]
          rfl
      · exact .brokenOff hs hbody
  · next hs =>
    obtain rfl := Except.error.inj h
    obtain ⟨message, hm⟩ := refusal_code method reply.response
    rw [hm]
    exact .refused (eq_false_of_ne_true hs) rfl

/-- A posting that has got a reply and goes on with none was led astray. -/
theorem Posting.failsOn {force : Bool} (posting : c.Posting w method request force es (.error h))
    (last : LastReply c.http w es reply) : c.FailsOn w method request reply h := by
  obtain ⟨e, he, hr⟩ := last.exists_getLast?
  generalize hx : (.error h : Except Halt Http.Response) = x at posting
  cases posting with
  | unissued => cases he
  | @posted _ _ _ sent _ sending =>
    unfold Http.Sent.response at hx
    obtain hanswered | ⟨hstatus, hlocation⟩ := sending.last_delivery he hr
    · rw [hanswered] at hx
      cases hx
    · refine .astray hstatus hlocation ?_
      split at hx
      · cases hx
      · exact .inr ⟨_, Except.error.inj hx⟩
      · exact .inl (Except.error.inj hx)

/-- The answer that a posting goes on with is its last reply. -/
theorem Posting.exists_lastReply {force : Bool} {r : Http.Response}
    (posting : c.Posting w method request force es (.ok r)) :
    ∃ reply, LastReply c.http w es reply ∧ r = reply.response := by
  obtain ⟨front, e, reply, hes, hr, rfl⟩ := posting.ok_last
  exact ⟨reply, ⟨front, e, hes, hr⟩, rfl⟩

/-- **A call that fails after a reply to its last request** fails in one of these ways. -/
theorem Calling.failsOn (calling : c.Calling w method request method.decode es (.error h))
    (last : LastReply c.http w es reply) : c.FailsOn w method request reply h := by
  have judged {r : Http.Response} {fs : List Exchange} {force : Bool}
      (posting : c.Posting w method request force fs (.ok r)) (last : LastReply c.http w fs reply)
      (hx : (.error h : Except Halt method.Result) =
        (accept method method.decode r).mapError .failed) : c.FailsOn w method request reply h := by
    obtain ⟨reply', last', rfl⟩ := posting.exists_lastReply
    obtain rfl := last.unique last'
    cases ha : accept method method.decode reply.response with
    | ok a => rw [ha] at hx; cases hx
    | error f =>
      rw [ha] at hx
      obtain rfl := Except.error.inj hx
      exact failsOn_of_accept ha
  generalize hx : (.error h : Except Halt method.Result) = x at calling
  cases calling with
  | halted first =>
    obtain rfl := Except.error.inj hx
    exact first.failsOn last
  | answered first => exact judged first last hx
  | @haltedAgain es fs r h' first hr second =>
    obtain rfl := Except.error.inj hx
    by_cases hfs : fs = []
    · -- Nothing has been sent since the answer that did not accept the token.
      subst hfs
      rw [List.append_nil] at last
      obtain ⟨reply', last', rfl⟩ := first.exists_lastReply
      obtain rfl := last.unique last'
      exact .tokenless hr second
    · exact second.failsOn (last.of_append hfs)
  | answeredAgain first hr second =>
    obtain ⟨reply', last', -⟩ := second.exists_lastReply
    exact judged second (last.of_append last'.ne_nil) hx

/-! ## Where failures come from -/

/-- A failure is of no metadata call, or of the one that made the last of some exchanges. -/
def Explains (c : Client) (w : World) (es : List Exchange) (f : Failure) : Prop :=
  f.isMetadata = false ∨ ∃ front called method request, es = front ++ called ∧
    c.Calling w method request method.decode called (.error (.failed f))

/-- The last metadata call explains its own failure. -/
theorem callsFail_explains (c : Client) (w : World) (es : List Exchange) :
    c.CallsFail w (c.Explains w es) es := by
  intro front called method request h hes calling
  cases h with
  | failed f => exact .inr ⟨front, called, method, request, hes, calling⟩
  | interrupted =>
    exact calling.fails (P := fun _ => True) Failure.usual_true.toCommon fun _ _ _ _ _ => trivial

theorem uncalled_explains (c : Client) (w : World) (es : List Exchange) :
    Failure.Uncalled (c.Explains w es) :=
  ⟨fun _ _ => .inl rfl, fun _ => .inl rfl, fun _ _ => .inl rfl, fun _ _ => .inl rfl⟩

end Client

end Metadata

namespace Cache

/-- **The failure of a call** is that of the metadata call that it made last, or one of another kind. -/
theorem copy_explains (c : Cache) (source : String) (o : CacheOptions) (w : World) (j : Journal) :
    ∃ es, (c.copy source o w j).2.exchanges = j.exchanges ++ es ∧
      ∀ h, (c.copy source o w j).1 = .error h →
        h.Fails (c.store.metadata.Explains (limited o.timeout w j) es) w := by
  cases hs : readSource source with
  | error f =>
    obtain ⟨detail, rfl⟩ := readSource_error hs
    rw [copy_of_invalid hs]
    refine ⟨[], by simp, fun h hr => ?_⟩
    obtain rfl := Except.error.inj hr
    exact .inl rfl
  | ok url =>
    obtain ⟨n, hg, -, steps, -, looking⟩ :=
      c.lookup_openly (limited o.timeout w j) source url o (begun j)
    rw [copy_apply hs]
    refine ⟨n.exchanges, hg.exchanges, fun h hr => ?_⟩
    refine overtaken_fails j hr (fun _ => .inl rfl) fun h' hr' => ?_
    rw [hr'] at looking
    exact looking.fails_of_calls (c.store.metadata.callsFail_explains _ _)
      (c.store.metadata.uncalled_explains _ _)

/-! ## Repeats -/

/-- Why a call is repeated that made some exchanges and failed: it did not fail in a metadata call, the
metadata call that it made last got no reply to its last request, or it failed on that reply, in one of
the three transient codes when the service has refused. -/
inductive WorthRepeating (c : Metadata.Client) (w : World) (es : List Exchange) : Failure → Prop where
  | elsewhere {f : Failure} (spared : f.isMetadata = false) : WorthRepeating c w es f
  | unanswered {f : Failure} {front called : List Exchange} {method : Metadata.Method} {request : Json}
      (made : es = front ++ called)
      (calling : c.Calling w method request method.decode called (.error (.failed f)))
      (silent : ∀ reply, ¬ LastReply c.http w called reply) : WorthRepeating c w es f
  | answered {f : Failure} {front called : List Exchange} {method : Metadata.Method} {request : Json}
      {reply : Http.Reply} (made : es = front ++ called)
      (calling : c.Calling w method request method.decode called (.error (.failed f)))
      (last : LastReply c.http w called reply) (fails : c.FailsOn w method request reply (.failed f))
      (transient : ∀ code message, f = .rejected code message → code ∈ Failure.transientCodes) :
      WorthRepeating c w es f

theorem worthRepeating_of_explains {m : Metadata.Client} {f : Failure} (h : m.Explains w es f)
    (ht : f.isTransient = true) : WorthRepeating m w es f := by
  obtain hspared | ⟨front, called, method, request, made, calling⟩ := h
  · exact .elsewhere hspared
  · by_cases hlast : ∃ reply, LastReply m.http w called reply
    · obtain ⟨reply, last⟩ := hlast
      refine .answered made calling last (calling.failsOn last) ?_
      rintro code message rfl
      exact (Failure.mem_transientCodes code message).2 ht
    · exact .unanswered made calling fun reply last => hlast ⟨reply, last⟩

/-- **What a metadata call makes of a reply, and what is repeated for it.** A metadata call that fails
after a reply to its last request fails on that reply. A repeated call makes its attempts for failures
that are worth a repeat, and for no others; the last one ends the whole. -/
theorem copyRetrying_worthRepeating (c : Cache) (source : String) (o : CacheOptions) (p : RetryPolicy)
    (w : World) (j : Journal) :
    (∀ (m : Metadata.Client) (method : Metadata.Method) (request : Json), ∃ es,
      (m.call method request method.decode w j).2.exchanges = j.exchanges ++ es ∧
      ∀ reply, LastReply m.http w es reply → ∀ h,
        (m.call method request method.decode w j).1 = .error h →
          m.FailsOn w method request reply h ∧
          ∀ code message, h = .failed (.rejected code message) →
            (h.isTransient = true ↔ code ∈ Failure.transientCodes)) ∧
    ∃ k, Act.attempts p (c.copy source o) 0 w j =
        (List.range (k + 1)).map (c.attempt source o p w j) ∧
      c.copyRetrying source o p w j =
        ((c.attempt source o p w j k).result, (c.attempt source o p w j k).after) ∧
      ∀ i < k, ∃ es f,
        (c.attempt source o p w j i).after.exchanges =
          (c.attempt source o p w j i).before.exchanges ++ es ∧
        (c.attempt source o p w j i).result = .error (.failed f) ∧ f.isTransient = true ∧
        WorthRepeating c.store.metadata (limited o.timeout w (c.attempt source o p w j i).before) es f := by
  constructor
  · intro m method request
    obtain ⟨n, hg, -, calling⟩ := m.call_quietly w method request method.decode j
    refine ⟨n.exchanges, hg.exchanges, fun reply last h hr => ⟨?_, ?_⟩⟩
    · rw [hr] at calling
      exact calling.failsOn last
    · rintro code message rfl
      exact (Failure.mem_transientCodes code message).symm
  · obtain ⟨k, -, -, hbefore, hattempts, hretrying⟩ :=
      Act.retrying_from p (c.copy source o) w j (Nat.zero_le _)
    simp only [Nat.zero_add, ← List.range_eq_range'] at hbefore hattempts hretrying
    refine ⟨k, hattempts, hretrying, fun i hi => ?_⟩
    have hturn := Act.nthTurn_eq_turn p (c.copy source o) w j i
    obtain ⟨es, hes, explained⟩ := c.copy_explains source o w (c.attempt source o p w j i).before
    obtain ⟨f, hf, htransient⟩ := RetryPolicy.failed_of_not_ends (hbefore i hi)
    rw [hturn] at hf
    refine ⟨es, f, ?_, ?_, htransient, worthRepeating_of_explains (explained _ hf) htransient⟩
    · rw [attempt, hturn]
      exact hes
    · rw [attempt, hturn]
      exact hf

/-! ## A run -/

/-- Nothing is listed, the content is fetched and sent, and a text is the answer when it is to be sealed;
and then the same once more. -/
def babblingWorld : World where
  server :=
    let answers := [said "\x7b\x7d", said "hi!",
      said "\x7b\"signedUploadUrl\":\"http://s/?k\",\"uploadId\":\"u\"\x7d", said "", said "oops"]
    .ofAnswers (answers ++ answers)

/-- A request got a reply of success that could be read in full. -/
def answeredInFull (http : Http.Client) (w : World) (e : Exchange) : Bool :=
  (http.reply? w e).any fun r => Http.isSuccess r.status && r.response.body.firstError?.isNone

set_option maxRecDepth 10000 in
/-- **A metadata call that has been answered in full fails as if it had got no answer**, and so the
content is fetched and sent a second time. -/
theorem copyRetrying_repeats_answered :
    ∃ k, usual.copyRetrying "http://o/" {} (.doubling 1) babblingWorld {} =
        (.error (.failed (.metadata
          "FinalizeArtifact: failed to decode response: error decoding response body")), k) ∧
      (∀ e ∈ k.exchanges, answeredInFull usual.store.metadata.http babblingWorld e = true) ∧
      k.exchanges.map Exchange.purpose = scriptOf false ++ scriptOf false := by
  let first := usual.copy "http://o/" {} babblingWorld {}
  let again := usual.copy "http://o/" {} babblingWorld
    (Act.waited (.doubling 1) 0 babblingWorld first.2)
  have hrun : (haltOf first.1 = some (.failed (Metadata.Client.undecodable .finalizeArtifact)) ∧
        haltOf again.1 = some (.failed (Metadata.Client.undecodable .finalizeArtifact))) ∧
      (∀ e ∈ again.2.exchanges, answeredInFull usual.store.metadata.http babblingWorld e = true) ∧
      again.2.exchanges.map Exchange.purpose = scriptOf false ++ scriptOf false := by
    decide +kernel
  obtain ⟨⟨hfirst, hagain⟩, hexchanges⟩ := hrun
  refine ⟨again.2, ?_, hexchanges⟩
  calc usual.copyRetrying "http://o/" {} (.doubling 1) babblingWorld {}
      = Act.retrying (.doubling 1) (usual.copy "http://o/" {}) 1 babblingWorld
          (Act.waited (.doubling 1) 0 babblingWorld first.2) :=
        Act.retrying_of_allowed (Prod.ext (eq_error_of_haltOf hfirst) rfl) rfl
    _ = (.error (.failed (Metadata.Client.undecodable .finalizeArtifact)), again.2) :=
        Act.retrying_of_final (Prod.ext (eq_error_of_haltOf hagain) rfl) rfl

end Cache

end ContentCache
