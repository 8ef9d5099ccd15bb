import ContentCache.Proofs.Metadata.Calling

/-!
# Asking for a token again

A call has one round, in which a token is asked for and the document is posted with it. When the answer
does not accept the token there is a second round, in which the source of tokens is told to pass over one
that it has kept. There is never a third one, and the last round alone decides what the call comes to.

* `Round`: what was sent in a round, and what became of it.
* `Round.verdict`: what a call comes to whose last round this is.
* `Rounds`: the rounds that can come of asking for a token.
* `Course`: the rounds of a call.

Main statements: `post_rounds` (a posting is a round), `call_course` (a call is one round or two) and
`call_reissues_once` (what follows for its requests and for its end).
-/

namespace ContentCache

/-! ## The draft of an order with another token -/

namespace Http

/-- The token of an order that has a draft can be sent. -/
theorem Order.isHeaderText_of_draft {o : Order} {d : Draft} {token : String} (h : o.draft = .ok d)
    (ht : o.token = some token) : isHeaderText token = true := by
  unfold Order.draft at h
  split at h
  · cases h
  · split at h
    · cases h
    · split at h
      · cases h
      · next hno =>
        rw [ht] at hno
        simp only [Option.all_some, Bool.not_eq_true', Bool.not_eq_false, Bool.and_eq_true] at hno
        exact hno.1

/-- With another token that can be sent, an order has a draft for the same URL. -/
theorem Order.draft_withToken {o : Order} {d : Draft} {token : String} (h : o.draft = .ok d)
    (ht : isHeaderText token = true) :
    ∃ e, Order.draft { o with token := some token } = .ok e ∧ e.url = d.url ∧ e.payload = d.payload := by
  unfold Order.draft at h ⊢
  cases hread : Url.read o.url with
  | error => rw [hread] at h; cases h
  | ok url =>
    simp only [hread, Option.all_some, ht, Bool.true_and] at h ⊢
    split at h
    · cases h
    · next hhost =>
      rw [if_neg hhost]
      split at h
      · cases h
      · next hno =>
        simp only [Bool.not_eq_true', Bool.not_eq_false, Bool.and_eq_true] at hno
        rw [hno.2, Bool.not_true, if_neg Bool.false_ne_true]
        split at h
        · cases h
        · next hgoes =>
          rw [if_neg hgoes]
          obtain rfl := Except.ok.inj h
          exact ⟨_, rfl, rfl, rfl⟩

variable {c : Client} {w : World} {o : Order} {es : List Exchange} {sent : Sent}

/-- An order that has a draft and can reach its server is sent, unless it is interrupted. -/
theorem Client.Sending.sent_or_interrupted (h : c.Sending w o es sent) {d : Draft} {body : Bytes}
    (hd : o.draft = .ok d) (hr : c.reaches w d.url = true) (hb : d.payload.draw.2 = some body) :
    es ≠ [] ∨ sent.delivery = .interrupted := by
  cases h with
  | unusable h => rw [hd] at h; cases h
  | sent h trail =>
    obtain rfl := Except.ok.inj (hd.symm.trans h)
    cases trail with
    | interrupted => exact .inr rfl
    | unanswered h =>
      cases h with
      | unreached hno => rw [hr] at hno; cases hno
      | incomplete _ hno => rw [hb] at hno; cases hno
      | unanswered => exact .inl (by simp)
    | answered | astray | redirected => exact .inl (by simp)

end Http

namespace Metadata.Client

variable {α : Type} {c : Client} {w : World} {method : Method} {request : Json}

/-! ## Rounds -/

/-- A round of a call: what was sent in it, and what became of that, or why there was no token. -/
structure Round where
  exchanges : List Exchange
  outcome : Except Failure Http.Delivery

/-- What a call can go on with after a round. -/
def Round.response (method : Method) (round : Round) : Except Halt Http.Response :=
  match round.outcome with
  | .error f => .error (.failed f)
  | .ok (.answered r) => .ok r
  | .ok (.failed e) => .error (.failed (unanswered method e))
  | .ok .interrupted => .error .interrupted

/-- What a call comes to whose last round this is. -/
def Round.verdict (method : Method) (decode : Json → Option α) (round : Round) : Except Halt α :=
  match round.response method with
  | .ok r => (accept method decode r).mapError .failed
  | .error h => .error h

theorem Round.response_eq_ok {round : Round} {r : Http.Response} :
    round.response method = .ok r ↔ round.outcome = .ok (.answered r) := by
  unfold response
  split <;> next h => simp [h]

/-- The rounds that can come of asking for a token when so much has been asked before. -/
inductive Rounds (c : Client) (w : World) (method : Method) (request : Json) (asked : List Bool)
    (force : Bool) : Round → Prop where
  | unissued {f : Failure} (h : c.tokens.issue w.files asked force = .error f) :
      Rounds c w method request asked force ⟨[], .error f⟩
  | posted {token : String} {es : List Exchange} {sent : Http.Sent}
      (h : c.tokens.issue w.files asked force = .ok token)
      (sending : c.http.Sending w (c.order method token request) es sent) :
      Rounds c w method request asked force ⟨es, .ok sent.delivery⟩

/-- **Posting a document is a round**, and nothing else is left in the journal. -/
theorem post_rounds (c : Client) (w : World) (method : Method) (request : Json) (force : Bool)
    (j : Journal) :
    ∃ round k, c.Rounds w method request j.asked force round ∧
      j.Gains k { exchanges := round.exchanges, asked := [force] } ∧
      c.post method request force w j = (round.response method, k) := by
  unfold post
  cases hi : c.tokens.issue w.files j.asked force with
  | error f =>
    rw [Act.bind_of_halt (issueToken_error hi)]
    exact ⟨⟨[], .error f⟩, _, .unissued hi, by constructor <;> simp, rfl⟩
  | ok token =>
    rw [Act.bind_of_ok (issueToken_ok hi), Http.Client.ask_apply]
    obtain ⟨es, hg, hs⟩ := c.http.send_gains w (c.order method token request)
      { j with asked := j.asked ++ [force] }
    generalize c.http.send _ _ _ = x at hg hs ⊢
    refine ⟨⟨es, .ok x.1.delivery⟩, x.2, .posted hi hs, ?_, ?_⟩
    · exact Journal.Gains.trans (m := { asked := [force] }) (by constructor <;> simp) hg
    · obtain ⟨⟨delivery, taken⟩, k⟩ := x
      cases delivery <;> rfl

/-- The rounds of a call: what they leave in the journal, and what the call comes to. -/
structure Course (c : Client) (w : World) (method : Method) (request : Json) (decode : Json → Option α)
    (j k : Journal) (r : Except Halt α) (first : Round) (again : Option Round) : Prop where
  asks : c.Rounds w method request j.asked false first
  /-- There is a second round just when the first answer does not accept the token. -/
  again_iff : again.isSome = true ↔
    ∃ a, first.outcome = .ok (.answered a) ∧ a.status = unauthorized
  /-- In the second round the source is told to pass over a token that it has kept. -/
  asksAgain : ∀ round ∈ again, c.Rounds w method request (j.asked ++ [false]) true round
  gains : j.Gains k
    { exchanges := (first :: again.toList).flatMap Round.exchanges,
      asked := false :: again.toList.map fun _ => true }
  /-- The last round alone decides. -/
  verdict : r = (again.getD first).verdict method decode

/-- **A call is one round or two.** -/
theorem call_course (c : Client) (w : World) (method : Method) (request : Json)
    (decode : Json → Option α) (j : Journal) :
    ∃ first again k r, c.call method request decode w j = (r, k) ∧
      c.Course w method request decode j k r first again := by
  obtain ⟨first, k, hfirst, hg, hp⟩ := c.post_rounds w method request false j
  -- A round is the only one unless its answer does not accept the token.
  have only (h : ∀ a, first.response method = .ok a → a.status ≠ unauthorized) :
      c.Course w method request decode j k (first.verdict method decode) first none :=
    { asks := hfirst
      again_iff := by
        have hno (a : Http.Response) (ha : first.outcome = .ok (.answered a)) :
            a.status ≠ unauthorized := h a (Round.response_eq_ok.2 ha)
        simpa using hno
      asksAgain := by simp
      gains := by simpa using hg
      verdict := rfl }
  cases hr : first.response method with
  | error h =>
    rw [hr] at hp
    exact ⟨first, none, k, _, (Act.bind_of_halt hp).trans (by simp [Round.verdict, hr]),
      only (by simp [hr])⟩
  | ok a =>
    rw [hr] at hp
    by_cases hs : a.status = unauthorized
    · obtain ⟨again, l, hagain, hg', hp'⟩ := c.post_rounds w method request true k
      refine ⟨first, some again, l, again.verdict method decode, ?_, ?_⟩
      · unfold call
        rw [Act.bind_of_ok hp, if_pos hs]
        unfold Round.verdict
        cases hr' : again.response method with
        | error h => exact Act.bind_of_halt (by rw [hp', hr'])
        | ok b => rw [Act.bind_of_ok (by rw [hp', hr']), Act.ofExcept_apply]
      · exact
          { asks := hfirst
            again_iff := by simp [Round.response_eq_ok.1 hr, hs]
            asksAgain := by simpa [show k.asked = j.asked ++ [false] from hg.asked] using hagain
            gains := by
              show j.Gains l { exchanges := first.exchanges ++ (again.exchanges ++ []), asked := _ }
              rw [List.append_nil]
              exact hg.trans hg'
            verdict := rfl }
    · refine ⟨first, none, k, _, ?_, only (by simp [hr, hs])⟩
      unfold call
      rw [Act.bind_of_ok hp, if_neg hs, Act.ofExcept_apply]
      simp [Round.verdict, hr]

/-! ## What holds of a round -/

/-- An exchange posts the document of a call to the URL of its method. -/
structure IsPosted (c : Client) (method : Method) (request : Json) (e : Exchange) : Prop where
  isPost : e.request.method = .post
  body : e.request.body = Bytes.ofText request.write
  url : ∃ url, Url.read (c.methodUrl method) = .ok url ∧
    e.request.url = url.withoutUser.withoutFragment

namespace Rounds

variable {asked : List Bool} {force : Bool} {round : Round}

/-- The requests of a round are the one that posts the document, and redirects. -/
theorem posted_or_hop_pos (h : c.Rounds w method request asked force round) :
    round.exchanges.countP (·.hop = 0) ≤ 1 ∧
      ∀ e ∈ round.exchanges, e.hop = 0 → c.IsPosted method request e := by
  cases h with
  | unissued => simp
  | @posted token es sent hi sending =>
    cases es with
    | nil => simp
    | cons e rest =>
      obtain ⟨hhop, hm, hb, -, hu⟩ := sending.head_request
      have tail : ∀ f ∈ rest, ¬ f.hop = 0 := fun f hf => Nat.ne_of_gt (sending.hop_pos_of_mem_tail f hf)
      constructor
      · simpa [hhop, List.countP_eq_zero] using tail
      · intro f hf h0
        rcases List.mem_cons.1 hf with rfl | hf
        · exact ⟨hm, (Option.some.inj hb).symm, hu⟩
        · exact absurd h0 (tail f hf)

/-- Without a token nothing is sent. -/
theorem unissued_exchanges {f : Failure} (h : c.Rounds w method request asked force round)
    (hf : round.outcome = .error f) :
    c.tokens.issue w.files asked force = .error f ∧ round.exchanges = [] := by
  cases h with
  | unissued hi => exact ⟨by rw [hi, Except.error.inj hf], rfl⟩
  | posted => cases hf

/-- The answer of a round is the reply to its last request. -/
theorem answered_last {a : Http.Response} (h : c.Rounds w method request asked force round)
    (ha : round.outcome = .ok (.answered a)) :
    ∃ front e r, round.exchanges = front ++ [e] ∧ c.http.reply? w e = some r ∧ a = r.response := by
  cases h with
  | unissued => cases ha
  | posted _ sending => exact sending.answered_last (Except.ok.inj ha)

theorem deadline_of_interrupted (h : c.Rounds w method request asked force round)
    (hr : round.outcome = .ok .interrupted) : w.deadline.isSome = true := by
  cases h with
  | unissued => cases hr
  | posted _ sending =>
    cases hd : w.deadline with
    | none => exact absurd (Except.ok.inj hr) (sending.not_interrupted hd)
    | some => rfl

/-- **After an answer, what is needed to send another request is a token that can be sent.** -/
theorem sent_again_iff {asked' : List Bool} {force' : Bool} {again : Round} {a : Http.Response}
    (h : c.Rounds w method request asked force round) (ha : round.outcome = .ok (.answered a))
    (h' : c.Rounds w method request asked' force' again) :
    (again.exchanges ≠ [] ∨ again.outcome = .ok .interrupted) ↔
      ∃ token, c.tokens.issue w.files asked' force' = .ok token ∧ Http.isHeaderText token = true := by
  cases h' with
  | unissued hi' => simp [hi']
  | @posted token' es' sent' hi' sending' =>
    simp only [hi', Except.ok.injEq, exists_eq_left']
    constructor
    · intro hsent
      cases sending' with
      | unusable => simp at hsent
      | sent hd => exact Http.Order.isHeaderText_of_draft hd rfl
    · intro htoken
      cases h with
      | unissued => cases ha
      | @posted token es sent hi sending =>
        -- The first request tells that the URL can be used and that its server is reached.
        obtain ⟨front, last, r, hes, -⟩ := sending.answered_last (Except.ok.inj ha)
        obtain ⟨e, rest, rfl⟩ := List.exists_cons_of_ne_nil (by rw [hes]; simp : es ≠ [])
        obtain ⟨d, hd, hs⟩ := sending.head_sends
        obtain ⟨d', hd', hurl, hpayload⟩ := Http.Order.draft_withToken hd htoken
        have hbody : d'.payload.draw.2 = some (Bytes.ofText request.write) := by
          rw [hpayload, (Http.Order.draft_ok hd).2.1]
          rfl
        exact sending'.sent_or_interrupted hd' (hurl ▸ hs.reached) hbody

end Rounds

/-! ## What a call comes to -/

/-- The code that an answer says, when it has a document with one. -/
def saidCode? (a : Http.Response) : Option String :=
  ((Json.read? a.text).bind Refusal.ofDocument?).bind fun d =>
    if d.code.isEmpty then none else some d.code

/-- An answer that cannot be read in full, or is empty, says no code. -/
theorem saidCode?_eq_none {a : Http.Response} (h : a.body.firstError? ≠ none ∨ a.body.bytes = []) :
    saidCode? a = none := by
  have htext : a.text = "" := by
    unfold Http.Response.text
    cases he : a.body.firstError? with
    | some e => rfl
    | none =>
      have hb : a.body.bytes = [] := h.resolve_left (by simp [he])
      simp only [hb]
      rfl
  unfold saidCode?
  rw [htext]
  rfl

/-- A refusal has the code that the answer says, or else the one that its status implies. -/
theorem refusal_code (method : Method) (a : Http.Response) :
    ∃ message, refusal method a.status a.text =
      .rejected ((saidCode? a).getD (codeForStatus a.status)) message := by
  unfold refusal saidCode?
  cases (Json.read? a.text).bind Refusal.ofDocument? with
  | none => exact ⟨_, rfl⟩
  | some d =>
    simp only [Option.bind_some]
    split
    · exact ⟨_, rfl⟩
    · exact ⟨_, rfl⟩

namespace Round

variable {decode : Json → Option α} {round : Round}

theorem verdict_of_unissued {f : Failure} (h : round.outcome = .error f) :
    round.verdict method decode = .error (.failed f) := by
  simp [verdict, response, h]

theorem verdict_of_answered {a : Http.Response} (h : round.outcome = .ok (.answered a)) :
    round.verdict method decode = (accept method decode a).mapError .failed := by
  simp [verdict, response, h]

theorem verdict_of_failed {e : Http.ClientError} (h : round.outcome = .ok (.failed e)) :
    round.verdict method decode = .error (.failed (unanswered method e)) := by
  simp [verdict, response, h]

end Round

/-- **What a call sends and comes to**, in terms of its rounds. -/
structure Reissuing (c : Client) (w : World) (method : Method) (request : Json)
    (decode : Json → Option α) (j k : Journal) (r : Except Halt α) (first : Round)
    (again : Option Round) : Prop extends Course c w method request decode j k r first again where
  /-- Redirects aside, at most two requests are sent. -/
  atMostTwice : ((first :: again.toList).flatMap Round.exchanges).countP (·.hop = 0) ≤ 2
  /-- Each of them posts the same document to the same URL. -/
  posted : ∀ e ∈ (first :: again.toList).flatMap Round.exchanges, e.hop = 0 →
    c.IsPosted method request e
  /-- What is taken for an answer is the reply to the last request of its round. -/
  answered : ∀ round ∈ first :: again.toList, ∀ a, round.outcome = .ok (.answered a) →
    ∃ front e s, round.exchanges = front ++ [e] ∧ c.http.reply? w e = some s ∧ a = s.response
  /-- A second request is sent just when the first answer does not accept the token and the source then
  gives one that can be sent, unless the deadline of the call comes first. -/
  sentAgain : (∃ round ∈ again, round.exchanges ≠ [] ∨ round.outcome = .ok .interrupted) ↔
    (∃ a, first.outcome = .ok (.answered a) ∧ a.status = unauthorized) ∧
      ∃ token, c.tokens.issue w.files (j.asked ++ [false]) true = .ok token ∧
        Http.isHeaderText token = true
  interrupted : ∀ round ∈ first :: again.toList, round.outcome = .ok .interrupted →
    w.deadline.isSome = true
  /-- When the source has no token nothing is sent any more, and the call fails as the source does. -/
  unissued : ∀ round ∈ first :: again.toList, ∀ f, round.outcome = .error f →
    round.exchanges = [] ∧ again.getD first = round ∧ r = .error (.failed f)
  /-- A document that can be understood, in an answer of success, is the value. -/
  accepted : ∀ a x, (again.getD first).outcome = .ok (.answered a) →
    Http.isSuccess a.status = true → (document? a).bind decode = some x → r = .ok x
  /-- An answer without success is a refusal, with the code that it says or its status implies. -/
  refused : ∀ a, (again.getD first).outcome = .ok (.answered a) → Http.isSuccess a.status = false →
    ∃ message,
      r = .error (.failed (.rejected ((saidCode? a).getD (codeForStatus a.status)) message))
  unsaid : ∀ a, (again.getD first).outcome = .ok (.answered a) →
    a.body.firstError? ≠ none ∨ a.body.bytes = [] → saidCode? a = none
  unanswered : ∀ e, (again.getD first).outcome = .ok (.failed e) →
    ∃ detail, r = .error (.failed (.metadata detail))

namespace Course

variable {decode : Json → Option α} {j k : Journal} {r : Except Halt α} {first : Round}
  {again : Option Round}

theorem rounds_of_mem (h : c.Course w method request decode j k r first again) :
    ∀ round ∈ first :: again.toList, ∃ asked force, c.Rounds w method request asked force round := by
  intro round hround
  rcases List.mem_cons.1 hround with rfl | hround
  · exact ⟨_, _, h.asks⟩
  · exact ⟨_, _, h.asksAgain round (Option.mem_toList.1 hround)⟩

theorem countP_le_two (h : c.Course w method request decode j k r first again) :
    ((first :: again.toList).flatMap Round.exchanges).countP (·.hop = 0) ≤ 2 := by
  have hfirst := h.asks.posted_or_hop_pos.1
  cases again with
  | none => simpa using Nat.le_succ_of_le hfirst
  | some again =>
    have hagain := (h.asksAgain again rfl).posted_or_hop_pos.1
    simp only [Option.toList_some, List.flatMap_cons, List.flatMap_nil, List.append_nil,
      List.countP_append]
    omega

/-- A round without a token is the last one. -/
theorem last_of_unissued (h : c.Course w method request decode j k r first again) {round : Round}
    (hround : round ∈ first :: again.toList) {f : Failure} (hf : round.outcome = .error f) :
    again.getD first = round := by
  cases again with
  | none => simpa [eq_comm] using hround
  | some again =>
    obtain ⟨a, ha, -⟩ := h.again_iff.1 rfl
    rcases List.mem_cons.1 hround with rfl | hround
    · rw [hf] at ha
      cases ha
    · simpa [eq_comm] using hround

theorem sent_again_iff (h : c.Course w method request decode j k r first again) :
    (∃ round ∈ again, round.exchanges ≠ [] ∨ round.outcome = .ok .interrupted) ↔
      (∃ a, first.outcome = .ok (.answered a) ∧ a.status = unauthorized) ∧
        ∃ token, c.tokens.issue w.files (j.asked ++ [false]) true = .ok token ∧
          Http.isHeaderText token = true := by
  rw [← h.again_iff]
  cases again with
  | none => simp
  | some again =>
    obtain ⟨a, ha, -⟩ := h.again_iff.1 rfl
    simpa using h.asks.sent_again_iff ha (h.asksAgain again rfl)

end Course

/-- **A call asks for a token again, and posts again, at most once**, and its last round decides. -/
theorem call_reissues_once (c : Client) (w : World) (method : Method) (request : Json)
    (decode : Json → Option α) (j : Journal) :
    ∃ first again k r, c.call method request decode w j = (r, k) ∧
      c.Reissuing w method request decode j k r first again := by
  obtain ⟨first, again, k, r, hcall, course⟩ := c.call_course w method request decode j
  have asks := course.rounds_of_mem
  refine ⟨first, again, k, r, hcall, { course with
    atMostTwice := course.countP_le_two
    posted := ?posted
    answered := ?answered
    sentAgain := course.sent_again_iff
    interrupted := ?interrupted
    unissued := ?unissued
    accepted := ?accepted
    refused := ?refused
    unsaid := fun a _ => saidCode?_eq_none
    unanswered := fun e he => ⟨_, course.verdict.trans (Round.verdict_of_failed he)⟩ }⟩
  case posted =>
    intro e he
    obtain ⟨round, hround, he⟩ := List.mem_flatMap.1 he
    obtain ⟨_, _, h⟩ := asks round hround
    exact h.posted_or_hop_pos.2 e he
  case answered =>
    intro round hround a ha
    obtain ⟨_, _, h⟩ := asks round hround
    exact h.answered_last ha
  case interrupted =>
    intro round hround hi
    obtain ⟨_, _, h⟩ := asks round hround
    exact h.deadline_of_interrupted hi
  case unissued =>
    intro round hround f hf
    obtain ⟨_, _, h⟩ := asks round hround
    have hlast := course.last_of_unissued hround hf
    refine ⟨(h.unissued_exchanges hf).2, hlast, ?_⟩
    rw [course.verdict, hlast, Round.verdict_of_unissued hf]
  case accepted =>
    intro a x ha hs hx
    rw [course.verdict, Round.verdict_of_answered ha, accept_of_success hs hx]
    rfl
  case refused =>
    intro a ha hs
    obtain ⟨message, hm⟩ := refusal_code method a
    refine ⟨message, ?_⟩
    rw [course.verdict, Round.verdict_of_answered ha, accept_of_refusal hs, hm]
    rfl

end Metadata.Client

end ContentCache
