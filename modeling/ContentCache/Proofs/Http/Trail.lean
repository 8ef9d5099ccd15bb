import ContentCache.Http.Client
import ContentCache.Proofs.Entries

/-!
# The exchanges of an order

A client that is given an order sends a request, and one more for each redirect that it follows. The
exchanges that come about are its trail.

* `Client.reply?`: the reply of an exchange, when it arrives before the client gives up.
* `Client.Sends`: an exchange is the request of a draft.
* `Trail`: which exchanges and which delivery can come of a draft, one rule for each way.
* `Client.Sending`: the same of an order.

Main statements: `follow_trail` and `send_quietly` (what a client does is one of these ways),
`Trail.answered_last` and `Trail.last_delivery` (an answer is that of the last exchange, and what the
last exchange gets is the answer or a redirect), and `Trail.tail_get` (only the first request of a trail
has a body that passes by).
-/

namespace ContentCache.Http

variable {c : Client} {w : World} {purpose : Purpose} {first : Url} {hop : Nat} {d : Draft}

namespace Client

/-- Whether what is sent back so long after a moment arrives in the time for the request and before
the deadline. -/
def arrives (c : Client) (w : World) (moment after : Time.Span) : Bool :=
  (moment.plus after).nanoseconds ≤ (moment.plus c.requestLimit).nanoseconds &&
    !w.isOver { elapsed := moment.plus after }

/-- The reply of an exchange, when there is one and it arrives in time. -/
def reply? (c : Client) (w : World) (e : Exchange) : Option Reply :=
  match e.answer with
  | .reply after r => if c.arrives w e.moment after then some r else none
  | _ => none

/-- An exchange is the complete request of a draft, made for a purpose after some redirects. -/
structure Sends (c : Client) (w : World) (purpose : Purpose) (hop : Nat) (d : Draft)
    (e : Exchange) : Prop where
  purpose : e.purpose = purpose
  hop : e.hop = hop
  reached : c.reaches w d.url = true
  request : ∃ body, d.payload.draw.2 = some body ∧ e.request = d.request body

/-- A reply that a client gets was given. -/
theorem answer_of_reply? {e : Exchange} {r : Reply} (h : c.reply? w e = some r) :
    ∃ after, e.answer = .reply after r := by
  unfold reply? at h
  split at h
  · next after r' he =>
    split at h
    · simp only [Option.some.injEq] at h
      exact ⟨after, by rw [he, h]⟩
    · cases h
  · cases h

end Client

/-! ## One exchange -/

/-- A deadline is needed for being over. -/
theorem deadline_of_isOver {j : Journal} (h : w.isOver j = true) : w.deadline.isSome = true := by
  unfold World.isOver at h
  split at h
  · cases h
  · next hd => rw [hd]; rfl

theorem giveUp_cases (w : World) (j : Journal) (last : Time.Span) :
    ∃ t, (Client.giveUp w j last).2 = j.atTime t ∧
      ((Client.giveUp w j last).1 = .nothing ∨
        ((Client.giveUp w j last).1 = .interrupted ∧ w.deadline.isSome = true)) := by
  unfold Client.giveUp
  split
  · next d hd =>
    split
    · exact ⟨d, rfl, .inr ⟨rfl, by rw [hd]; rfl⟩⟩
    · exact ⟨last, rfl, .inl rfl⟩
  · exact ⟨last, rfl, .inl rfl⟩

/-- Waiting ends with the reply that arrives in time, or in vain. -/
theorem await_cases (c : Client) (w : World) (e : Exchange) (j : Journal) (hm : e.moment = j.elapsed) :
    ∃ t, (c.await w e.answer j).2 = j.atTime t ∧
      ((∃ r, (c.await w e.answer j).1 = .reply r ∧ c.reply? w e = some r) ∨
        ((c.await w e.answer j).1 = .nothing ∧ c.reply? w e = none) ∨
        ((c.await w e.answer j).1 = .interrupted ∧ c.reply? w e = none ∧
          w.deadline.isSome = true)) := by
  have vain (h : c.reply? w e = none) (last : Time.Span) :
      ∃ t, (Client.giveUp w j last).2 = j.atTime t ∧
        ((∃ r, (Client.giveUp w j last).1 = .reply r ∧ c.reply? w e = some r) ∨
          ((Client.giveUp w j last).1 = .nothing ∧ c.reply? w e = none) ∨
          ((Client.giveUp w j last).1 = .interrupted ∧ c.reply? w e = none ∧
            w.deadline.isSome = true)) := by
    obtain ⟨t, ht, hr⟩ := giveUp_cases w j last
    exact ⟨t, ht, .inr (hr.imp (fun hn => ⟨hn, h⟩) fun hi => ⟨hi.1, h, hi.2⟩)⟩
  cases ha : e.answer with
  | dropped =>
    have h : c.reply? w e = none := by simp [Client.reply?, ha]
    exact ⟨j.elapsed, rfl, .inr (.inl ⟨rfl, h⟩)⟩
  | hangs =>
    have h : c.reply? w e = none := by simp [Client.reply?, ha]
    exact vain h _
  | reply after r =>
    have hw : c.await w (.reply after r) j =
        if c.arrives w j.elapsed after then (.reply r, j.atTime (j.elapsed.plus after))
        else Client.giveUp w j (j.elapsed.plus c.requestLimit) := rfl
    rw [hw]
    split
    · next hin =>
      have h : c.reply? w e = some r := by simp [Client.reply?, ha, hm, hin]
      exact ⟨_, rfl, .inl ⟨r, rfl, h⟩⟩
    · next hin =>
      have h : c.reply? w e = none := by simp [Client.reply?, ha, hm, hin]
      exact vain h _

/-- What an attempt to send a request can come to: the server is not reached, the deadline lies
behind, the body is not complete, or there is one exchange. -/
inductive Attempt (c : Client) (w : World) (purpose : Purpose) (hop : Nat) (d : Draft) :
    List Exchange → Reaction × Stream → Prop where
  | unreached (h : c.reaches w d.url = false) : Attempt c w purpose hop d [] (.nothing, [])
  | late (h : c.reaches w d.url = true) (hd : w.deadline.isSome = true) :
      Attempt c w purpose hop d [] (.interrupted, [])
  | incomplete (h : c.reaches w d.url = true) (hb : d.payload.draw.2 = none) :
      Attempt c w purpose hop d [] (.nothing, d.payload.draw.1)
  | unanswered {e : Exchange} (h : c.Sends w purpose hop d e) (hr : c.reply? w e = none) :
      Attempt c w purpose hop d [e] (.nothing, d.payload.draw.1)
  | abandoned {e : Exchange} (h : c.Sends w purpose hop d e) (hr : c.reply? w e = none)
      (hd : w.deadline.isSome = true) : Attempt c w purpose hop d [e] (.interrupted, d.payload.draw.1)
  | replied {e : Exchange} {r : Reply} (h : c.Sends w purpose hop d e) (hr : c.reply? w e = some r) :
      Attempt c w purpose hop d [e] (.reply r, d.payload.draw.1)

/-- A journal to which exchanges are added, and nothing else. -/
theorem gains_exchanges {j k : Journal} {es : List Exchange} {t : Time.Span}
    (h : k = { j with exchanges := j.exchanges ++ es, elapsed := t }) :
    j.Gains k { exchanges := es } := by
  subst h
  constructor <;> simp

theorem exchange_attempt (c : Client) (w : World) (purpose : Purpose) (hop : Nat) (d : Draft)
    (j : Journal) :
    ∃ es, j.Gains (c.exchange purpose hop d w j).2 { exchanges := es } ∧
      Attempt c w purpose hop d es (c.exchange purpose hop d w j).1 := by
  unfold Client.exchange
  by_cases hr : c.reaches w d.url = true
  · by_cases ho : w.isOver j = true
    · simp only [hr, ho, Bool.not_true, Bool.false_eq_true, if_false, if_true]
      exact ⟨[], by constructor <;> simp, .late hr (deadline_of_isOver ho)⟩
    · simp only [hr, ho, Bool.not_true, Bool.false_eq_true, if_false]
      cases hb : d.payload.draw with
      | mk taken body =>
        have htaken : taken = d.payload.draw.1 := by rw [hb]
        cases body with
        | none =>
          rw [htaken]
          exact ⟨[], by constructor <;> simp, .incomplete hr (by rw [hb])⟩
        | some body =>
          rw [htaken]
          let answer := w.server.answer j.requests (d.request body)
          let e : Exchange := ⟨purpose, hop, j.elapsed, d.request body, answer⟩
          have hs : c.Sends w purpose hop d e := ⟨rfl, rfl, hr, body, by rw [hb], rfl⟩
          obtain ⟨t, ht, hcases⟩ := await_cases c w e (j.record e) rfl
          refine ⟨[e], gains_exchanges (t := t) ht, ?_⟩
          obtain ⟨r, hreact, hreply⟩ | ⟨hreact, hreply⟩ | ⟨hreact, hreply, hd⟩ := hcases
          · simpa only [e] using hreact ▸ Attempt.replied hs hreply
          · simpa only [e] using hreact ▸ Attempt.unanswered hs hreply
          · simpa only [e] using hreact ▸ Attempt.abandoned hs hreply hd
  · simp only [Bool.not_eq_true] at hr
    simp only [hr, Bool.not_false, if_true]
    exact ⟨[], by constructor <;> simp, .unreached hr⟩

/-! ## Trails -/

/-- The exchanges and the delivery that can come of a draft, which is the request after so many
redirects. Redirects are followed as long as they lead to something that can be asked. -/
inductive Trail (c : Client) (w : World) (purpose : Purpose) (first : Url) :
    (hop : Nat) → Draft → List Exchange → Sent → Prop where
  | interrupted {hop : Nat} {d : Draft} {es : List Exchange} {taken : Stream}
      (h : Attempt c w purpose hop d es (.interrupted, taken)) :
      Trail c w purpose first hop d es ⟨.interrupted, taken⟩
  | unanswered {hop : Nat} {d : Draft} {es : List Exchange} {taken : Stream}
      (h : Attempt c w purpose hop d es (.nothing, taken)) :
      Trail c w purpose first hop d es ⟨.failed (.unanswered first), taken⟩
  | answered {hop : Nat} {d : Draft} {e : Exchange} {r : Reply} (h : c.Sends w purpose hop d e)
      (hr : c.reply? w e = some r) (hn : d.next? c.keepsMethod r = none) :
      Trail c w purpose first hop d [e] ⟨.answered r.response, d.payload.draw.1⟩
  | astray {hop : Nat} {d next : Draft} {e : Exchange} {r : Reply} {f : ClientError}
      (h : c.Sends w purpose hop d e) (hr : c.reply? w e = some r) (hn : d.next? c.keepsMethod r = some next)
      (hf : f = .tooManyRedirects first ∨ f = .unusable (some next.url)) :
      Trail c w purpose first hop d [e] ⟨.failed f, d.payload.draw.1⟩
  | redirected {hop : Nat} {d next : Draft} {e : Exchange} {r : Reply} {es : List Exchange}
      {sent : Sent} (h : c.Sends w purpose hop d e) (hr : c.reply? w e = some r)
      (hn : d.next? c.keepsMethod r = some next) (rest : Trail c w purpose first (hop + 1) next es sent) :
      Trail c w purpose first hop d (e :: es) ⟨sent.delivery, d.payload.draw.1⟩

/-- **Following redirects leaves a trail**, and nothing else in the journal. -/
theorem follow_trail (c : Client) (purpose : Purpose) (first : Url) (w : World) (left hop : Nat)
    (d : Draft) (j : Journal) :
    ∃ es, j.Gains (c.follow purpose first w left hop d j).2 { exchanges := es } ∧
      Trail c w purpose first hop d es (c.follow purpose first w left hop d j).1 := by
  have attempt {hop d} {j k : Journal} {reaction : Reaction} {taken : Stream}
      (he : c.exchange purpose hop d w j = ((reaction, taken), k)) :
      ∃ es, j.Gains k { exchanges := es } ∧ Attempt c w purpose hop d es (reaction, taken) := by
    simpa only [he] using exchange_attempt c w purpose hop d j
  -- Along the client's own recursion: all cases but the last end the trail with one attempt.
  fun_induction Client.follow c purpose first w left hop d j with
  | case1 left hop d j taken k he =>
    obtain ⟨es, hg, ha⟩ := attempt he
    exact ⟨es, hg, .interrupted ha⟩
  | case2 left hop d j taken k he =>
    obtain ⟨es, hg, ha⟩ := attempt he
    exact ⟨es, hg, .unanswered ha⟩
  | case3 left hop d j r taken k he hn =>
    obtain ⟨es, hg, ha⟩ := attempt he
    cases ha with
    | replied hs hr => exact ⟨_, hg, .answered hs hr hn⟩
  | case4 hop d j r taken k he next hn =>
    obtain ⟨es, hg, ha⟩ := attempt he
    cases ha with
    | replied hs hr => exact ⟨_, hg, .astray hs hr hn (.inl rfl)⟩
  | case5 hop d j r taken k he next left hn hw =>
    obtain ⟨es, hg, ha⟩ := attempt he
    cases ha with
    | replied hs hr => exact ⟨_, hg, .astray hs hr hn (.inr rfl)⟩
  | case6 hop d j r taken k he next left hn hw sent k' hf ih =>
    obtain ⟨es, hg, ha⟩ := attempt he
    obtain ⟨fs, hg', ht⟩ := ih
    rw [hf] at hg' ht
    cases ha with
    | replied hs hr => exact ⟨_, hg.trans hg', .redirected hs hr hn ht⟩

/-- The exchanges of an attempt are requests of its draft, at most one. -/
theorem Attempt.sends {es : List Exchange} {x : Reaction × Stream}
    (h : Attempt c w purpose hop d es x) : ∀ e ∈ es, c.Sends w purpose hop d e := by
  cases h with
  | unreached | late | incomplete => simp
  | unanswered h | abandoned h | replied h => simpa using h

theorem Attempt.hops {es : List Exchange} {x : Reaction × Stream}
    (h : Attempt c w purpose hop d es x) : es.map Exchange.hop = List.range' hop es.length := by
  cases h with
  | unreached | late | incomplete => rfl
  | unanswered h | abandoned h | replied h => simp [h.hop]

theorem Attempt.taken_eq {es : List Exchange} {x : Reaction × Stream}
    (h : Attempt c w purpose hop d es x) (hne : es ≠ []) :
    x.2 = d.payload.draw.1 ∧ ∃ body, d.payload.draw.2 = some body := by
  cases h with
  | unreached | late | incomplete => exact absurd rfl hne
  | unanswered h | abandoned h | replied h => exact ⟨rfl, h.request.imp fun _ hb => hb.1⟩

namespace Trail

variable {es : List Exchange} {sent : Sent}

theorem purpose_eq (h : Trail c w purpose first hop d es sent) : ∀ e ∈ es, e.purpose = purpose := by
  induction h with
  | interrupted h | unanswered h => exact fun e he => (h.sends e he).purpose
  | answered h | astray h => simp [h.purpose]
  | redirected h _ _ _ ih =>
    intro e he
    rcases List.mem_cons.1 he with rfl | he
    · exact h.purpose
    · exact ih e he

theorem hop_le (h : Trail c w purpose first hop d es sent) : ∀ e ∈ es, hop ≤ e.hop := by
  induction h with
  | interrupted h | unanswered h => exact fun e he => Nat.le_of_eq (h.sends e he).hop.symm
  | answered h | astray h => simp [h.hop]
  | redirected h _ _ _ ih =>
    intro e he
    rcases List.mem_cons.1 he with rfl | he
    · exact Nat.le_of_eq h.hop.symm
    · exact Nat.le_of_succ_le (ih e he)

/-- The redirects of a trail are counted one after the other. -/
theorem hops (h : Trail c w purpose first hop d es sent) :
    es.map Exchange.hop = List.range' hop es.length := by
  induction h with
  | interrupted h | unanswered h => exact h.hops
  | answered h | astray h => simp [h.hop]
  | redirected h _ _ _ ih => simp [h.hop, ih, List.range'_succ]

/-- The first exchange of a trail is the request of its draft, and the others come of the redirect
that it got. -/
theorem head_tail {e : Exchange} (h : Trail c w purpose first hop d (e :: es) sent) :
    c.Sends w purpose hop d e ∧
      (es = [] ∨ ∃ r next s, c.reply? w e = some r ∧ d.next? c.keepsMethod r = some next ∧
        Trail c w purpose first (hop + 1) next es s) := by
  cases h with
  | interrupted h | unanswered h =>
    refine ⟨h.sends e (by simp), .inl ?_⟩
    cases h
    rfl
  | answered h | astray h => exact ⟨h, .inl rfl⟩
  | redirected h hr hn rest => exact ⟨h, .inr ⟨_, _, _, hr, hn, rest⟩⟩

/-- **An answer is the reply of the last exchange**, and one that leads nowhere else. -/
theorem answered_last {resp : Response} {taken : Stream}
    (h : Trail c w purpose first hop d es ⟨.answered resp, taken⟩) :
    ∃ front e r, es = front ++ [e] ∧ c.reply? w e = some r ∧ resp = r.response := by
  -- A redirect keeps the delivery of what follows and not its items, so these have to stay open.
  generalize hs : (⟨.answered resp, taken⟩ : Sent) = sent at h
  induction h generalizing taken with
  | interrupted | unanswered | astray => cases hs
  | answered h hr hn =>
    obtain ⟨rfl, -⟩ := Sent.mk.inj hs |>.imp_left Delivery.answered.inj
    exact ⟨[], _, _, rfl, hr, rfl⟩
  | @redirected hop d next e r es sent h hr hn rest ih =>
    have hd : (⟨.answered resp, sent.taken⟩ : Sent) = sent := by
      rw [(Sent.mk.inj hs).1]
    obtain ⟨front, f, r, rfl, hf⟩ := ih hd
    exact ⟨e :: front, f, r, rfl, hf⟩

/-- **A reply that leads nowhere else is the answer**, and without a reply there is none. -/
theorem head_delivery {e : Exchange} (h : Trail c w purpose first hop d (e :: es) sent) :
    (c.reply? w e = none ∧ es = [] ∧ ∀ resp, sent.delivery ≠ .answered resp) ∨
      ∃ r, c.reply? w e = some r ∧
        (d.next? c.keepsMethod r = none → es = [] ∧ sent.delivery = .answered r.response) ∧
        ∀ next resp, d.next? c.keepsMethod r = some next → sent.delivery = .answered resp →
          ∃ front last r', es = front ++ [last] ∧ c.reply? w last = some r' ∧ resp = r'.response := by
  cases h with
  | interrupted h =>
    cases h with
    | abandoned h hr => exact .inl ⟨hr, rfl, fun resp hd => nomatch hd⟩
  | unanswered h =>
    cases h with
    | unanswered h hr => exact .inl ⟨hr, rfl, fun resp hd => nomatch hd⟩
  | @answered _ _ _ r h hr hn =>
    refine .inr ⟨r, hr, fun _ => ⟨rfl, rfl⟩, fun next resp hn' => ?_⟩
    rw [hn] at hn'
    cases hn'
  | @astray _ _ _ _ r _ h hr hn =>
    refine .inr ⟨r, hr, fun hn' => ?_, fun next resp _ hd => nomatch hd⟩
    rw [hn] at hn'
    cases hn'
  | @redirected _ _ _ _ r _ sent h hr hn rest =>
    refine .inr ⟨r, hr, fun hn' => ?_, fun next resp _ hd => ?_⟩
    · rw [hn] at hn'
      cases hn'
    · obtain ⟨delivery, taken⟩ := sent
      cases hd
      exact rest.answered_last

/-- The items that were taken are those that the request of the draft needs, when it was sent. -/
theorem taken_eq (h : Trail c w purpose first hop d es sent) (hne : es ≠ []) :
    sent.taken = d.payload.draw.1 ∧ ∃ body, d.payload.draw.2 = some body := by
  cases h with
  | interrupted h | unanswered h => exact h.taken_eq hne
  | answered h | astray h | redirected h => exact ⟨rfl, h.request.imp fun _ hb => hb.1⟩

/-- Only a deadline interrupts. -/
theorem deadline_of_interrupted (h : Trail c w purpose first hop d es sent)
    (hs : sent.delivery = .interrupted) : w.deadline.isSome = true := by
  induction h with
  | interrupted h =>
    cases h with
    | late _ hd | abandoned _ _ hd => exact hd
  | unanswered | answered | astray => cases hs
  | redirected _ _ _ _ ih => exact ih hs

end Trail

/-! ## Redirects -/

/-- A redirect is followed with the same method or asks for content, and asks for content when the body
has passed by. -/
theorem next?_method {d next : Draft} {keeps : Bool} {r : Reply} (h : d.next? keeps r = some next) :
    next.method = .get ∨ (next.method = d.method ∧ d.payload.isStreamed = false) := by
  unfold Draft.next? at h
  cases hl : r.location with
  | none => simp [hl] at h
  | some location =>
    simp only [hl, Option.bind_eq_bind, Option.bind_some] at h
    split at h
    · cases h
    · split at h
      · cases h
      · split at h
        · cases h
        · split at h
          · obtain rfl := Option.some.inj h
            exact .inl rfl
          · obtain rfl := Option.some.inj h
            exact .inr ⟨rfl, by simp_all⟩

/-- A redirect that does not ask for content is followed with the same body. -/
theorem next?_payload {d next : Draft} {keeps : Bool} {r : Reply} (h : d.next? keeps r = some next) :
    next.method = .get ∨ next.payload = d.payload := by
  unfold Draft.next? at h
  cases hl : r.location with
  | none => simp [hl] at h
  | some location =>
    simp only [hl, Option.bind_eq_bind, Option.bind_some] at h
    split at h
    · cases h
    · split at h
      · cases h
      · split at h
        · cases h
        · split at h
          · obtain rfl := Option.some.inj h
            exact .inl rfl
          · obtain rfl := Option.some.inj h
            exact .inr rfl

/-- What is followed is a redirect that tells a place, and no repeat of a body that has passed by. -/
theorem redirects_of_next? {d next : Draft} {keeps : Bool} {r : Reply} (h : d.next? keeps r = some next) :
    isRedirect r.status = true ∧ r.location.isSome = true ∧
      (isMove keeps d.method r.status = true ∨ d.payload.isStreamed = false) := by
  unfold Draft.next? at h
  cases hl : r.location with
  | none => simp [hl] at h
  | some location =>
    simp only [hl, Option.bind_eq_bind, Option.bind_some] at h
    split at h
    · cases h
    · next hs =>
      simp only [Bool.not_eq_true, Bool.or_eq_false_iff, Bool.not_eq_false', Bool.and_eq_false_iff] at hs
      exact ⟨hs.1, rfl, hs.2⟩

/-- A redirect of a body that has passed by is one of those that are followed with a plain request. -/
theorem isMove_of_next? {d next : Draft} {keeps : Bool} {r : Reply} (h : d.next? keeps r = some next)
    (hd : d.payload.isStreamed = true) :
    isMove keeps d.method r.status = true ∧ r.location.isSome = true := by
  obtain ⟨-, hlocation, hmove | hwhole⟩ := redirects_of_next? h
  · exact ⟨hmove, hlocation⟩
  · rw [hd] at hwhole
    cases hwhole

/-- An attempt whose request has got a reply goes on with it. -/
theorem Attempt.silent {es : List Exchange} {e : Exchange} {x : Reaction × Stream}
    (h : Attempt c w purpose hop d es x) (he : es.getLast? = some e) (hx : ∀ r, x.1 ≠ .reply r) :
    c.reply? w e = none := by
  cases h with
  | unreached | late | incomplete => cases he
  | unanswered _ hr | abandoned _ hr =>
    obtain rfl := Option.some.inj he
    exact hr
  | replied => exact absurd rfl (hx _)

/-- **The reply to the last request is the answer**, or a redirect that has led nowhere. -/
theorem Trail.last_delivery {es : List Exchange} {e : Exchange} {sent : Sent} {r : Reply}
    (h : Trail c w purpose first hop d es sent) (he : es.getLast? = some e) (hr : c.reply? w e = some r) :
    sent.delivery = .answered r.response ∨
      isRedirect r.status = true ∧ r.location.isSome = true := by
  induction h with
  | interrupted h | unanswered h =>
    rw [h.silent he (by simp)] at hr
    cases hr
  | answered h hr' =>
    obtain rfl := Option.some.inj he
    obtain rfl := Option.some.inj (hr'.symm.trans hr)
    exact .inl rfl
  | astray h hr' hn =>
    obtain rfl := Option.some.inj he
    obtain rfl := Option.some.inj (hr'.symm.trans hr)
    exact .inr ⟨(redirects_of_next? hn).1, (redirects_of_next? hn).2.1⟩
  | @redirected _ _ _ _ _ es _ h hr' hn rest ih =>
    cases es with
    | nil =>
      obtain rfl := Option.some.inj he
      obtain rfl := Option.some.inj (hr'.symm.trans hr)
      exact .inr ⟨(redirects_of_next? hn).1, (redirects_of_next? hn).2.1⟩
    | cons f fs => exact ih (by rwa [List.getLast?_cons_cons] at he)

/-- The requests of a trail have the method of its draft or ask for content. -/
theorem Trail.methods {es : List Exchange} {sent : Sent} (h : Trail c w purpose first hop d es sent) :
    ∀ e ∈ es, e.request.method = d.method ∨ e.request.method = .get := by
  have method_eq {hop : Nat} {d : Draft} {e : Exchange} (hs : c.Sends w purpose hop d e) :
      e.request.method = d.method := by
    obtain ⟨body, -, he⟩ := hs.request
    rw [he]
    rfl
  induction h with
  | interrupted h | unanswered h => exact fun e he => .inl (method_eq (h.sends e he))
  | answered h | astray h => simp [method_eq h]
  | redirected h _ hn _ ih =>
    intro e he
    rcases List.mem_cons.1 he with rfl | he
    · exact .inl (method_eq h)
    · rcases next?_method hn with hget | ⟨hsame, -⟩
      · exact .inr ((ih e he).elim (fun hm => hm.trans hget) id)
      · exact (ih e he).imp_left fun hm => hm.trans hsame

/-- The requests of a trail carry the body of its draft or ask for content. -/
theorem Trail.carries {es : List Exchange} {sent : Sent} (h : Trail c w purpose first hop d es sent) :
    ∀ e ∈ es, e.request.method = .get ∨ d.payload.draw.2 = some e.request.body := by
  have carries {hop : Nat} {d : Draft} {e : Exchange} (hs : c.Sends w purpose hop d e) :
      d.payload.draw.2 = some e.request.body := by
    obtain ⟨body, hb, he⟩ := hs.request
    rw [he]
    exact hb
  induction h with
  | interrupted h | unanswered h => exact fun e he => .inr (carries (h.sends e he))
  | answered h | astray h => simp [carries h]
  | redirected h _ hn rest ih =>
    intro e he
    rcases List.mem_cons.1 he with rfl | he
    · exact .inr (carries h)
    · rcases next?_payload hn with hget | hsame
      · exact .inl ((rest.methods e he).elim (fun hm => hm.trans hget) id)
      · rw [← hsame]
        exact ih e he

/-- **A body that passes by is sent once**: the requests after the first one only ask for content. -/
theorem Trail.tail_get {e : Exchange} {es : List Exchange} {sent : Sent}
    (h : Trail c w purpose first hop d (e :: es) sent) (hd : d.payload.isStreamed = true) :
    ∀ f ∈ es, f.request.method = .get := by
  obtain ⟨-, rfl | ⟨r, next, s, -, hn, tail⟩⟩ := h.head_tail
  · simp
  · rcases next?_method hn with hget | ⟨-, hs⟩
    · exact fun f hf => (tail.methods f hf).elim (fun hm => hm.trans hget) id
    · rw [hd] at hs
      cases hs

/-! ## Orders -/

/-- What the draft of an order keeps of it. -/
theorem Order.draft_ok {o : Order} {d : Draft} (h : o.draft = .ok d) :
    d.method = o.method ∧ d.payload = o.payload ∧
      ∃ url, Url.read o.url = .ok url ∧ d.url.withoutUser = url.withoutUser := by
  unfold Order.draft at h
  split at h
  · cases h
  · next url hu =>
    split at h
    · cases h
    · split at h
      · cases h
      · simp only at h
        split at h
        · cases h
        · simp only [Except.ok.injEq] at h
          rw [← h]
          exact ⟨rfl, rfl, url, hu, Target.ofUrl_url url⟩

/-- Whether a client goes elsewhere with an order when this is the reply. -/
def Client.goesOn (c : Client) (o : Order) (r : Reply) : Prop :=
  ∃ d next, o.draft = .ok d ∧ d.next? c.keepsMethod r = some next

theorem Client.isMove_of_goesOn {o : Order} {r : Reply} (h : c.goesOn o r)
    (ho : o.payload.isStreamed = true) :
    isMove c.keepsMethod o.method r.status = true ∧ r.location.isSome = true := by
  obtain ⟨d, next, hd, hn⟩ := h
  obtain ⟨hmethod, hpayload, -⟩ := Order.draft_ok hd
  rw [← hmethod]
  exact isMove_of_next? hn (hpayload ▸ ho)

namespace Client

/-- The exchanges and the delivery that can come of an order. -/
inductive Sending (c : Client) (w : World) (o : Order) : List Exchange → Sent → Prop where
  | unusable {f : ClientError} (h : o.draft = .error f) : Sending c w o [] ⟨.failed f, []⟩
  | sent {d : Draft} {es : List Exchange} {sent : Sent} (h : o.draft = .ok d)
      (trail : Trail c w o.purpose d.url 0 d es sent) : Sending c w o es sent

theorem send_gains (c : Client) (w : World) (o : Order) (j : Journal) :
    ∃ es, j.Gains (c.send o w j).2 { exchanges := es } ∧ c.Sending w o es (c.send o w j).1 := by
  unfold Client.send
  split
  · next f h => exact ⟨[], .refl j, .unusable h⟩
  · next d h =>
    obtain ⟨es, hg, ht⟩ := follow_trail c o.purpose d.url w mostRedirects 0 d j
    exact ⟨es, hg, .sent h ht⟩

/-- **Sending an order**, as it is seen from outside. -/
theorem send_quietly (c : Client) (w : World) (o : Order) :
    (Act.ofRun (c.send o)).Quietly w fun es r => ∃ sent, r = .ok sent ∧ c.Sending w o es sent := by
  intro j
  obtain ⟨es, hg, hs⟩ := c.send_gains w o j
  exact ⟨_, hg, ⟨rfl, rfl, rfl⟩, _, rfl, hs⟩

theorem ask_quietly (c : Client) (w : World) (o : Order) (failure : ClientError → Failure) :
    (c.ask o failure).Quietly w fun es r =>
      ∃ sent, c.Sending w o es sent ∧ r = sent.response failure := by
  refine (c.send_quietly w o).bind (by rintro es h ⟨sent, hs, -⟩; cases hs) ?_
  rintro es sent ⟨sent', hs, h⟩
  cases hs
  exact Act.quietly_conclude _ ⟨sent, by simpa using h, rfl⟩

namespace Sending

variable {o : Order} {es : List Exchange} {sent : Sent}

theorem purpose_eq (h : c.Sending w o es sent) : ∀ e ∈ es, e.purpose = o.purpose := by
  cases h with
  | unusable => simp
  | sent _ trail => exact trail.purpose_eq

/-- Two exchanges of an order are not both the first. -/
theorem hop_pos_of_mem_tail {e : Exchange} (h : c.Sending w o (e :: es) sent) :
    ∀ f ∈ es, 0 < f.hop := by
  cases h with
  | sent _ trail =>
    obtain ⟨-, rfl | ⟨r, next, s, -, -, tail⟩⟩ := trail.head_tail
    · simp
    · exact tail.hop_le

/-- The redirects are counted. -/
theorem hops (h : c.Sending w o es sent) : es.map Exchange.hop = List.range es.length := by
  cases h with
  | unusable => rfl
  | sent _ trail => rw [trail.hops, List.range_eq_range']

/-- The first exchange of an order is the request of its draft. -/
theorem head_sends {e : Exchange} (h : c.Sending w o (e :: es) sent) :
    ∃ d, o.draft = .ok d ∧ c.Sends w o.purpose 0 d e := by
  cases h with
  | sent hd trail => exact ⟨_, hd, trail.head_tail.1⟩

/-- The first exchange of an order carries what the order says. -/
theorem head_request {e : Exchange} (h : c.Sending w o (e :: es) sent) :
    e.hop = 0 ∧ e.request.method = o.method ∧ o.payload.draw.2 = some e.request.body ∧
      e.request.contentLength = o.payload.length? ∧
      ∃ url, Url.read o.url = .ok url ∧ e.request.url = url.withoutUser.withoutFragment := by
  cases h with
  | sent hd trail =>
    obtain ⟨hs, -⟩ := trail.head_tail
    obtain ⟨hm, hp, url, hu, hwu⟩ := Order.draft_ok hd
    obtain ⟨body, hb, he⟩ := hs.request
    rw [hp] at hb
    rw [he]
    exact ⟨hs.hop, hm, hb, congrArg Payload.length? hp, url, hu, congrArg Url.withoutFragment hwu⟩

/-- The requests of an order have its method or ask for content. -/
theorem methods (h : c.Sending w o es sent) :
    ∀ e ∈ es, e.request.method = o.method ∨ e.request.method = .get := by
  cases h with
  | unusable => simp
  | sent hd trail =>
    intro e he
    rw [← (Order.draft_ok hd).1]
    exact trail.methods e he

/-- The requests of an order carry its body or ask for content. -/
theorem carries (h : c.Sending w o es sent) :
    ∀ e ∈ es, e.request.method = .get ∨ o.payload.draw.2 = some e.request.body := by
  cases h with
  | unusable => simp
  | sent hd trail =>
    rw [← (Order.draft_ok hd).2.1]
    exact trail.carries

/-- Content that passes by is sent once. -/
theorem tail_get {e : Exchange} (h : c.Sending w o (e :: es) sent) (ho : o.payload.isStreamed = true) :
    ∀ f ∈ es, f.request.method = .get := by
  cases h with
  | sent hd trail =>
    rw [← (Order.draft_ok hd).2.1] at ho
    exact trail.tail_get ho

/-- A reply to the first request that leads nowhere else is the answer, and without a reply there is
none. -/
theorem head_delivery {e : Exchange} (h : c.Sending w o (e :: es) sent) :
    (c.reply? w e = none ∧ es = [] ∧ ∀ resp, sent.delivery ≠ .answered resp) ∨
      ∃ r, c.reply? w e = some r ∧
        (¬ c.goesOn o r → es = [] ∧ sent.delivery = .answered r.response) ∧
        ∀ resp, c.goesOn o r → sent.delivery = .answered resp →
          ∃ front last r', es = front ++ [last] ∧ c.reply? w last = some r' ∧ resp = r'.response := by
  cases h with
  | @sent d _ _ hd trail =>
    refine trail.head_delivery.imp_right fun ⟨r, hr, hstays, hgoes⟩ => ⟨r, hr, fun hn => ?_, ?_⟩
    · refine hstays ?_
      cases hn' : d.next? c.keepsMethod r with
      | none => rfl
      | some next => exact absurd ⟨d, next, hd, hn'⟩ hn
    · rintro resp ⟨d', next, hd', hn⟩ hanswered
      obtain rfl := Except.ok.inj (hd.symm.trans hd')
      exact hgoes next resp hn hanswered

/-- The items that were taken are those that the body needs, when the request was sent. -/
theorem taken_eq (h : c.Sending w o es sent) (hne : es ≠ []) : sent.taken = o.payload.draw.1 := by
  cases h with
  | unusable => exact absurd rfl hne
  | sent hd trail =>
    rw [← (Order.draft_ok hd).2.1]
    exact (trail.taken_eq hne).1

/-- The reply to the last request is the answer, or a redirect that has led nowhere. -/
theorem last_delivery {e : Exchange} {r : Reply} (h : c.Sending w o es sent) (he : es.getLast? = some e)
    (hr : c.reply? w e = some r) :
    sent.delivery = .answered r.response ∨
      isRedirect r.status = true ∧ r.location.isSome = true := by
  cases h with
  | unusable => cases he
  | sent _ trail => exact trail.last_delivery he hr

/-- Without a deadline nothing is interrupted. -/
theorem not_interrupted (h : c.Sending w o es sent) (hw : w.deadline = none) :
    sent.delivery ≠ .interrupted := by
  intro hs
  cases h with
  | unusable => cases hs
  | sent _ trail =>
    have hsome := trail.deadline_of_interrupted hs
    rw [hw] at hsome
    cases hsome

/-- When a body is not complete nothing is sent. It has been drawn as far as it goes when a server can be
reached, and not at all otherwise. -/
theorem incomplete (h : c.Sending w o es sent) (hb : o.payload.draw.2 = none)
    (hw : w.deadline = none) :
    es = [] ∧ (∀ r, sent.delivery ≠ .answered r) ∧
      ((∃ d, o.draft = .ok d ∧ c.reaches w d.url = true) → sent.taken = o.payload.draw.1) ∧
      ((¬ ∃ d, o.draft = .ok d ∧ c.reaches w d.url = true) → sent.taken = []) := by
  cases h with
  | unusable h =>
    refine ⟨rfl, by simp, ?_, fun _ => rfl⟩
    rintro ⟨d, hd, -⟩
    rw [h] at hd
    cases hd
  | @sent d _ _ hd trail =>
    rw [← (Order.draft_ok hd).2.1] at hb ⊢
    have unsent {e : Exchange} (hs : c.Sends w o.purpose 0 d e) : False := by
      obtain ⟨body, hbody, -⟩ := hs.request
      rw [hb] at hbody
      cases hbody
    cases trail with
    | interrupted h =>
      cases h with
      | late _ hsome => rw [hw] at hsome; cases hsome
      | abandoned hs => exact (unsent hs).elim
    | unanswered h =>
      cases h with
      | unreached hr =>
        refine ⟨rfl, by simp, ?_, fun _ => rfl⟩
        rintro ⟨d', hd', hr'⟩
        obtain rfl := Except.ok.inj (hd.symm.trans hd')
        rw [hr] at hr'
        cases hr'
      | incomplete hr => exact ⟨rfl, by simp, fun _ => rfl, fun hno => absurd ⟨d, hd, hr⟩ hno⟩
      | unanswered hs => exact (unsent hs).elim
    | answered hs | astray hs | redirected hs => exact (unsent hs).elim

/-- What is taken of a body is what it needs, or nothing. -/
theorem taken_cases (h : c.Sending w o es sent) :
    sent.taken = [] ∨ sent.taken = o.payload.draw.1 := by
  cases h with
  | unusable => exact .inl rfl
  | @sent d _ _ hd trail =>
    rw [← (Order.draft_ok hd).2.1]
    cases trail with
    | interrupted h =>
      cases h with
      | late => exact .inl rfl
      | abandoned => exact .inr rfl
    | unanswered h =>
      cases h with
      | unreached => exact .inl rfl
      | incomplete | unanswered => exact .inr rfl
    | answered | astray | redirected => exact .inr rfl

/-- An answer is the reply of the last exchange. -/
theorem answered_last {resp : Response} (h : c.Sending w o es sent)
    (hd : sent.delivery = .answered resp) :
    ∃ front e r, es = front ++ [e] ∧ c.reply? w e = some r ∧ resp = r.response := by
  cases h with
  | unusable => cases hd
  | sent _ trail =>
    obtain ⟨delivery, taken⟩ := sent
    cases hd
    exact trail.answered_last

end Sending

end Client

end ContentCache.Http
