import ContentCache.Proofs.Beside
import ContentCache.Proofs.Http.Trail

/-!
# Credentials on the way

A client sends orders that differ in their bearer token side by side. The token becomes the credentials of
the first request and stays with the requests that follow it to the same host and port; a redirect that
leads elsewhere leaves it behind, and from there on the runs are the same. Credentials that come from a URL
are never a bearer token.

* `Draft.Agrees`: requests to be sent that differ in credentials, if these have stayed at their host.
* `Order.Beside`: neither order can be sent, or their drafts agree.

Main statements: `next?_authorization` (credentials make no difference to a redirect), `follow_beside` and
`ask_beside`.
-/

namespace ContentCache.Http

variable {L : Leeway} {purpose : Purpose} {d e : Draft}

/-! ## Kinds of credentials -/

/-- Blanks at the ends do not reach over a second character that is none. -/
theorem fieldValue_second {value : String} {a b : Char} {rest : List Char}
    (h : value.toList = a :: b :: rest) (ha : isFieldBlank a = false) (hb : isFieldBlank b = false) :
    ∃ rest', (fieldValue value).toList = a :: b :: rest' := by
  unfold fieldValue
  rw [String.toList_ofList, h, List.dropWhile_cons_of_neg (by simp [ha])]
  have hreverse : (a :: b :: rest).reverse = rest.reverse ++ [b, a] := by simp
  rw [hreverse, List.dropWhile_append]
  split
  · rw [List.dropWhile_cons_of_neg (by simp [hb])]
    exact ⟨[], rfl⟩
  · exact ⟨(rest.reverse.dropWhile isFieldBlank).reverse, by simp⟩

/-- A user name and a password are no bearer token. -/
theorem not_isBearer_basic (user password : String) :
    ¬ IsBearer (some (fieldValue (basicCredentials user password))) := by
  rintro ⟨token, h⟩
  have hbasic : (basicCredentials user password).toList =
      'B' :: 'a' :: ("sic ".toList ++ (base64 (Bytes.ofText (user ++ ":" ++ password))).toList) := by
    simp [basicCredentials]
  have hbearer : (bearerCredentials token).toList = 'B' :: 'e' :: ("arer ".toList ++ token.toList) := by
    simp [bearerCredentials]
  obtain ⟨s, hs⟩ := fieldValue_second hbasic (by decide) (by decide)
  obtain ⟨t, ht⟩ := fieldValue_second hbearer (by decide) (by decide)
  rw [Option.some.inj h, ht] at hs
  cases hs

theorem not_isBearer_none : ¬ IsBearer none := by
  rintro ⟨token, h⟩
  cases h

/-! ## Origins -/

theorem hostText_withoutUser (u : Url) : u.withoutUser.hostText = u.hostText := by
  cases hu : u.authority <;> simp [Url.withoutUser, Url.hostText, Url.host, hu]

theorem connectionPort_withoutUser (u : Url) : connectionPort u.withoutUser = connectionPort u := by
  cases hu : u.authority <;> simp [Url.withoutUser, connectionPort, Url.port, hu]

/-- What a server sees of URLs has the same origin as they have. -/
theorem sameOrigin_asked (u v : Url) :
    sameOrigin u.withoutUser.withoutFragment v.withoutUser.withoutFragment = sameOrigin u v := by
  have host (x : Url) : x.withoutUser.withoutFragment.hostText = x.hostText := hostText_withoutUser x
  have port (x : Url) : connectionPort x.withoutUser.withoutFragment = connectionPort x :=
    connectionPort_withoutUser x
  simp only [sameOrigin, host, port]

/-! ## Drafts -/

/-- Behind what has been exchanged, the request of a draft has stayed at its host and port. -/
def Draft.Stays (d : Draft) (purpose : Purpose) (hop : Nat) (es : List Exchange) : Prop :=
  ∀ e : Exchange, e.purpose = purpose → e.hop = hop →
    e.request.url = d.url.withoutUser.withoutFragment → StaysAtHost (es ++ [e])

/-- The first request of an order is not redirected. -/
theorem Draft.stays_first (d : Draft) (purpose : Purpose) (es : List Exchange) :
    d.Stays purpose 0 es := fun _ _ hop _ => .first hop

/-- Drafts that differ in their credentials, if these may differ and have not left their host. -/
structure Draft.Agrees (L : Leeway) (purpose : Purpose) (hop : Nat) (es : List Exchange)
    (d e : Draft) : Prop where
  same : e = { d with authorization := e.authorization }
  free : d.authorization = e.authorization ∨ (L.free purpose ∧ d.Stays purpose hop es)
  /-- Only calls of the metadata service carry a bearer token. -/
  plain : (∃ method, purpose = .call method) ∨ ¬ IsBearer (d.authorization.map fieldValue)

theorem Draft.agrees_refl {hop : Nat} {es : List Exchange}
    (h : (∃ method, purpose = .call method) ∨ ¬ IsBearer (d.authorization.map fieldValue)) :
    d.Agrees L purpose hop es d := ⟨rfl, .inl rfl, h⟩

/-- **Credentials make no difference to a redirect**: they are kept on the way to the same host and port,
and left behind on every other way. -/
theorem next?_authorization (d : Draft) (authorization : Option String) (keeps : Bool) (r : Reply) :
    ({ d with authorization } : Draft).next? keeps r = (d.next? keeps r).map fun n =>
      { n with authorization := if sameOrigin n.url d.url then authorization else none } := by
  unfold Draft.next?
  cases r.location with
  | none => rfl
  | some location =>
    simp only [Option.bind_eq_bind, Option.bind_some]
    split
    · rfl
    · cases Url.readFrom d.url location with
      | error f => rfl
      | ok url =>
        simp only
        split
        · rfl
        · split <;> rfl

/-- Drafts that agree lead to drafts that agree, behind the exchange that has redirected them. -/
theorem Draft.Agrees.next? {hop : Nat} {es : List Exchange} (h : d.Agrees L purpose hop es e)
    {x : Exchange} (hpurpose : x.purpose = purpose) (hhop : x.hop = hop)
    (hurl : x.request.url = d.url.withoutUser.withoutFragment) (keeps : Bool) (r : Reply) :
    Option.Rel (Draft.Agrees L purpose (hop + 1) (es ++ [x])) (d.next? keeps r) (e.next? keeps r) := by
  have hd := next?_authorization d d.authorization keeps r
  have he := next?_authorization d e.authorization keeps r
  rw [← h.same] at he
  rw [he]
  cases hn : d.next? keeps r with
  | none => exact .none
  | some n =>
    have hkept : n.authorization = if sameOrigin n.url d.url then d.authorization else none := by
      rw [hn] at hd
      exact congrArg Draft.authorization (Option.some.inj hd)
    refine .some ⟨rfl, ?_, ?_⟩
    · show n.authorization = (if sameOrigin n.url d.url then e.authorization else none) ∨ _
      rw [hkept]
      split
      · next hsame =>
        refine h.free.imp id fun ⟨free, stays⟩ => ⟨free, ?_⟩
        intro y hy hyhop hyurl
        refine .redirected (stays x hpurpose hhop hurl) (by rw [hyhop, hhop]) (by rw [hy, hpurpose]) ?_
        rw [hyurl, hurl, sameOrigin_asked]
        exact hsame
      · exact .inl rfl
    · refine h.plain.imp id fun plain => ?_
      rw [hkept]
      split
      · exact plain
      · exact not_isBearer_none

namespace Client

variable {w : World} {j k : Journal}

/-! ## Sending -/

theorem giveUp_beside (hj : j.Agrees L k) (w : World) (last : Time.Span) :
    (giveUp w j last).1 = (giveUp w k last).1 ∧ (giveUp w j last).2.Agrees L (giveUp w k last).2 := by
  unfold giveUp
  split
  · split
    · exact ⟨rfl, hj.atTime _⟩
    · exact ⟨rfl, hj.atTime _⟩
  · exact ⟨rfl, hj.atTime _⟩

theorem await_beside (hj : j.Agrees L k) (c : Client) (w : World) (answer : Answer) :
    (c.await w answer j).1 = (c.await w answer k).1 ∧
      (c.await w answer j).2.Agrees L (c.await w answer k).2 := by
  cases answer with
  | dropped => exact ⟨rfl, hj⟩
  | hangs =>
    simp only [await, hj.elapsed]
    exact giveUp_beside hj w _
  | reply after r =>
    simp only [await, hj.elapsed, (hj.atTime (k.elapsed.plus after)).isOver w]
    split
    · exact ⟨rfl, hj.atTime _⟩
    · exact giveUp_beside hj w _

/-- The requests of drafts that agree are the same, or the same but for credentials. -/
theorem request_agrees {hop : Nat} {es : List Exchange} (h : d.Agrees L purpose hop es e)
    (body : Bytes) :
    d.request body = e.request body ∨
      ((d.request body).anonymous = (e.request body).anonymous ∧ L.free purpose ∧
        d.Stays purpose hop es) := by
  rw [h.same]
  exact h.free.imp (fun same => by rw [← same]) fun free => ⟨rfl, free⟩

theorem exchange_beside (hw : w.server.Indifferent L) (hj : j.Agrees L k) {hop : Nat}
    (h : d.Agrees L purpose hop j.exchanges e) (c : Client) :
    (c.exchange purpose hop d w j).1 = (c.exchange purpose hop e w k).1 ∧
      (c.exchange purpose hop d w j).2.Agrees L (c.exchange purpose hop e w k).2 := by
  have hurl : e.url = d.url := by rw [h.same]
  have hpayload : e.payload = d.payload := by rw [h.same]
  unfold exchange
  rw [hj.isOver w, hurl, hpayload]
  split
  · exact ⟨rfl, hj⟩
  · split
    · exact ⟨rfl, hj⟩
    · cases d.payload.draw with
      | mk taken body =>
        cases body with
        | none => exact ⟨rfl, hj⟩
        | some body =>
          have hrequest := request_agrees h body
          have hanswer : w.server.answer j.requests (d.request body) =
              w.server.answer k.requests (e.request body) :=
            hw _ _ hj.exchanges purpose _ _ (hrequest.imp_right fun ⟨same, free, _⟩ => ⟨same, free⟩)
          have hexchange : Exchanged L
              (j.exchanges ++ [⟨purpose, hop, j.elapsed, d.request body,
                w.server.answer j.requests (d.request body)⟩])
              (k.exchanges ++ [⟨purpose, hop, k.elapsed, e.request body,
                w.server.answer k.requests (e.request body)⟩]) := by
            rw [hanswer, hj.elapsed]
            obtain same | ⟨same, free, stays⟩ := hrequest
            · rw [same]
              refine .common hj.exchanges (L.plain _ (h.plain.imp id fun plain => ?_))
              rw [← same]
              exact plain
            · exact .free hj.exchanges free (stays _ rfl rfl rfl) (by simp [Exchange.anonymous, same])
          obtain ⟨hreaction, hjournals⟩ := await_beside (hj.record hexchange) c w
            (w.server.answer k.requests (e.request body))
          simp only [hanswer] at hreaction hjournals ⊢
          exact ⟨congrArg (·, taken) hreaction, hjournals⟩

/-- A reply is that to the request of the draft, which is exchanged last. -/
theorem exchange_replied {c : Client} {hop : Nat} {r : Reply} {taken : Stream} {j' : Journal}
    (h : c.exchange purpose hop d w j = ((.reply r, taken), j')) :
    ∃ x : Exchange, j'.exchanges = j.exchanges ++ [x] ∧ x.purpose = purpose ∧ x.hop = hop ∧
      x.request.url = d.url.withoutUser.withoutFragment := by
  obtain ⟨es, hgains, attempt⟩ := exchange_attempt c w purpose hop d j
  rw [h] at hgains attempt
  cases attempt with
  | @replied x _ sends =>
    obtain ⟨body, -, hrequest⟩ := sends.request
    exact ⟨x, hgains.exchanges, sends.purpose, sends.hop, by rw [hrequest]; rfl⟩

/-- **Redirects are followed side by side.** -/
theorem follow_beside (hw : w.server.Indifferent L) (c : Client) (first : Url) (left hop : Nat)
    {d e : Draft} {j k : Journal} (h : d.Agrees L purpose hop j.exchanges e) (hj : j.Agrees L k) :
    (c.follow purpose first w left hop d j).1 = (c.follow purpose first w left hop e k).1 ∧
      (c.follow purpose first w left hop d j).2.Agrees L
        (c.follow purpose first w left hop e k).2 := by
  obtain ⟨hreaction, hjournals⟩ := exchange_beside hw hj h c
  rw [follow, follow]
  cases hd : c.exchange purpose hop d w j with
  | mk x j' =>
    cases he : c.exchange purpose hop e w k with
    | mk x' k' =>
      rw [hd, he] at hreaction hjournals
      obtain rfl : x = x' := hreaction
      obtain ⟨reaction, taken⟩ := x
      cases reaction with
      | nothing | interrupted => exact ⟨rfl, hjournals⟩
      | reply r =>
        obtain ⟨x, hexchanges, hpurpose, hhop, hurl⟩ := exchange_replied hd
        have hnext := h.next? hpurpose hhop hurl c.keepsMethod r
        rw [← hexchanges] at hnext
        simp only
        generalize d.next? c.keepsMethod r = next, e.next? c.keepsMethod r = next' at hnext ⊢
        cases hnext with
        | none => exact ⟨rfl, hjournals⟩
        | @some n n' hn =>
          have hurl : n'.url = n.url := by rw [hn.same]
          cases left with
          | zero => exact ⟨rfl, hjournals⟩
          | succ left =>
            simp only [hurl]
            split
            · exact ⟨rfl, hjournals⟩
            · obtain ⟨hsent, hrest⟩ := follow_beside hw c first left (hop + 1) hn hjournals
              exact ⟨by rw [hsent], hrest⟩
termination_by left

end Client

/-! ## Orders -/

/-- Neither order can be sent, or their drafts agree, whatever has been exchanged before. -/
inductive Order.Beside (L : Leeway) (purpose : Purpose) :
    Except ClientError Draft → Except ClientError Draft → Prop
  | error (f : ClientError) : Beside L purpose (.error f) (.error f)
  | ok {d e : Draft} (agrees : ∀ es, d.Agrees L purpose 0 es e) : Beside L purpose (.ok d) (.ok e)

/-- The credentials of a target are none, or a user name and a password. -/
theorem Target.ofUrl_plain (u : Url) :
    ¬ IsBearer ((Target.ofUrl u).credentials.map fieldValue) := by
  unfold Target.ofUrl
  split
  · exact not_isBearer_basic _ _
  · exact not_isBearer_none

/-- An order agrees with itself when it is a call, or has no token. -/
theorem Order.beside_self {o : Order} (h : (∃ method, o.purpose = .call method) ∨ o.token = none) :
    Order.Beside L o.purpose o.draft o.draft := by
  cases hd : o.draft with
  | error f => exact .error f
  | ok d =>
    refine .ok fun _ => Draft.agrees_refl (h.imp id fun hnone => ?_)
    unfold draft at hd
    cases hu : Url.read o.url with
    | error f => simp [hu] at hd
    | ok url =>
      simp only [hu, hnone] at hd
      split at hd
      · cases hd
      · split at hd
        · cases hd
        · split at hd
          · cases hd
          · obtain rfl := Except.ok.inj hd
            exact Target.ofUrl_plain url

/-- Orders of a call agree that have tokens which can be sent, when its credentials may differ. -/
theorem Order.beside_tokens {o : Order} {method : Metadata.Method} {token token' : String}
    (hcall : o.purpose = .call method) (htoken : isHeaderText token = true)
    (htoken' : isHeaderText token' = true) (free : L.free o.purpose) :
    Order.Beside L o.purpose ({ o with token := some token } : Order).draft
      ({ o with token := some token' } : Order).draft := by
  unfold draft
  cases Url.read o.url with
  | error f => exact .error _
  | ok url =>
    simp only [Option.all_some, htoken, htoken']
    split
    · exact .error _
    · split
      · exact .error _
      · split
        · exact .error _
        · exact .ok fun es => ⟨rfl, .inr ⟨free, Draft.stays_first _ _ es⟩, .inl ⟨method, hcall⟩⟩

namespace Client

variable {w : World}

theorem send_beside (hw : w.server.Indifferent L) (c : Client) (o o' : Order)
    (hpurpose : o.purpose = o'.purpose) (h : Order.Beside L o.purpose o.draft o'.draft) :
    Act.Beside L w (Act.ofRun (c.send o)) (Act.ofRun (c.send o')) := by
  refine Act.alongside_ofRun fun j k hj => ?_
  unfold send
  rw [← hpurpose]
  generalize o.draft = x, o'.draft = y at h
  cases h with
  | error f => exact ⟨rfl, hj⟩
  | @ok d e agrees =>
    have hurl : e.url = d.url := by rw [(agrees []).same]
    simp only [hurl]
    exact follow_beside hw c d.url mostRedirects 0 (agrees _) hj

/-- **Orders that agree are sent side by side.** -/
theorem ask_beside (hw : w.server.Indifferent L) (c : Client) (o o' : Order)
    (hpurpose : o.purpose = o'.purpose) (h : Order.Beside L o.purpose o.draft o'.draft)
    (failure : ClientError → Failure) : Act.Beside L w (c.ask o failure) (c.ask o' failure) :=
  (send_beside hw c o o' hpurpose h).bind_same fun _ => Act.alongside_conclude (.refl _ _)

end Client

end ContentCache.Http
