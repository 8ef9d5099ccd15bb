import ContentCache.Proofs.Http.Trail
import ContentCache.Proofs.Twins

/-!
# A client in twin worlds

A client that sends one order in two twin worlds, or an order for a signed URL and for its twin, sends
twin requests in lockstep: both get a reply, or both do not, and both follow a redirect or neither does.
When a redirect leads away from the signed URL, the two runs are the same from there on.

* `Draft.Twin`: requests to be sent that differ in nothing but a signed URL.
* `Sent.Twin`: what becomes of them.

Main statements: `Client.follow_twin`, and `Client.send_twin` and `Client.send_signed` (one order, and an
order for a signed URL and for its twin).
-/

namespace ContentCache.Http

variable {S : SignedPairs} {d e : Draft}

/-! ## Drafts -/

/-- URLs of drafts: those of a signed URL and of its twin, with any fragments. -/
structure SignedUrls (S : SignedPairs) (u v : Url) : Prop where
  bare : u.bare = v.bare
  asked : ∃ s t x y, S.Pair s t ∧ Url.read s = .ok x ∧ Url.read t = .ok y ∧
    u.asked = x.asked ∧ v.asked = y.asked

/-- One draft, or drafts that differ in nothing but a signed URL. -/
inductive Draft.Twin (S : SignedPairs) : Draft → Draft → Prop
  | same (d : Draft) : Twin S d d
  | signed {d : Draft} {u v : Url} (posted : d.method ≠ .post) (urls : SignedUrls S u v) :
      Twin S { d with url := u } { d with url := v }

theorem Draft.Twin.bare (h : d.Twin S e) : d.url.bare = e.url.bare := by
  cases h with
  | same => rfl
  | signed _ urls => exact urls.bare

theorem Draft.Twin.payload (h : d.Twin S e) : d.payload = e.payload := by cases h <;> rfl

theorem Draft.Twin.request (h : d.Twin S e) (body : Bytes) :
    (d.request body).Twin S (e.request body) := by
  cases h with
  | same => exact .same _
  | @signed d u v posted urls =>
    obtain ⟨-, s, t, x, y, pair, left, right, hu, hv⟩ := urls
    have htwin := Request.Twin.signed (r := d.request body) posted pair left right
    rw [← hu, ← hv] at htwin
    exact htwin

/-! ## Replies -/

/-- Replies to twin drafts: one that leads from both or from neither, or two that hand out signed URLs. -/
inductive Reply.Twin (S : SignedPairs) (d e : Draft) : Reply → Reply → Prop
  | same (x : Reply)
      (leads : ∀ location, x.location = some location → leads d.url location = leads e.url location) :
      Twin S d e x x
  | handed {x y : Reply} (posted : d.method = .post) (hands : Metadata.Hands S x y) : Twin S d e x y

/-- Answers that are the same as far as replies go, with twin replies. -/
inductive Answer.Alike (S : SignedPairs) (d e : Draft) : Answer → Answer → Prop
  | reply (after : Time.Span) {x y : Reply} (twin : x.Twin S d e y) :
      Alike S d e (.reply after x) (.reply after y)
  | dropped : Alike S d e .dropped .dropped
  | hangs : Alike S d e .hangs .hangs

inductive Reaction.Twin (S : SignedPairs) (d e : Draft) : Reaction → Reaction → Prop
  | reply {x y : Reply} (twin : x.Twin S d e y) : Twin S d e (.reply x) (.reply y)
  | nothing : Twin S d e .nothing .nothing
  | interrupted : Twin S d e .interrupted .interrupted

/-- URLs that differ in their fragment at most lead to the same places. -/
theorem leads_of_asked {u v : Url} (hbare : u.bare = v.bare) (hasked : u.asked = v.asked)
    (location : String) : leads u location = leads v location := by
  have hquery : u.query = v.query := by
    show u.asked.query = v.asked.query
    rw [hasked]
  have hread := Url.readFrom_bare hbare location
  unfold leads
  generalize Url.readFrom u location = r, Url.readFrom v location = r' at hread
  cases hread with
  | same => rfl
  | kept f =>
    show isAddress _ = isAddress _
    rw [Url.scheme_of_bare hbare, Url.authority_of_bare hbare, Url.path_of_bare hbare, hquery]

/-- What twin servers do about the requests of twin drafts. -/
theorem Draft.Twin.answer {body : Bytes} {a b : Answer} (hde : d.Twin S e)
    (h : a.Twin S (d.request body) (e.request body) b) : a.Alike S d e b := by
  have same (a : Answer) (hleads : ∀ after x location, a = .reply after x →
      x.location = some location → leads d.url location = leads e.url location) : a.Alike S d e a := by
    cases a with
    | reply after x => exact .reply after (.same x fun location => hleads after x location rfl)
    | dropped => exact .dropped
    | hangs => exact .hangs
  generalize hr : d.request body = r at h
  generalize hr' : e.request body = r' at h
  have hd : d.url.asked = r.url := congrArg Request.url hr
  have he : e.url.asked = r'.url := congrArg Request.url hr'
  cases h with
  | same a => exact same a fun _ _ location _ _ => leads_of_asked hde.bare (hd.trans he.symm) location
  | handed posted hands =>
    have hpost : d.method = .post := (congrArg Request.method hr).trans posted
    exact .reply _ (.handed hpost hands)
  | signed leads =>
    exact same a fun after x location ha hl => leads after x location _ _ ha hl hd he hde.bare

/-! ## Redirects -/

theorem next?_of_success {x : Reply} (h : isSuccess x.status = true) (d : Draft) (keeps : Bool) :
    d.next? keeps x = none := by
  have hstays : isRedirect x.status = false := by
    simp only [isSuccess, Bool.and_eq_true, decide_eq_true_eq] at h
    simp only [isRedirect, Bool.or_eq_false_iff, decide_eq_false_iff_not]
    omega
  unfold Draft.next?
  cases x.location with
  | none => rfl
  | some location => simp [hstays]

theorem sameOrigin_of_bare {u v x : Url} (h : u.bare = v.bare) : sameOrigin x u = sameOrigin x v := by
  have hport : connectionPort u = connectionPort v := Url.eq_of_bare connectionPort (fun _ => rfl) h
  have hhost : u.hostText = v.hostText := Url.eq_of_bare Url.hostText (fun _ => rfl) h
  simp only [sameOrigin, hport, hhost]

theorem sameOrigin_withFragment (u : Url) (f : Option String) :
    sameOrigin { u with fragment := f } u = true := by
  have hhost : ({ u with fragment := f } : Url).hostText = u.hostText := rfl
  have hport : connectionPort { u with fragment := f } = connectionPort u := rfl
  simp [sameOrigin, hhost, hport]

/-- Both drafts have come to their end, or both go on, with twin drafts. -/
inductive Draft.GoOn (S : SignedPairs) (d e : Draft) : Option Draft → Option Draft → Prop
  | ended : GoOn S d e none none
  | next {d' e' : Draft} (twin : d'.Twin S e') (same : d = e → d' = e') :
      GoOn S d e (some d') (some e')

/-- A reply that leads from a signed URL leads from its twin: away from both to one place, or back to each
of them with another fragment. -/
theorem SignedUrls.next? {u v : Url} (urls : SignedUrls S u v) {d : Draft} (posted : d.method ≠ .post)
    {x : Reply} (leads : ∀ location, x.location = some location → leads u location = leads v location)
    (keeps : Bool) :
    Draft.GoOn S { d with url := u } { d with url := v } (({ d with url := u } : Draft).next? keeps x)
      (({ d with url := v } : Draft).next? keeps x) := by
  unfold Draft.next?
  cases hl : x.location with
  | none => exact .ended
  | some location =>
    have hleads := leads location hl
    have hread := Url.readFrom_bare urls.bare location
    simp only [Http.leads] at hleads
    simp only [Option.bind_eq_bind, Option.bind_some]
    split
    · exact .ended
    · generalize Url.readFrom u location = p, Url.readFrom v location = q at hread hleads
      cases hread with
      | same =>
        cases p with
        | error f => exact .ended
        | ok url =>
          simp only [sameOrigin_of_bare urls.bare]
          split
          · exact .ended
          · split
            · exact .next (.same _) fun _ => rfl
            · exact .next (.same _) fun _ => rfl
      | kept f =>
        have hurls : SignedUrls S { u with fragment := f } { v with fragment := f } :=
          ⟨urls.bare, urls.asked⟩
        have hsame (e : Draft) (h : { d with url := u } = { d with url := v }) :
            ({ e with url := { u with fragment := f } } : Draft) =
              { e with url := { v with fragment := f } } := by
          rw [show u = v from congrArg Draft.url h]
        simp only at hleads ⊢
        rw [hleads]
        simp only [sameOrigin_withFragment]
        split
        · exact .ended
        · split
          · exact .next (.signed (d := ⟨.get, u, _, none, _, .nothing⟩) (by simp) hurls)
              (hsame ⟨.get, u, _, none, _, .nothing⟩)
          · exact .next (.signed posted hurls) (hsame ⟨_, u, _, _, _, _⟩)

/-- **Twins are redirected together.** -/
theorem Draft.Twin.next? {x y : Reply} (hde : d.Twin S e) (hxy : x.Twin S d e y) (keeps : Bool) :
    Draft.GoOn S d e (d.next? keeps x) (e.next? keeps y) := by
  cases hxy with
  | handed posted hands =>
    have hy : isSuccess y.status = true := hands.status ▸ hands.success
    rw [next?_of_success hands.success, next?_of_success hy]
    exact .ended
  | same leads =>
    cases hde with
    | same =>
      cases d.next? keeps x with
      | none => exact .ended
      | some d' => exact .next (.same d') fun _ => rfl
    | signed posted urls => exact urls.next? posted leads keeps

theorem method_of_next? {keeps : Bool} {r : Reply} {next : Draft} (h : d.next? keeps r = some next)
    (hpost : next.method = .post) : d.method = .post := by
  obtain hget | ⟨hsame, -⟩ := next?_method h
  · rw [hget] at hpost
    cases hpost
  · exact hsame ▸ hpost

/-! ## What becomes of requests -/

/-- One delivery; or answers to a call of the metadata service that hand out signed URLs; or errors that
agree but for query and fragment of their URL, and are the same when the orders are. -/
inductive Delivery.Twin (S : SignedPairs) (posted same : Prop) : Delivery → Delivery → Prop
  | answered (r : Response) : Twin S posted same (.answered r) (.answered r)
  | handed {x y : Reply} (post : posted) (hands : Metadata.Hands S x y) :
      Twin S posted same (.answered x.response) (.answered y.response)
  | failed {f g : ClientError} (bare : f.bare = g.bare) (eq : same → f = g) :
      Twin S posted same (.failed f) (.failed g)
  | interrupted : Twin S posted same .interrupted .interrupted

theorem Delivery.Twin.mono {p p' q q' : Prop} {x y : Delivery} (h : x.Twin S p q y)
    (hp : p → p') (hq : q' → q) : x.Twin S p' q' y := by
  cases h with
  | answered r => exact .answered r
  | handed post hands => exact .handed (hp post) hands
  | failed bare eq => exact .failed bare fun h => eq (hq h)
  | interrupted => exact .interrupted

structure Sent.Twin (S : SignedPairs) (posted same : Prop) (x y : Sent) : Prop where
  delivery : x.delivery.Twin S posted same y.delivery
  taken : x.taken = y.taken

/-- One response, or responses that hand out signed URLs. -/
inductive Response.Twin (S : SignedPairs) (posted : Prop) : Response → Response → Prop
  | same (r : Response) : Twin S posted r r
  | handed {x y : Reply} (post : posted) (hands : Metadata.Hands S x y) :
      Twin S posted x.response y.response

theorem Response.Twin.status {posted : Prop} {x y : Response} (h : x.Twin S posted y) :
    x.status = y.status := by
  cases h with
  | same => rfl
  | handed _ hands => exact hands.status

/-! ## Orders -/

theorem Target.ofUrl_bare {x y : Url} (h : x.bare = y.bare) :
    (Target.ofUrl x).url.bare = (Target.ofUrl y).url.bare ∧
      (Target.ofUrl x).credentials = (Target.ofUrl y).credentials := by
  have hplain : x.withoutUser.bare = y.withoutUser.bare :=
    Url.eq_of_bare (fun u => u.withoutUser.bare) (fun _ => rfl) h
  have huser : userAndPassword? x = userAndPassword? y := by
    unfold userAndPassword?
    rw [Url.authority_of_bare h]
  unfold Target.ofUrl
  rw [huser]
  cases userAndPassword? y with
  | none => exact ⟨h, rfl⟩
  | some p => exact ⟨hplain, rfl⟩

theorem Target.ofUrl_asked (u : Url) : (Target.ofUrl u).url.asked = u.asked :=
  congrArg Url.withoutFragment (Target.ofUrl_url u)

/-- Neither order can be sent, or their drafts are twins. -/
inductive Order.Drafted (S : SignedPairs) :
    Except ClientError Draft → Except ClientError Draft → Prop
  | error {f g : ClientError} (bare : f.bare = g.bare) : Drafted S (.error f) (.error g)
  | ok {d e : Draft} (twin : d.Twin S e) : Drafted S (.ok d) (.ok e)

theorem Order.drafted {o : Order} {s t : String} (posted : o.method ≠ .post) (pair : S.Pair s t) :
    Order.Drafted S ({ o with url := s } : Order).draft ({ o with url := t } : Order).draft := by
  obtain signed := S.signedTwice s t pair
  have hread := signed.read
  unfold Order.draft
  simp only
  cases hs : Url.read s with
  | error f =>
    cases ht : Url.read t with
    | error g => exact .error rfl
    | ok y => simp [hs, ht, Except.map] at hread
  | ok x =>
    cases ht : Url.read t with
    | error g => simp [hs, ht, Except.map] at hread
    | ok y =>
      rw [hs, ht] at hread
      have hbare : x.bare = y.bare := Except.ok.inj hread
      have hhost : x.host = y.host := Url.eq_of_bare Url.host (fun _ => rfl) hbare
      obtain ⟨htarget, hcredentials⟩ := Target.ofUrl_bare hbare
      simp only [hhost, Url.scheme_of_bare hbare, signed.address x y hs ht, hcredentials]
      split
      · exact .error (congrArg (fun u => ClientError.unusable (some u)) hbare)
      · split
        · exact .error rfl
        · split
          · exact .error (congrArg (fun u => ClientError.unusable (some u)) htarget)
          · exact .ok (.signed (d := ⟨o.method, (Target.ofUrl x).url, _, _, _, _⟩) posted
              ⟨htarget, s, t, x, y, pair, hs, ht, Target.ofUrl_asked x, Target.ofUrl_asked y⟩)

/-! ## Sending -/

namespace Client

variable {w v : World} {j k : Journal}

theorem giveUp_twin (hw : w.Twin S v) (hj : j.Twin S k) (last : Time.Span) :
    (giveUp w j last).1.Twin S d e (giveUp v k last).1 ∧
      (giveUp w j last).2.Twin S (giveUp v k last).2 := by
  unfold giveUp
  rw [hw.deadline]
  split
  · split
    · exact ⟨.interrupted, hj.atTime _⟩
    · exact ⟨.nothing, hj.atTime _⟩
  · exact ⟨.nothing, hj.atTime _⟩

theorem await_twin (hw : w.Twin S v) (hj : j.Twin S k) (c : Client) {a b : Answer}
    (hab : a.Alike S d e b) :
    (c.await w a j).1.Twin S d e (c.await v b k).1 ∧ (c.await w a j).2.Twin S (c.await v b k).2 := by
  cases hab with
  | dropped => exact ⟨.nothing, hj⟩
  | hangs =>
    simp only [await, hj.elapsed]
    exact giveUp_twin hw hj _
  | reply after twin =>
    simp only [await, hj.elapsed, hw.isOver (hj.atTime (k.elapsed.plus after))]
    split
    · exact ⟨.reply twin, hj.atTime _⟩
    · exact giveUp_twin hw hj _

theorem exchange_twin (hw : w.Twin S v) (hj : j.Twin S k) (hde : d.Twin S e) (c : Client)
    (purpose : Purpose) (hop : Nat) :
    (c.exchange purpose hop d w j).1.1.Twin S d e (c.exchange purpose hop e v k).1.1 ∧
      (c.exchange purpose hop d w j).1.2 = (c.exchange purpose hop e v k).1.2 ∧
      (c.exchange purpose hop d w j).2.Twin S (c.exchange purpose hop e v k).2 := by
  have hreaches : c.reaches w d.url = c.reaches v e.url := by
    unfold reaches
    rw [hw.listening, hw.encrypting, Url.scheme_of_bare hde.bare]
  unfold exchange
  rw [hreaches, hw.isOver hj, hde.payload]
  split
  · exact ⟨.nothing, rfl, hj⟩
  · split
    · exact ⟨.interrupted, rfl, hj⟩
    · cases e.payload.draw with
      | mk taken body =>
        cases body with
        | none => exact ⟨.nothing, rfl, hj⟩
        | some body =>
          have hrequest := hde.request body
          have hanswer := hw.server _ _ _ _ hj.requests hrequest
          obtain ⟨hreaction, hjournals⟩ := await_twin hw
            (hj.record (e := ⟨purpose, hop, j.elapsed, _, _⟩) (f := ⟨purpose, hop, k.elapsed, _, _⟩)
              ⟨rfl, rfl, hj.elapsed, hrequest, hanswer⟩) c (hde.answer hanswer)
          exact ⟨hreaction, rfl, hjournals⟩

/-- **Redirects are followed in lockstep.** The errors tell the first URLs, so they are the same only when
these are. -/
theorem follow_twin (hw : w.Twin S v) (c : Client) (purpose : Purpose) {first first' : Url}
    (hfirst : first.bare = first'.bare) (left hop : Nat) {d e : Draft} (hde : d.Twin S e)
    {j k : Journal} (hj : j.Twin S k) :
    (c.follow purpose first w left hop d j).1.Twin S (d.method = .post) (d = e ∧ first = first')
        (c.follow purpose first' v left hop e k).1 ∧
      (c.follow purpose first w left hop d j).2.Twin S (c.follow purpose first' v left hop e k).2 := by
  obtain ⟨hreaction, htaken, hjournals⟩ := exchange_twin hw hj hde c purpose hop
  rw [follow, follow]
  generalize c.exchange purpose hop d w j = x, c.exchange purpose hop e v k = y at *
  obtain ⟨⟨reaction, taken⟩, j'⟩ := x
  obtain ⟨⟨reaction', taken'⟩, k'⟩ := y
  obtain rfl : taken = taken' := htaken
  cases hreaction with
  | nothing =>
    exact ⟨⟨.failed (congrArg ClientError.unanswered hfirst) fun h => by rw [h.2], rfl⟩, hjournals⟩
  | interrupted => exact ⟨⟨.interrupted, rfl⟩, hjournals⟩
  | @reply r r' twin =>
    have hnext := hde.next? twin c.keepsMethod
    have hmethod (next : Draft) (h : d.next? c.keepsMethod r = some next) :=
      method_of_next? h
    simp only
    generalize d.next? c.keepsMethod r = next, e.next? c.keepsMethod r' = next' at hnext hmethod ⊢
    cases hnext with
    | ended =>
      cases twin with
      | same => exact ⟨⟨.answered _, rfl⟩, hjournals⟩
      | handed posted hands => exact ⟨⟨.handed posted hands, rfl⟩, hjournals⟩
    | next twin same =>
      cases left with
      | zero =>
        exact ⟨⟨.failed (congrArg ClientError.tooManyRedirects hfirst) fun h => by rw [h.2], rfl⟩,
          hjournals⟩
      | succ left =>
        simp only [Url.scheme_of_bare twin.bare]
        split
        · exact ⟨⟨.failed (congrArg (fun u => ClientError.unusable (some u)) twin.bare)
            fun h => by rw [same h.1], rfl⟩, hjournals⟩
        · obtain ⟨⟨hdelivery, -⟩, hrest⟩ :=
            follow_twin hw c purpose hfirst left (hop + 1) twin hjournals
          exact ⟨⟨hdelivery.mono (hmethod _ rfl) fun h => ⟨same h.1, h.2⟩, rfl⟩, hrest⟩
termination_by left

/-- **One order in twin worlds.** -/
theorem send_twin (hw : w.Twin S v) (hj : j.Twin S k) (c : Client) (o : Order) :
    (c.send o w j).1.Twin S (o.method = .post) True (c.send o v k).1 ∧
      (c.send o w j).2.Twin S (c.send o v k).2 := by
  unfold send
  cases ho : o.draft with
  | error f => exact ⟨⟨.failed rfl fun _ => rfl, rfl⟩, hj⟩
  | ok d =>
    obtain ⟨⟨hdelivery, htaken⟩, hjournals⟩ :=
      follow_twin hw c o.purpose rfl mostRedirects 0 (.same d) hj
    refine ⟨⟨hdelivery.mono ?_ fun _ => ⟨rfl, rfl⟩, htaken⟩, hjournals⟩
    exact fun hpost => (Order.draft_ok ho).1.symm.trans hpost

/-- **Orders for a signed URL and for its twin.** Nothing is handed out in return, and the errors may
tell the two URLs. -/
theorem send_signed (hw : w.Twin S v) (hj : j.Twin S k) (c : Client) {o : Order} {s t : String}
    (posted : o.method ≠ .post) (same : S.Same s t) :
    (c.send { o with url := s } w j).1.Twin S False False (c.send { o with url := t } v k).1 ∧
      (c.send { o with url := s } w j).2.Twin S (c.send { o with url := t } v k).2 := by
  obtain rfl | pair := same
  · obtain ⟨⟨hdelivery, htaken⟩, hjournals⟩ := c.send_twin hw hj { o with url := s }
    exact ⟨⟨hdelivery.mono posted False.elim, htaken⟩, hjournals⟩
  have hdrafts := Order.drafted posted pair
  have hmethod (d : Draft) (h : ({ o with url := s } : Order).draft = .ok d) : d.method ≠ .post := by
    rw [(Order.draft_ok h).1]
    exact posted
  unfold send
  generalize ({ o with url := s } : Order).draft = x, ({ o with url := t } : Order).draft = y at *
  cases hdrafts with
  | error bare => exact ⟨⟨.failed bare False.elim, rfl⟩, hj⟩
  | ok twin =>
    obtain ⟨⟨hdelivery, htaken⟩, hjournals⟩ :=
      follow_twin hw c o.purpose twin.bare mostRedirects 0 twin hj
    exact ⟨⟨hdelivery.mono (hmethod _ rfl) False.elim, htaken⟩, hjournals⟩

theorem ask_pairs (posted : Prop) (hw : w.Twin S v) (c : Client) {o : Order}
    (hpost : o.method = .post → posted) (failure : ClientError → Failure) :
    Act.Pairs S w v (Response.Twin S posted) (c.ask o failure) (c.ask o failure) := by
  refine Act.Alongside.bind (Act.alongside_ofRun fun j k hj => send_twin hw hj c o) fun x y hxy => ?_
  obtain ⟨hdelivery, -⟩ := hxy
  apply Act.alongside_conclude
  unfold Sent.response
  generalize x.delivery = d, y.delivery = e at hdelivery
  cases hdelivery with
  | answered r => exact .ok (.same r)
  | handed post hands => exact .ok (.handed (hpost post) hands)
  | failed _ eq =>
    obtain rfl := eq trivial
    exact .error (.same _)
  | interrupted => exact .error (.same _)

end Client

end ContentCache.Http
