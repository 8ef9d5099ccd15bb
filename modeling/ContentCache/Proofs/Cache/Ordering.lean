import ContentCache.Proofs.Cache.Copying

/-!
# In which order a call makes its requests

A call follows one of two scripts: it lists the copies, looks one up and reads it, or it lists the copies,
asks the origin, opens a place, sends the content there and seals it. It may stop everywhere, but it
leaves out nothing and makes no request twice, and it goes on only when the answer before has been
accepted.

* `madeFor`: the exchanges that serve a purpose.
* `Once`: the exchanges of a single request, with its redirects and, for a metadata call, with the second
  attempt after a token has not been accepted.
* `Cache.Accepts`: the answer to a request is one that a call goes on with.
* `Cache.Follows`, `Cache.Directed`: a call follows a script, and its requests go where they have to.

Main statements: `copy_follows`, and `Follows.begins` (what has been made is the beginning of a script).
-/

namespace ContentCache

/-! ## Sources -/

/-- A text is an absolute URL of the web, with a host. -/
def IsWebAddress (source : String) (url : Url) : Prop :=
  Url.read source = .ok url ∧ Url.isWebScheme url.scheme = true ∧
    (url.hostText.getD "").isEmpty = false

/-- A source is accepted when it is an address of the web, and is no valid URL otherwise. -/
theorem readSource_cases (source : String) :
    (∃ url, readSource source = .ok url ∧ IsWebAddress source url) ∨
      ∃ detail, readSource source = .error (.invalidUrl detail) ∧ ∀ url, ¬ IsWebAddress source url := by
  unfold readSource IsWebAddress
  cases hread : Url.read source with
  | error e => exact .inr ⟨_, rfl, by simp⟩
  | ok url =>
    simp only
    by_cases hscheme : Url.isWebScheme url.scheme = true
    · by_cases hhost : (url.hostText.getD "").isEmpty = true
      · refine .inr ⟨_, by rw [if_neg (by simp [hscheme]), if_pos hhost], ?_⟩
        rintro url' ⟨heq, -, hhost'⟩
        obtain rfl := Except.ok.inj heq
        rw [hhost] at hhost'
        cases hhost'
      · exact .inl ⟨url, by rw [if_neg (by simp [hscheme]), if_neg hhost], rfl, hscheme,
          by simpa using hhost⟩
    · refine .inr ⟨_, by rw [if_pos (by simpa using hscheme)], ?_⟩
      rintro url' ⟨heq, hscheme', -⟩
      obtain rfl := Except.ok.inj heq
      exact hscheme hscheme'

/-! ## Purposes -/

/-- The method of a request that is no redirect. -/
def Purpose.method : Purpose → Http.Method
  | .call _ => .post
  | .upload => .put
  | .download | .origin => .get

/-- Whether the document of an answer to a method can be understood. -/
def Metadata.Method.understands : Metadata.Method → Json → Bool
  | .createArtifact, d => (Metadata.WriteLocation.ofDocument? d).isSome
  | .finalizeArtifact, d => (Metadata.sealedOfDocument? d).isSome
  | .resolveArtifact, d => (Metadata.ReadLocation.ofDocument? d).isSome
  | .listArtifacts, d => (Metadata.listedOfDocument? d).isSome

/-- Whether an answer is one of success that can be understood. -/
def Purpose.accepts (p : Purpose) (r : Http.Response) : Bool :=
  Http.isSuccess r.status &&
    match p with
    | .call method => (Metadata.Client.document? r).any method.understands
    | _ => true

/-- The exchanges that serve a purpose. -/
def madeFor (p : Purpose) (es : List Exchange) : List Exchange := es.filter (·.purpose = p)

theorem madeFor_append (p : Purpose) (es fs : List Exchange) :
    madeFor p (es ++ fs) = madeFor p es ++ madeFor p fs :=
  List.filter_append es fs

theorem madeFor_eq_self {p : Purpose} {es : List Exchange} (h : ∀ e ∈ es, e.purpose = p) :
    madeFor p es = es :=
  List.filter_eq_self.2 fun e he => decide_eq_true (h e he)

theorem madeFor_eq_nil {p : Purpose} {es : List Exchange} (h : ∀ e ∈ es, e.purpose ≠ p) :
    madeFor p es = [] :=
  List.filter_eq_nil_iff.2 fun e he => by simpa using h e he

/-- Exchanges of one purpose in front are left out for another one. -/
theorem madeFor_append_of_ne {p q : Purpose} {es fs : List Exchange} (h : ∀ e ∈ es, e.purpose = p)
    (hq : q ≠ p) : madeFor q (es ++ fs) = madeFor q fs := by
  rw [madeFor_append, madeFor_eq_nil fun e he => by rw [h e he]; exact hq.symm, List.nil_append]

/-- The exchanges of a purpose in front are all that serve it when none follow. -/
theorem madeFor_append_self {p : Purpose} {es fs : List Exchange} (h : ∀ e ∈ es, e.purpose = p)
    (hfs : ∀ e ∈ fs, e.purpose ≠ p) : madeFor p (es ++ fs) = es := by
  rw [madeFor_append, madeFor_eq_self h, madeFor_eq_nil hfs, List.append_nil]

/-- Exchanges of two purposes, one after the other. -/
theorem madeFor_two {p q : Purpose} {es fs : List Exchange} (hes : ∀ e ∈ es, e.purpose = p)
    (hfs : ∀ e ∈ fs, e.purpose = q) (hpq : p ≠ q) :
    madeFor p (es ++ fs) = es ∧ madeFor q (es ++ fs) = fs := by
  constructor
  · exact madeFor_append_self hes fun e he => by rw [hfs e he]; exact hpq.symm
  · rw [madeFor_append_of_ne hes hpq.symm, madeFor_eq_self hfs]

/-! ## Single requests -/

/-- The exchanges of one request that has been sent: it has the method of its purpose, and the redirects
that it leads to are counted from there. -/
structure OneRequest (p : Purpose) (es : List Exchange) : Prop where
  sent : es ≠ []
  purpose : ∀ e ∈ es, e.purpose = p
  hops : es.map Exchange.hop = List.range es.length
  method : ∀ e ∈ es, e.hop = 0 → e.request.method = p.method

/-- The client that has sent the last of some exchanges gets a reply to it in time. -/
def LastReply (c : Http.Client) (w : World) (es : List Exchange) (r : Http.Reply) : Prop :=
  ∃ front last, es = front ++ [last] ∧ c.reply? w last = some r

/-- A request is made once; a metadata call is sent again only when its token has not been accepted. -/
inductive Once (c : Http.Client) (w : World) (p : Purpose) : List Exchange → Prop where
  | made {es : List Exchange} (request : OneRequest p es) : Once c w p es
  | resent {es fs : List Exchange} {method : Metadata.Method} {r : Http.Reply}
      (call : p = .call method) (request : OneRequest p es) (refused : LastReply c w es r)
      (unauthorized : r.status = Metadata.Client.unauthorized) (again : OneRequest p fs) :
      Once c w p (es ++ fs)

theorem Http.Client.Sending.oneRequest {c : Http.Client} {w : World} {o : Http.Order}
    {es : List Exchange} {sent : Http.Sent} (h : c.Sending w o es sent) (hne : es ≠ [])
    (ho : o.method = o.purpose.method) : OneRequest o.purpose es where
  sent := hne
  purpose := h.purpose_eq
  hops := h.hops
  method := by
    intro e he hhop
    obtain ⟨first, rest, rfl⟩ := List.exists_cons_of_ne_nil hne
    rcases List.mem_cons.1 he with rfl | he
    · rw [h.head_request.2.1, ho]
    · have := h.hop_pos_of_mem_tail e he
      omega

namespace Metadata.Client

variable {α : Type} {c : Client} {w : World} {method : Method} {request : Json}
  {decode : Json → Option α} {es : List Exchange}

theorem Posting.oneRequest {force : Bool} {r : Except Halt Http.Response}
    (h : c.Posting w method request force es r) (hne : es ≠ []) : OneRequest (.call method) es := by
  cases h with
  | unissued => exact absurd rfl hne
  | posted _ sending => exact sending.oneRequest hne rfl

theorem Calling.once {r : Except Halt α} (h : c.Calling w method request decode es r) (hne : es ≠ []) :
    Once c.http w (.call method) es := by
  have resent {es fs : List Exchange} {r : Http.Response} {x : Except Halt Http.Response}
      (first : c.Posting w method request false es (.ok r)) (hr : r.status = unauthorized)
      (second : c.Posting w method request true fs x) : Once c.http w (.call method) (es ++ fs) := by
    obtain ⟨front, last, reply, hes, hlast, rfl⟩ := first.ok_last
    have one : OneRequest (.call method) es := first.oneRequest (by simp [hes])
    by_cases hfs : fs = []
    · rw [hfs, List.append_nil]
      exact .made one
    · exact .resent rfl one ⟨front, last, hes, hlast⟩ hr (second.oneRequest hfs)
  cases h with
  | halted first | answered first => exact .made (first.oneRequest hne)
  | haltedAgain first hr second | answeredAgain first hr second => exact resent first hr second

end Metadata.Client

namespace Cache

variable {c : Cache} {w : World} {source : String} {url : Url} {o : CacheOptions}
  {es fs : List Exchange} {script : List Purpose} {p : Purpose} {done : Prop}

/-- The client that makes the requests of a purpose. -/
def client (c : Cache) : Purpose → Http.Client
  | .call _ => c.store.metadata.http
  | .upload | .download => c.store.transfer.http
  | .origin => c.origin.http

/-- The last reply to a request is one of success that can be understood. -/
def Accepts (c : Cache) (w : World) (p : Purpose) (es : List Exchange) : Prop :=
  ∃ r, LastReply (c.client p) w es r ∧ p.accepts r.response = true

theorem accepts_of_calling {α : Type} {method : Metadata.Method} {request : Json}
    {decode : Json → Option α} {a : α}
    (h : c.store.metadata.Calling w method request decode es (.ok a))
    (hdecode : ∀ d, (decode d).isSome = method.understands d) : c.Accepts w (.call method) es := by
  obtain ⟨front, last, reply, hes, hreply, haccepted⟩ := h.ok_last
  obtain ⟨hsuccess, hdocument⟩ := Metadata.Client.accept_eq_ok haccepted
  obtain ⟨d, hd, ha⟩ := Option.bind_eq_some_iff.1 hdocument
  refine ⟨reply, ⟨front, last, hes, hreply⟩, ?_⟩
  simp only [Purpose.accepts, hsuccess, hd, Option.any_some, ← hdecode, ha, Option.isSome_some,
    Bool.and_self]

/-- An answer of success to a transfer or a fetch is one that a call goes on with. -/
theorem accepts_of_sending {http : Http.Client} {order : Http.Order} {sent : Http.Sent}
    {r : Http.Response} (h : http.Sending w order es sent) (hanswered : sent.delivery = .answered r)
    (hsuccess : Http.isSuccess r.status = true) (hclient : c.client p = http)
    (hp : ∀ method, p ≠ .call method) : c.Accepts w p es := by
  obtain ⟨front, last, reply, hes, hreply, rfl⟩ := h.answered_last hanswered
  subst hclient
  refine ⟨reply, ⟨front, last, hes, hreply⟩, ?_⟩
  unfold Purpose.accepts
  split
  · next method => exact absurd rfl (hp method)
  · rw [Bool.and_true]
    exact hsuccess

theorem exists_of_map_eq_ok {ε α β : Type} {f : α → β} {r : Except ε α} {b : β}
    (h : r.map f = .ok b) : ∃ a, r = .ok a ∧ f a = b := by
  cases r with
  | error e => cases h
  | ok a => exact ⟨a, rfl, Except.ok.inj h⟩

/-! ## Scripts -/

/-- The requests of a call, which serves a copy from the store or stores a new one. -/
def scriptOf : (fromCache : Bool) → List Purpose
  | true => [.call .listArtifacts, .call .resolveArtifact, .download]
  | false =>
    [.call .listArtifacts, .origin, .call .createArtifact, .upload, .call .finalizeArtifact]

/-- Exchanges that follow a script: they serve its purposes in order, each by one request, and only after
the requests before have been accepted; `done` when the script has been gone through. -/
structure Follows (c : Cache) (w : World) (script : List Purpose) (es : List Exchange) (done : Prop) :
    Prop where
  order : es = script.flatMap fun p => madeFor p es
  once : ∀ p ∈ script, madeFor p es ≠ [] → Once (c.client p) w p (madeFor p es)
  accepted : script.Pairwise fun p q => madeFor q es ≠ [] → c.Accepts w p (madeFor p es)
  complete : done → ∀ p ∈ script, c.Accepts w p (madeFor p es)

namespace Follows

theorem purpose_mem (h : c.Follows w script es done) : ∀ e ∈ es, e.purpose ∈ script := by
  intro e he
  rw [h.order] at he
  obtain ⟨p, hp, he⟩ := List.mem_flatMap.1 he
  have : e.purpose = p := by simpa using (List.mem_filter.1 he).2
  exact this ▸ hp

/-- Nothing is done that is not in the script. -/
theorem madeFor_eq_nil (h : c.Follows w script es done) (hp : p ∉ script) : madeFor p es = [] :=
  ContentCache.madeFor_eq_nil fun e he heq => hp (heq ▸ h.purpose_mem e he)

/-- Nothing may have been done of a script, which then is gone through only when it is empty. -/
theorem nil (h : done → script = []) : c.Follows w script [] done where
  order := by simp [madeFor]
  once := fun _ _ h => absurd rfl h
  accepted := List.pairwise_of_forall fun _ _ h => absurd rfl h
  complete := fun hdone => by simp [h hdone]

/-- **One request, and then the rest of a script** when the request has been accepted. -/
theorem cons (hp : ∀ e ∈ es, e.purpose = p) (hscript : p ∉ script)
    (once : es ≠ [] → Once (c.client p) w p es) (accepted : fs ≠ [] ∨ done → c.Accepts w p es)
    (rest : c.Follows w script fs done) : c.Follows w (p :: script) (es ++ fs) done := by
  have hfs : ∀ e ∈ fs, e.purpose ≠ p := fun e he heq => hscript (heq ▸ rest.purpose_mem e he)
  have hfirst : madeFor p (es ++ fs) = es := madeFor_append_self hp hfs
  have hrest : ∀ q ∈ script, madeFor q (es ++ fs) = madeFor q fs := by
    intro q hq
    exact madeFor_append_of_ne hp fun heq => hscript (heq ▸ hq)
  constructor
  case order =>
    rw [List.flatMap_cons, hfirst, List.flatMap_def, List.map_congr_left hrest, ← List.flatMap_def,
      ← rest.order]
  case once =>
    intro q hq hne
    rcases List.mem_cons.1 hq with rfl | hq
    · rw [hfirst] at hne ⊢
      exact once hne
    · rw [hrest q hq] at hne ⊢
      exact rest.once q hq hne
  case accepted =>
    refine List.Pairwise.cons ?_ ?_
    · intro q hq hne
      rw [hrest q hq] at hne
      rw [hfirst]
      refine accepted (.inl ?_)
      rintro rfl
      exact hne rfl
    · refine rest.accepted.imp_of_mem ?_
      intro q q' hq hq' h hne
      rw [hrest q' hq'] at hne
      rw [hrest q hq]
      exact h hne
  case complete =>
    intro hdone q hq
    rcases List.mem_cons.1 hq with rfl | hq
    · rw [hfirst]
      exact accepted (.inr hdone)
    · rw [hrest q hq]
      exact rest.complete hdone q hq

/-- A request that is the last one to be made. -/
theorem last (hp : ∀ e ∈ es, e.purpose = p) (hscript : p ∉ script)
    (once : es ≠ [] → Once (c.client p) w p es) (accepted : done → c.Accepts w p es)
    (hdone : done → script = []) : c.Follows w (p :: script) es done := by
  have h := cons hp hscript once (fun h => accepted (h.resolve_left (absurd rfl))) (nil hdone)
  rwa [List.append_nil] at h

/-- What has been made of a script is its beginning. -/
theorem begins (h : c.Follows w script es done) : (script.filter (madeFor · es ≠ [])) <+: script := by
  have earlier : script.Pairwise fun p q => madeFor q es ≠ [] → madeFor p es ≠ [] := by
    refine h.accepted.imp fun hacc hq => ?_
    obtain ⟨r, ⟨front, last, hes, -⟩, -⟩ := hacc hq
    rw [hes]
    simp
  clear h
  induction script with
  | nil => exact List.prefix_rfl
  | cons p script ih =>
    obtain ⟨hp, hscript⟩ := List.pairwise_cons.1 earlier
    by_cases hmade : madeFor p es = []
    · -- Nothing behind a request that has not been made has been made either.
      have hnone : (p :: script).filter (madeFor · es ≠ []) = [] := by
        refine List.filter_eq_nil_iff.2 fun q hq => ?_
        rcases List.mem_cons.1 hq with rfl | hq
        · simpa using hmade
        · simpa using fun hne => hp q hq hne hmade
      rw [hnone]
      exact List.nil_prefix
    · rw [List.filter_cons_of_pos (by simpa using hmade)]
      exact (List.cons_prefix_cons).2 ⟨rfl, ih hscript⟩

end Follows

/-! ## What a call follows -/

theorem follows_of_opening {path : String} {r : Except Halt (Stream × ArtifactInfo)}
    (h : c.store.Opening w cacheNamespace path es r) :
    c.Follows w [.call .resolveArtifact, .download] es (∃ x, r = .ok x) := by
  cases h with
  | @unfound _ halt finding =>
    have undone : ¬ ∃ x : Stream × ArtifactInfo, (.error halt : Except Halt _) = .ok x := by simp
    exact .last finding.purpose_eq (by simp) finding.once undone.elim undone.elim
  | found finding reading =>
    refine .cons finding.purpose_eq (by simp) finding.once
      (fun _ => accepts_of_calling finding fun _ => rfl)
      (.last reading.purpose_eq (by simp) (fun hne => .made (reading.oneRequest hne rfl)) ?_
        fun _ => rfl)
    rintro ⟨⟨body, info⟩, hx⟩
    obtain ⟨body, hbody, -⟩ := exists_of_map_eq_ok hx
    obtain ⟨r, hanswered, hsuccess, -⟩ := Transfer.outcome_eq_ok hbody
    exact accepts_of_sending reading hanswered hsuccess rfl (by simp)

theorem follows_of_storing {path : String} {content : Source} {u : UploadOptions}
    {x : Consumed ArtifactInfo} (h : c.store.Storing w cacheNamespace path content u es x) :
    c.Follows w [.call .createArtifact, .upload, .call .finalizeArtifact] es
      (∃ info, x.result = .ok info) := by
  have undone {halt : Halt} {taken : Stream} :
      ¬ ∃ info, (⟨.error halt, taken⟩ : Consumed ArtifactInfo).result = .ok info := by simp
  have sending {url : String} {m : Measured} {es : List Exchange} {sent : Http.Sent} {taken : Stream}
      (transmitting : c.store.Transmits w url content u m es sent taken) (hne : es ≠ []) :
      Once c.store.transfer.http w .upload es :=
    .made (transmitting.sending.oneRequest hne rfl)
  cases h with
  | unopened opening | unmeasured opening =>
    exact .last opening.purpose_eq (by simp) opening.once undone.elim undone.elim
  | unsent opening transmitting =>
    exact .cons opening.purpose_eq (by simp) opening.once
      (fun _ => accepts_of_calling opening fun _ => rfl)
      (.last transmitting.sending.purpose_eq (by simp) (sending transmitting) undone.elim undone.elim)
  | sent opening transmitting accepted _ sealing =>
    obtain ⟨r, hanswered, hsuccess, -⟩ := Transfer.outcome_eq_ok accepted
    have hupload : c.Accepts w .upload _ :=
      accepts_of_sending transmitting.sending hanswered hsuccess rfl (by simp)
    refine .cons opening.purpose_eq (by simp) opening.once
      (fun _ => accepts_of_calling opening fun _ => rfl)
      (.cons transmitting.sending.purpose_eq (by simp) (sending transmitting) (fun _ => hupload)
        (.last sealing.purpose_eq (by simp) sealing.once ?_ fun _ => rfl))
    rintro ⟨info, hinfo⟩
    obtain ⟨artifact, rfl, -⟩ := exists_of_map_eq_ok hinfo
    exact accepts_of_calling sealing fun _ => rfl

/-- Content is fetched, and when the origin has given it there may be something to store. -/
theorem Populating.parts {steps : List CacheEvent} {k : Counters → Counters} {r : Except Halt Copy}
    (h : c.Populating w source url o es steps k r) :
    ∃ fetched storing sent, es = fetched ++ storing ∧
      c.origin.http.Sending w (Origin.order url.text) fetched sent ∧
      ((storing = [] ∧ ∀ x, r ≠ .ok x) ∨ c.Accepts w .origin fetched ∧
        ∃ path content u x, c.store.Storing w cacheNamespace path content u storing x ∧
          ((∃ y, r = .ok y) → ∃ info, x.result = .ok info)) := by
  cases h with
  | unfetched fetching | unspooled fetching =>
    exact ⟨es, [], _, by simp, fetching, .inl ⟨rfl, by simp⟩⟩
  | stored fetching fetched _ _ _ storing =>
    obtain ⟨r, hanswered, hsuccess, -⟩ := Origin.outcome_eq_ok fetched
    refine ⟨_, _, _, rfl, fetching, .inr ⟨accepts_of_sending fetching hanswered hsuccess rfl (by simp),
      _, _, _, _, storing, ?_⟩⟩
    rintro ⟨y, hy⟩
    obtain ⟨info, hinfo, -⟩ := settled_eq_ok hy
    exact ⟨info, hinfo⟩

theorem Follows.weaken {done' : Prop} (h : c.Follows w script es done) (hdone : done' → done) :
    c.Follows w script es done' :=
  ⟨h.order, h.once, h.accepted, fun hd => h.complete (hdone hd)⟩

theorem Populating.follows {steps : List CacheEvent} {k : Counters → Counters} {r : Except Halt Copy}
    (h : c.Populating w source url o es steps k r) :
    c.Follows w [.origin, .call .createArtifact, .upload, .call .finalizeArtifact] es
      (∃ x, r = .ok x) := by
  obtain ⟨fetched, storing, sent, rfl, fetching, hstoring⟩ := h.parts
  have once (hne : fetched ≠ []) : Once c.origin.http w .origin fetched :=
    .made (fetching.oneRequest hne rfl)
  obtain ⟨rfl, hr⟩ | ⟨accepted, path, content, u, x, storing, hdone⟩ := hstoring
  · have undone : ¬ ∃ x, r = .ok x := by simpa using hr
    rw [List.append_nil]
    exact .last fetching.purpose_eq (by simp) once undone.elim undone.elim
  · exact .cons fetching.purpose_eq (by simp) once (fun _ => accepted)
      ((follows_of_storing storing).weaken hdone)

/-! ## Where requests go -/

/-- The first request goes to a URL, without its user name, password and fragment. -/
def GoesTo (url : String) (es : List Exchange) : Prop :=
  ∃ first rest target, es = first :: rest ∧ Url.read url = .ok target ∧
    first.request.url = target.withoutUser.withoutFragment

theorem goesTo_of_sending {http : Http.Client} {order : Http.Order} {sent : Http.Sent} {url : String}
    (h : http.Sending w order es sent) (hurl : order.url = url) (hne : es ≠ []) : GoesTo url es := by
  obtain ⟨first, rest, rfl⟩ := List.exists_cons_of_ne_nil hne
  obtain ⟨-, -, -, -, target, hread, htarget⟩ := h.head_request
  exact ⟨first, rest, target, rfl, hurl ▸ hread, htarget⟩

/-- The requests of a call that looks for copies of a source, as far as it makes them. The listing asks
for the copies that have the source and the expected digest as labels, and content goes to and comes
from the signed URL of the answer before. -/
structure Directed (source : String) (url : Url) (o : CacheOptions) (es : List Exchange) : Prop where
  listing : madeFor (.call .listArtifacts) es ≠ [] → Metadata.Client.Posts .listArtifacts
    (Metadata.ListRequest.document ⟨[cacheNamespace], filterFor source (expected o)⟩)
    (madeFor (.call .listArtifacts) es)
  download : madeFor .download es ≠ [] → ∃ location,
    Metadata.Client.Answers .resolveArtifact Metadata.ReadLocation.ofDocument?
      (madeFor (.call .resolveArtifact) es) location ∧ GoesTo location.url (madeFor .download es)
  origin : madeFor .origin es ≠ [] → GoesTo url.text (madeFor .origin es)
  upload : madeFor .upload es ≠ [] → ∃ location,
    Metadata.Client.Answers .createArtifact Metadata.WriteLocation.ofDocument?
      (madeFor (.call .createArtifact) es) location ∧ GoesTo location.url (madeFor .upload es)

/-- What is read is at the signed URL of the answer before. -/
theorem reads_at_of_opening {path : String} {r : Except Halt (Stream × ArtifactInfo)}
    (h : c.store.Opening w cacheNamespace path es r) (hne : madeFor .download es ≠ []) :
    ∃ location, Metadata.Client.Answers .resolveArtifact Metadata.ReadLocation.ofDocument?
      (madeFor (.call .resolveArtifact) es) location ∧ GoesTo location.url (madeFor .download es) := by
  cases h with
  | unfound finding =>
    exact absurd (madeFor_eq_nil fun e he => by simp [finding.purpose_eq e he]) hne
  | @found found got location sent finding reading =>
    have hgot : ∀ e ∈ got, e.purpose = .download := reading.purpose_eq
    obtain ⟨hfound, hgot⟩ := madeFor_two finding.purpose_eq hgot (by simp)
    rw [hgot] at hne ⊢
    rw [hfound]
    exact ⟨location, finding.answers, goesTo_of_sending reading rfl hne⟩

/-- What is sent goes to the signed URL of the answer before. -/
theorem sends_to_of_storing {path : String} {content : Source} {u : UploadOptions}
    {x : Consumed ArtifactInfo} (h : c.store.Storing w cacheNamespace path content u es x)
    (hne : madeFor .upload es ≠ []) :
    ∃ location, Metadata.Client.Answers .createArtifact Metadata.WriteLocation.ofDocument?
      (madeFor (.call .createArtifact) es) location ∧ GoesTo location.url (madeFor .upload es) := by
  have transmitted {opened sent : List Exchange} {location : Metadata.WriteLocation} {m : Measured}
      {delivery : Http.Sent} {taken : Stream}
      (opening : c.store.Opens w cacheNamespace path u opened (.ok location))
      (transmitting : c.store.Transmits w location.url content u m sent delivery taken)
      (hne : madeFor .upload (opened ++ sent) ≠ []) :
      ∃ location, Metadata.Client.Answers .createArtifact Metadata.WriteLocation.ofDocument?
        (madeFor (.call .createArtifact) (opened ++ sent)) location ∧
        GoesTo location.url (madeFor .upload (opened ++ sent)) := by
    have hsent : ∀ e ∈ sent, e.purpose = .upload := transmitting.sending.purpose_eq
    obtain ⟨hopened, hsent⟩ := madeFor_two opening.purpose_eq hsent (by simp)
    rw [hsent] at hne ⊢
    rw [hopened]
    exact ⟨location, opening.answers, goesTo_of_sending transmitting.sending rfl hne⟩
  cases h with
  | unopened opening | unmeasured opening =>
    exact absurd (madeFor_eq_nil fun e he => by simp [opening.purpose_eq e he]) hne
  | unsent opening transmitting => exact transmitted opening transmitting hne
  | @sent opened sent closed _ _ _ _ _ _ opening transmitting _ _ sealing =>
    -- The requests that seal the content serve neither purpose.
    have hsame (p : Purpose) (hp : .call .finalizeArtifact ≠ p) :
        madeFor p (opened ++ (sent ++ closed)) = madeFor p (opened ++ sent) := by
      have hclosed : madeFor p closed = [] :=
        madeFor_eq_nil fun e he => by rw [sealing.purpose_eq e he]; exact hp
      rw [← List.append_assoc, madeFor_append, hclosed, List.append_nil]
    rw [hsame .upload (by simp)] at hne ⊢
    rw [hsame (.call .createArtifact) (by simp)]
    exact transmitted opening transmitting hne

theorem directed_of_opening {path : String} {r : Except Halt (Stream × ArtifactInfo)}
    (h : c.store.Opening w cacheNamespace path es r) : Directed source url o es := by
  have follows := follows_of_opening h
  constructor
  case listing => exact fun hne => absurd (follows.madeFor_eq_nil (by simp)) hne
  case origin => exact fun hne => absurd (follows.madeFor_eq_nil (by simp)) hne
  case upload => exact fun hne => absurd (follows.madeFor_eq_nil (by simp)) hne
  case download => exact reads_at_of_opening h

theorem Populating.directed {steps : List CacheEvent} {k : Counters → Counters} {r : Except Halt Copy}
    (h : c.Populating w source url o es steps k r) : Directed source url o es := by
  have follows := h.follows
  obtain ⟨fetched, storing, sent, rfl, fetching, hstoring⟩ := h.parts
  have hfetched : ∀ e ∈ fetched, e.purpose = .origin := fetching.purpose_eq
  constructor
  case listing => exact fun hne => absurd (follows.madeFor_eq_nil (by simp)) hne
  case download => exact fun hne => absurd (follows.madeFor_eq_nil (by simp)) hne
  case origin =>
    intro hne
    have hnone : madeFor .origin storing = [] := by
      obtain ⟨rfl, -⟩ | ⟨-, path, content, u, x, storing, -⟩ := hstoring
      · rfl
      · exact (follows_of_storing storing).madeFor_eq_nil (by simp)
    rw [madeFor_append, hnone, List.append_nil, madeFor_eq_self hfetched] at hne ⊢
    exact goesTo_of_sending fetching rfl hne
  case upload =>
    intro hne
    rw [madeFor_append_of_ne hfetched (by simp)] at hne ⊢
    rw [madeFor_append_of_ne hfetched (by simp)]
    obtain ⟨rfl, -⟩ | ⟨-, path, content, u, x, storing, -⟩ := hstoring
    · exact absurd rfl hne
    · exact sends_to_of_storing storing hne

/-- What follows an answered listing follows the rest of one of the two scripts. -/
theorem Proceeding.follows {listed : List Artifact} {steps : List CacheEvent}
    {k : Counters → Counters} {r : Except Halt Copy}
    (h : c.Proceeding w source url o listed es steps k r) :
    ∃ fromCache, (∀ x, r = .ok x → x.info.fromCache = fromCache) ∧
      c.Follows w (scriptOf fromCache).tail es (∃ x, r = .ok x) ∧ Directed source url o es := by
  cases h with
  | hit _ _ serving =>
    cases serving with
    | unopened opening =>
      exact ⟨true, by simp, (follows_of_opening opening).weaken (by simp), directed_of_opening opening⟩
    | served opening =>
      refine ⟨true, ?_, (follows_of_opening opening).weaken fun _ => ⟨_, rfl⟩,
        directed_of_opening opening⟩
      rintro x hx
      rw [← Except.ok.inj hx]
  | missing _ populating | stale _ _ _ populating =>
    refine ⟨false, ?_, populating.follows, populating.directed⟩
    rintro x rfl
    exact populating.fromCache

/-! ## Calls -/

/-- The listing comes first, and says which copies are wanted. -/
theorem Directed.after_listing {asked : List Exchange} {x : Except Halt (List Artifact)}
    (h : Directed source url o fs) (listing : c.Lists w source o asked x)
    (hfs : ∀ e ∈ fs, e.purpose ≠ .call .listArtifacts) : Directed source url o (asked ++ fs) := by
  have hrest (p : Purpose) (hp : p ≠ .call .listArtifacts) : madeFor p (asked ++ fs) = madeFor p fs :=
    madeFor_append_of_ne listing.purpose_eq hp
  constructor
  case listing =>
    intro hne
    rw [madeFor_append_self listing.purpose_eq hfs] at hne ⊢
    exact listing.posts_of_ne_nil hne
  case download =>
    rw [hrest .download (by simp), hrest (.call .resolveArtifact) (by simp)]
    exact h.download
  case origin =>
    rw [hrest .origin (by simp)]
    exact h.origin
  case upload =>
    rw [hrest .upload (by simp), hrest (.call .createArtifact) (by simp)]
    exact h.upload

/-- The work of a call follows one of the two scripts. -/
theorem Looking.follows {steps : List CacheEvent} {k : Counters → Counters} {r : Except Halt Copy}
    (h : c.Looking w source url o es steps k r) :
    ∃ fromCache, (∀ x, r = .ok x → x.info.fromCache = fromCache) ∧
      c.Follows w (scriptOf fromCache) es (∃ x, r = .ok x) ∧ Directed source url o es := by
  cases h with
  | @unlisted _ halt listing =>
    have undone : ¬ ∃ x : Copy, (.error halt : Except Halt Copy) = .ok x := by simp
    have nothing : Directed source url o [] := by
      constructor <;> exact fun hne => absurd rfl hne
    have directed := nothing.after_listing listing (by simp)
    rw [List.append_nil] at directed
    exact ⟨true, by simp,
      .last listing.purpose_eq (by simp) listing.once undone.elim undone.elim, directed⟩
  | @listed asked fs _ _ _ _ listing proceeding =>
    obtain ⟨fromCache, hfrom, follows, directed⟩ := proceeding.follows
    have hscript : scriptOf fromCache = .call .listArtifacts :: (scriptOf fromCache).tail := by
      cases fromCache <;> rfl
    have hnew : .call .listArtifacts ∉ (scriptOf fromCache).tail := by
      cases fromCache <;> decide
    refine ⟨fromCache, hfrom, ?_, ?_⟩
    · rw [hscript]
      exact .cons listing.purpose_eq hnew listing.once (fun _ => accepts_of_calling listing fun _ => rfl)
        follows
    · refine directed.after_listing listing fun e he heq => hnew ?_
      rw [← heq]
      exact follows.purpose_mem e he

/-- **A call follows one of two scripts**, and goes through the whole script when it ends well. A source
that is no address of the web makes it fail without a trace. -/
theorem copy_follows (c : Cache) (source : String) (o : CacheOptions) (w : World) (j : Journal) :
    ((∀ url, ¬ IsWebAddress source url) ∧
      ∃ detail, c.copy source o w j = (.error (.failed (.invalidUrl detail)), j)) ∨
    ∃ url fromCache es, IsWebAddress source url ∧
      (c.copy source o w j).2.exchanges = j.exchanges ++ es ∧
      c.Follows (limited o.timeout w j) (scriptOf fromCache) es
        (∃ x, (c.copy source o w j).1 = .ok x) ∧
      ((scriptOf fromCache).filter (madeFor · es ≠ [])) <+: scriptOf fromCache ∧
      Directed source url o es ∧
      ∀ x, (c.copy source o w j).1 = .ok x → x.info.fromCache = fromCache := by
  obtain ⟨url, hs, haddress⟩ | ⟨detail, hs, hno⟩ := readSource_cases source
  · refine .inr ?_
    obtain ⟨n, hg, -, steps, -, looking⟩ :=
      c.lookup_openly (limited o.timeout w j) source url o (begun j)
    obtain ⟨fromCache, hfrom, follows, directed⟩ := looking.follows
    rw [copy_apply hs]
    refine ⟨url, fromCache, n.exchanges, haddress, hg.exchanges, ?_, follows.begins, directed, ?_⟩
    · refine follows.weaken ?_
      rintro ⟨x, hx⟩
      exact ⟨x, overtaken_eq_ok.1 hx⟩
    · intro x hx
      exact hfrom x (overtaken_eq_ok.1 hx)
  · exact .inl ⟨hno, detail, copy_of_invalid hs w j⟩

end Cache

end ContentCache
