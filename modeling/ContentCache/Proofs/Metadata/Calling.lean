import ContentCache.Metadata.Client
import ContentCache.Proofs.Http.Trail

/-!
# The exchanges of a metadata call

A call posts its document once, or a second time when the first answer does not accept the token.

* `Method.decode`: how the document of an answer to a method is read.
* `Client.Posting`: the exchanges and the end that can come of posting a document.
* `Client.Calling`: the same of a whole call, one rule for each way that it can go.

Main statements: `call_quietly` (what a call does is one of these ways), `Calling.documents` (every
request that is not a redirect carries the document of the call) and `Calling.ok_last` (the value of a
call is what the last answer says).
-/

namespace ContentCache.Metadata

/-- What a method answers. -/
def Method.Result : Method → Type
  | .createArtifact => WriteLocation
  | .finalizeArtifact => Artifact
  | .resolveArtifact => ReadLocation
  | .listArtifacts => List Artifact

/-- The answer to a method, from its document. -/
def Method.decode : (method : Method) → Json → Option method.Result
  | .createArtifact => WriteLocation.ofDocument?
  | .finalizeArtifact => sealedOfDocument?
  | .resolveArtifact => ReadLocation.ofDocument?
  | .listArtifacts => listedOfDocument?

namespace Client

variable {α : Type} {c : Client} {w : World} {method : Method} {request : Json}
  {decode : Json → Option α} {es : List Exchange}

/-- The exchanges and the end that can come of posting a document. -/
inductive Posting (c : Client) (w : World) (method : Method) (request : Json) (force : Bool) :
    List Exchange → Except Halt Http.Response → Prop where
  | unissued {f : Failure} {asked : List Bool} (h : c.tokens.issue w.files asked force = .error f) :
      Posting c w method request force [] (.error (.failed f))
  | posted {token : String} {asked : List Bool} {es : List Exchange} {sent : Http.Sent}
      (h : c.tokens.issue w.files asked force = .ok token)
      (sending : c.http.Sending w (c.order method token request) es sent) :
      Posting c w method request force es (sent.response (unanswered method))

/-- The exchanges and the end that can come of a call. -/
inductive Calling (c : Client) (w : World) (method : Method) (request : Json)
    (decode : Json → Option α) : List Exchange → Except Halt α → Prop where
  | halted {es : List Exchange} {h : Halt} (first : c.Posting w method request false es (.error h)) :
      Calling c w method request decode es (.error h)
  | answered {es : List Exchange} {r : Http.Response}
      (first : c.Posting w method request false es (.ok r)) (hr : r.status ≠ unauthorized) :
      Calling c w method request decode es ((accept method decode r).mapError .failed)
  | haltedAgain {es fs : List Exchange} {r : Http.Response} {h : Halt}
      (first : c.Posting w method request false es (.ok r)) (hr : r.status = unauthorized)
      (second : c.Posting w method request true fs (.error h)) :
      Calling c w method request decode (es ++ fs) (.error h)
  | answeredAgain {es fs : List Exchange} {r s : Http.Response}
      (first : c.Posting w method request false es (.ok r)) (hr : r.status = unauthorized)
      (second : c.Posting w method request true fs (.ok s)) :
      Calling c w method request decode (es ++ fs) ((accept method decode s).mapError .failed)

/-- The requests of a call that has been made: those that are not redirects carry its document. -/
structure Posts (method : Method) (request : Json) (es : List Exchange) : Prop where
  made : ∃ e rest, es = e :: rest ∧ e.hop = 0
  purpose : ∀ e ∈ es, e.purpose = .call method
  document : ∀ e ∈ es, e.hop = 0 →
    e.request.method = .post ∧ e.request.body = Bytes.ofText request.write

/-- The value of a call is what the reply to its last request says. -/
def Answers (method : Method) (decode : Json → Option α) (es : List Exchange) (a : α) : Prop :=
  ∃ front e after reply, es = front ++ [e] ∧ e.answer = .reply after reply ∧
    accept method decode (Http.Reply.response reply) = .ok a

/-- What is accepted is an answer of success with a document that can be understood. -/
theorem accept_eq_ok {r : Http.Response} {a : α} (h : accept method decode r = .ok a) :
    Http.isSuccess r.status = true ∧ (document? r).bind decode = some a := by
  unfold accept at h
  split at h
  · next hs =>
    cases hd : (document? r).bind decode with
    | none => rw [hd] at h; cases h
    | some b => rw [hd] at h; exact ⟨hs, congrArg some (Except.ok.inj h)⟩
  · cases h

/-! ## What a call does -/

theorem issueToken_quietly (c : Client) (w : World) (force : Bool) :
    (c.issueToken force).Quietly w fun es r =>
      es = [] ∧ ∃ asked, r = (c.tokens.issue w.files asked force).mapError .failed := by
  intro j
  refine ⟨{ asked := [force] }, ?_, ⟨rfl, rfl, rfl⟩, ?_⟩
  · unfold issueToken
    cases c.tokens.issue w.files j.asked force <;> constructor <;> simp [Act.ofExcept]
  · refine ⟨rfl, j.asked, ?_⟩
    unfold issueToken
    cases c.tokens.issue w.files j.asked force <;> rfl

theorem post_quietly (c : Client) (w : World) (method : Method) (request : Json) (force : Bool) :
    (c.post method request force).Quietly w (c.Posting w method request force) := by
  refine (c.issueToken_quietly w force).bind ?_ ?_
  · rintro es h ⟨rfl, asked, hr⟩
    cases hi : c.tokens.issue w.files asked force with
    | ok token => rw [hi] at hr; cases hr
    | error f => rw [hi] at hr; cases hr; exact .unissued hi
  · rintro es token ⟨rfl, asked, hr⟩
    cases hi : c.tokens.issue w.files asked force with
    | error f => rw [hi] at hr; cases hr
    | ok token' =>
      rw [hi] at hr
      cases hr
      refine (c.http.ask_quietly w _ _).mono ?_
      rintro es r ⟨sent, hs, rfl⟩
      exact .posted hi hs

/-- **A metadata call**, as it is seen from outside. -/
theorem call_quietly (c : Client) (w : World) (method : Method) (request : Json)
    (decode : Json → Option α) :
    (c.call method request decode).Quietly w (c.Calling w method request decode) := by
  refine (c.post_quietly w method request false).bind (fun es h first => .halted first) ?_
  intro es r first
  split
  · next hr =>
    refine (c.post_quietly w method request true).bind (fun fs h second => ?_) fun fs s second => ?_
    · exact .haltedAgain first hr second
    · exact Act.quietly_ofExcept _ (by simpa using .answeredAgain first hr second)
  · next hr => exact Act.quietly_ofExcept _ (by simpa using .answered first hr)

/-! ## What follows for its exchanges -/

namespace Posting

variable {force : Bool} {r : Except Halt Http.Response}

theorem purpose_eq (h : c.Posting w method request force es r) :
    ∀ e ∈ es, e.purpose = .call method := by
  cases h with
  | unissued => simp
  | posted _ sending => exact sending.purpose_eq

theorem methods (h : c.Posting w method request force es r) :
    ∀ e ∈ es, e.request.method = .post ∨ e.request.method = .get := by
  cases h with
  | unissued => simp
  | posted _ sending => exact sending.methods

/-- The first exchange carries the document. -/
theorem head_request {e : Exchange} (h : c.Posting w method request force (e :: es) r) :
    e.hop = 0 ∧ e.request.method = .post ∧ e.request.body = Bytes.ofText request.write ∧
      ∃ url, Url.read (c.methodUrl method) = .ok url ∧
        e.request.url = url.withoutUser.withoutFragment := by
  cases h with
  | posted _ sending =>
    obtain ⟨hh, hm, hb, -, hu⟩ := sending.head_request
    exact ⟨hh, hm, (Option.some.inj hb).symm, hu⟩

theorem hop_pos_of_mem_tail {e : Exchange} (h : c.Posting w method request force (e :: es) r) :
    ∀ f ∈ es, 0 < f.hop := by
  cases h with
  | posted _ sending => exact sending.hop_pos_of_mem_tail

/-- A request that is not a redirect carries the document. -/
theorem documents (h : c.Posting w method request force es r) :
    ∀ e ∈ es, e.hop = 0 → e.request.method = .post ∧ e.request.body = Bytes.ofText request.write := by
  intro e he hh
  cases es with
  | nil => cases he
  | cons f rest =>
    rcases List.mem_cons.1 he with rfl | he
    · exact ⟨h.head_request.2.1, h.head_request.2.2.1⟩
    · have := h.hop_pos_of_mem_tail e he
      omega

/-- **A document is carried by every request that posts**, also by those that repeat it elsewhere. -/
theorem carries (h : c.Posting w method request force es r) :
    ∀ e ∈ es, e.request.method = .post → e.request.body = Bytes.ofText request.write := by
  cases h with
  | unissued => simp
  | posted _ sending =>
    intro e he hpost
    rcases sending.carries e he with hget | hbody
    · rw [hpost] at hget
      cases hget
    · exact (Option.some.inj hbody).symm

/-- An answer is the reply of the last exchange. -/
theorem ok_last {resp : Http.Response} (h : c.Posting w method request force es (.ok resp)) :
    ∃ front e reply, es = front ++ [e] ∧ c.http.reply? w e = some reply ∧
      resp = reply.response := by
  generalize hr : (.ok resp : Except Halt Http.Response) = r at h
  cases h with
  | unissued => cases hr
  | posted _ sending =>
    unfold Http.Sent.response at hr
    split at hr
    · next resp' hd =>
      obtain rfl := Except.ok.inj hr
      exact sending.answered_last hd
    · cases hr
    · cases hr

end Posting

namespace Calling

variable {r : Except Halt α}

/-- What holds of the exchanges of every posting of a call holds of all its exchanges. -/
theorem forall_mem {p : Exchange → Prop} (h : c.Calling w method request decode es r)
    (hp : ∀ force fs x, c.Posting w method request force fs x → ∀ e ∈ fs, p e) : ∀ e ∈ es, p e := by
  cases h with
  | halted first | answered first => exact hp _ _ _ first
  | haltedAgain first _ second | answeredAgain first _ second =>
    intro e he
    rcases List.mem_append.1 he with he | he
    · exact hp _ _ _ first e he
    · exact hp _ _ _ second e he

theorem purpose_eq (h : c.Calling w method request decode es r) :
    ∀ e ∈ es, e.purpose = .call method :=
  h.forall_mem fun _ _ _ posting => posting.purpose_eq

/-- Nothing is sent to the metadata service but documents, and requests for content that follow. -/
theorem methods (h : c.Calling w method request decode es r) :
    ∀ e ∈ es, e.request.method = .post ∨ e.request.method = .get :=
  h.forall_mem fun _ _ _ posting => posting.methods

/-- **Every request that is not a redirect carries the document of the call.** -/
theorem documents (h : c.Calling w method request decode es r) :
    ∀ e ∈ es, e.hop = 0 → e.request.method = .post ∧ e.request.body = Bytes.ofText request.write :=
  h.forall_mem fun _ _ _ posting => posting.documents

theorem carries (h : c.Calling w method request decode es r) :
    ∀ e ∈ es, e.request.method = .post → e.request.body = Bytes.ofText request.write :=
  h.forall_mem fun _ _ _ posting => posting.carries

/-- A call that sends anything begins with a request that is not a redirect. -/
theorem head_hop {e : Exchange} (h : c.Calling w method request decode (e :: es) r) : e.hop = 0 := by
  -- A second posting comes behind a first one that got an answer, and so has sent something.
  generalize hes : e :: es = fs at h
  have head {gs : List Exchange} {resp} (first : c.Posting w method request false gs (.ok resp)) :
      ∃ g rest, gs = g :: rest ∧ g.hop = 0 := by
    obtain ⟨front, e, reply, rfl, -⟩ := first.ok_last
    cases front with
    | nil => exact ⟨e, [], rfl, first.head_request.1⟩
    | cons g rest =>
      rw [List.cons_append] at first ⊢
      exact ⟨g, _, rfl, first.head_request.1⟩
  cases h with
  | halted first | answered first =>
    subst hes
    exact first.head_request.1
  | haltedAgain first | answeredAgain first =>
    obtain ⟨g, rest, rfl, hg⟩ := head first
    obtain ⟨rfl, -⟩ := List.cons.inj hes
    exact hg

/-- **The value of a call is what the last answer says.** -/
theorem ok_last {a : α} (h : c.Calling w method request decode es (.ok a)) :
    ∃ front e reply, es = front ++ [e] ∧ c.http.reply? w e = some reply ∧
      accept method decode reply.response = .ok a := by
  have accepted {resp : Http.Response}
      (hr : (.ok a : Except Halt α) = (accept method decode resp).mapError .failed) :
      accept method decode resp = .ok a := by
    cases ha : accept method decode resp with
    | ok b => rw [ha] at hr; cases hr; rfl
    | error f => rw [ha] at hr; cases hr
  generalize hr : (.ok a : Except Halt α) = r at h
  cases h with
  | halted | haltedAgain => cases hr
  | answered first =>
    obtain ⟨front, e, reply, rfl, he, rfl⟩ := first.ok_last
    exact ⟨front, e, reply, rfl, he, accepted hr⟩
  | @answeredAgain es _ _ _ first _ second =>
    obtain ⟨front, e, reply, rfl, he, rfl⟩ := second.ok_last
    exact ⟨es ++ front, e, reply, by simp, he, accepted hr⟩

/-- A call of which anything is sent has been made. -/
theorem posts_of_ne_nil (h : c.Calling w method request decode es r) (hne : es ≠ []) :
    Posts method request es where
  made := by
    obtain ⟨e, rest, rfl⟩ := List.exists_cons_of_ne_nil hne
    exact ⟨e, rest, rfl, h.head_hop⟩
  purpose := h.purpose_eq
  document := h.documents

/-- A call that has a value has been made. -/
theorem posts {a : α} (h : c.Calling w method request decode es (.ok a)) : Posts method request es := by
  obtain ⟨front, e, reply, rfl, -⟩ := h.ok_last
  exact h.posts_of_ne_nil (by simp)

theorem answers {a : α} (h : c.Calling w method request decode es (.ok a)) :
    Answers method decode es a := by
  obtain ⟨front, e, reply, rfl, hr, ha⟩ := h.ok_last
  obtain ⟨after, he⟩ := Http.Client.answer_of_reply? hr
  exact ⟨front, e, after, reply, rfl, he, ha⟩

end Calling

end Client

end ContentCache.Metadata
