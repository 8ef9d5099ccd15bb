import ContentCache.Proofs.Cache.Copying
import ContentCache.Proofs.Content

/-!
# Kinds of failures

Behind a cache there are few kinds of failures: those of the metadata service and of transfers, those of
reading and writing, and those of the token source. What holds of all of these holds of every failure of
storing and of opening. A call adds failures of its origin, of its source, of the expected digest and of
its limit of time. Only a deadline interrupts.

* `Halt.Fails`: a halt is a failure with a property, or an interruption in a world with a deadline.
* `Failure.Common`, `Failure.Usual`: a property of all failures behind a cache, and of those of calls.
* `Failure.Uncalled`: a property of those that come of no metadata call.
* `TokenSource.Fails`: a property of the failures of a token source.
* `Metadata.Client.CallsFail`: a property of the failure of the last metadata call.

Main statements: `Calling.fails`, `Looking.fails_of_calls` (the work of a call fails as its last metadata
call does, or without one) and `copy_fails`.
-/

namespace ContentCache

/-- A halt is a failure that has a property, or it comes of a deadline. -/
def Halt.Fails (P : Failure → Prop) (w : World) : Halt → Prop
  | failed f => P f
  | interrupted => w.deadline.isSome = true

/-- The failures of a token source have a property. -/
def TokenSource.Fails (P : Failure → Prop) (t : TokenSource) : Prop :=
  ∀ files asked force f, t.issue files asked force = .error f → P f

/-- A property of all failures that the service, a transfer, and reading and writing can have. -/
structure Failure.Common (P : Failure → Prop) : Prop where
  metadata : ∀ detail, P (.metadata detail)
  rejected : ∀ code message, P (.rejected code message)
  transfer : ∀ status message, P (.transfer status message)
  io : ∀ detail, P (.io detail)

/-- A property of all failures that a call can have, but for those of the token source. -/
structure Failure.Usual (P : Failure → Prop) : Prop extends Failure.Common P where
  invalidUrl : ∀ detail, P (.invalidUrl detail)
  origin : ∀ status message, P (.origin status message)
  digestMismatch : ∀ expected actual, P (.digestMismatch expected actual)
  deadlineExceeded : ∀ limit, P (.deadlineExceeded limit)

/-- A property of all failures that come of no metadata call while a call works. -/
structure Failure.Uncalled (P : Failure → Prop) : Prop where
  transfer : ∀ status message, P (.transfer status message)
  io : ∀ detail, P (.io detail)
  origin : ∀ status message, P (.origin status message)
  digestMismatch : ∀ expected actual, P (.digestMismatch expected actual)

variable {P : Failure → Prop}

theorem Failure.Usual.uncalled (hP : Failure.Usual P) : Failure.Uncalled P :=
  { hP with }

/-- What holds of everything holds of the failures of calls. -/
theorem Failure.usual_true : Failure.Usual fun _ => True :=
  ⟨⟨fun _ => trivial, fun _ _ => trivial, fun _ _ => trivial, fun _ => trivial⟩, fun _ => trivial,
    fun _ _ => trivial, fun _ _ => trivial, fun _ => trivial⟩

/-- Without a deadline every halt is a failure. -/
theorem Halt.Fails.failed {w : World} {h : Halt} (hf : h.Fails P w) (hw : w.deadline = none) :
    ∃ f, h = .failed f ∧ P f := by
  cases h with
  | failed f => exact ⟨f, rfl, hf⟩
  | interrupted =>
    rw [Halt.Fails, hw] at hf
    cases hf

/-- A fixed token never fails. -/
theorem TokenSource.fixed_fails (token : String) : (fixed token).Fails P := by
  intro files asked force f h
  cases h

/-- A token file fails with words about credentials. -/
theorem TokenSource.file_fails (path : String) (hP : ∀ detail, P (.credentials detail)) :
    (file path).Fails P := by
  intro files asked force f h
  simp only [file, readFile] at h
  split at h
  · cases h; exact hP _
  · split at h
    · cases h; exact hP _
    · cases h

/-- A token source that cannot get at the place where its tokens come from, and says so in the words of an
origin. -/
def TokenSource.outOfReach : TokenSource := ⟨fun _ _ _ => .error (.origin none "no token")⟩

/-- The usual cache with such a token source. -/
def Cache.tokenless : Cache :=
  { usual with store := { usual.store with
      metadata := { usual.store.metadata with tokens := .outOfReach } } }

/-- Only a deadline interrupts an order, and else it fails in words that depend on the client's. -/
theorem Http.Client.Sending.fails {c : Client} {w : World} {o : Order} {es : List Exchange} {sent : Sent}
    {failure : ClientError → Failure} {h : Halt} (sending : c.Sending w o es sent)
    (hP : ∀ e, P (failure e)) (hr : sent.response failure = .error h) : h.Fails P w := by
  unfold Sent.response at hr
  cases hd : sent.delivery with
  | answered r => simp [hd] at hr
  | failed e =>
    simp only [hd] at hr
    cases hr
    exact hP e
  | interrupted =>
    simp only [hd] at hr
    cases hr
    cases hw : w.deadline with
    | none => exact absurd hd (sending.not_interrupted hw)
    | some d => simp [Halt.Fails, hw]

/-- Finding out the length of a content fails with failures of reading and writing. -/
theorem resolveLength_fails {content : Source} {declared : Option Nat} {limit : Nat}
    {spillFile : Except Failure SpoolFile} {f : Failure} {taken : Stream} (hP : ∀ detail, P (.io detail))
    (hspill : ∀ f, spillFile = .error f → ∃ detail, f = .io detail)
    (h : resolveLength content declared limit spillFile = (.error f, taken)) : P f := by
  cases hd : declaredLength declared with
  | some n =>
    simp only [resolveLength, hd] at h
    cases h
  | none =>
    have hf : (resolveLength content declared limit spillFile).1 = .error f := congrArg Prod.fst h
    obtain ⟨detail, rfl⟩ := ((resolveLength_error_iff hd content limit spillFile f).1 hf).io hspill
    exact hP detail

theorem Transfer.outcome_fails {α : Type} {operation : String} {use : Http.Response → α}
    {c : Http.Client} {w : World} {order : Http.Order} {es : List Exchange} {sent : Http.Sent} {h : Halt}
    (hP : ∀ status message, P (.transfer status message)) (sending : c.Sending w order es sent)
    (ho : outcome operation use sent = .error h) : h.Fails P w := by
  unfold outcome at ho
  cases hr : sent.response (unanswered operation) with
  | error halt =>
    rw [hr] at ho
    cases ho
    exact sending.fails (fun _ => hP _ _) hr
  | ok r =>
    simp only [hr] at ho
    split at ho
    · cases ho
    · cases ho
      exact hP _ _

/-! ## Calls of the service -/

namespace Metadata.Client

variable {α : Type} {c : Client} {w : World} {method : Method} {request : Json}
  {decode : Json → Option α} {es : List Exchange} {h : Halt}

theorem Posting.fails {force : Bool} (posting : c.Posting w method request force es (.error h))
    (hP : Failure.Common P) (ht : c.tokens.Fails P) : h.Fails P w := by
  generalize hr : (.error h : Except Halt Http.Response) = r at posting
  cases posting with
  | unissued hi =>
    cases hr
    exact ht _ _ _ _ hi
  | posted _ sending => exact sending.fails (fun _ => hP.metadata _) hr.symm

/-- **A metadata call** fails with what the token source, the transport or the service fails with. -/
theorem Calling.fails (calling : c.Calling w method request decode es (.error h))
    (hP : Failure.Common P) (ht : c.tokens.Fails P) : h.Fails P w := by
  have unaccepted {r : Http.Response}
      (ha : (.error h : Except Halt α) = (accept method decode r).mapError .failed) : h.Fails P w := by
    unfold accept at ha
    split at ha
    · split at ha
      · cases ha
      · cases ha; exact hP.metadata _
    · obtain ⟨code, message, hf⟩ := refusal_eq_rejected method r.status r.text
      rw [hf] at ha
      cases ha
      exact hP.rejected _ _
  generalize hr : (.error h : Except Halt α) = r at calling
  cases calling with
  | halted posting | haltedAgain _ _ posting =>
    cases hr
    exact posting.fails hP ht
  | answered | answeredAgain => exact unaccepted hr

/-- If a metadata call made the last of some exchanges, and failed, then with a property. -/
def CallsFail (c : Client) (w : World) (P : Failure → Prop) (es : List Exchange) : Prop :=
  ∀ front called method request h, es = front ++ called →
    c.Calling w method request method.decode called (.error h) → h.Fails P w

theorem CallsFail.of_append {fs : List Exchange} (h : c.CallsFail w P (es ++ fs)) :
    c.CallsFail w P fs := by
  rintro front called method request halt rfl calling
  exact h (es ++ front) called method request halt (List.append_assoc ..).symm calling

theorem callsFail (hP : Failure.Common P) (ht : c.tokens.Fails P) : c.CallsFail w P es :=
  fun _ _ _ _ _ _ calling => calling.fails hP ht

end Metadata.Client

/-! ## Storing and opening -/

namespace Store

variable {s : Store} {w : World} {space path : String} {content : Source} {o : UploadOptions}
  {es : List Exchange} {h : Halt}

/-- **Storing** fails as its last metadata call does, or without one. -/
theorem Storing.fails_of_calls {taken : Stream}
    (storing : s.Storing w space path content o es ⟨.error h, taken⟩)
    (calls : s.metadata.CallsFail w P es) (htransfer : ∀ status message, P (.transfer status message))
    (hio : ∀ detail, P (.io detail)) : h.Fails P w := by
  generalize hx : (⟨.error h, taken⟩ : Consumed ArtifactInfo) = x at storing
  cases storing with
  | unopened opening =>
    cases hx
    exact calls [] _ .createArtifact _ _ rfl opening
  | unmeasured _ measuring =>
    cases hx
    exact resolveLength_fails hio (fun _ => World.spillFile_io) measuring
  | unsent _ transmitting refused =>
    cases hx
    exact Transfer.outcome_fails htransfer transmitting.sending refused
  | @sent _ _ _ _ _ _ _ _ r _ _ _ _ sealing =>
    cases r with
    | ok a => cases hx
    | error h' =>
      obtain ⟨rfl, -⟩ := Consumed.mk.inj hx |>.imp_left Except.error.inj
      exact calls.of_append.of_append [] _ .finalizeArtifact _ _ rfl sealing

theorem Storing.fails {taken : Stream} (storing : s.Storing w space path content o es ⟨.error h, taken⟩)
    (hP : Failure.Common P) (ht : s.metadata.tokens.Fails P) : h.Fails P w :=
  storing.fails_of_calls (Metadata.Client.callsFail hP ht) hP.transfer hP.io

/-- **Opening content** fails as its metadata call does, or the transfer. -/
theorem Opening.fails_of_calls (opening : s.Opening w space path es (.error h))
    (calls : s.metadata.CallsFail w P es) (htransfer : ∀ status message, P (.transfer status message)) :
    h.Fails P w := by
  generalize hx : (.error h : Except Halt (Stream × ArtifactInfo)) = x at opening
  cases opening with
  | unfound finding =>
    cases hx
    exact calls [] _ .resolveArtifact _ _ rfl finding
  | @found _ _ _ sent _ reading =>
    cases ho : Transfer.outcome "download" Http.Response.body sent with
    | ok body => rw [ho] at hx; cases hx
    | error h' =>
      rw [ho] at hx
      cases hx
      exact Transfer.outcome_fails htransfer reading ho

theorem Opening.fails (opening : s.Opening w space path es (.error h)) (hP : Failure.Common P)
    (ht : s.metadata.tokens.Fails P) : h.Fails P w :=
  opening.fails_of_calls (Metadata.Client.callsFail hP ht) hP.transfer

end Store

/-! ## Calls -/

namespace Cache

variable {c : Cache} {w : World} {source : String} {url : Url} {o : CacheOptions}
  {es : List Exchange} {steps : List CacheEvent} {k : Counters → Counters} {h : Halt}

/-- An origin fails with failures of an origin. -/
theorem outcome_fails {text : String} {client : Http.Client} {order : Http.Order} {sent : Http.Sent}
    (hP : ∀ status message, P (.origin status message)) (sending : client.Sending w order es sent)
    (ho : Origin.outcome text sent = .error h) : h.Fails P w := by
  unfold Origin.outcome Origin.accept at ho
  cases hr : sent.response (Origin.unanswered text) with
  | error halt =>
    rw [hr] at ho
    cases ho
    exact sending.fails (fun _ => hP _ _) hr
  | ok r =>
    simp only [hr] at ho
    split at ho
    · cases ho
    · cases ho
      exact hP _ _

/-- A call whose content has been given to the store fails as the store does, because of an error among the
items that were taken, with the wrong digest, or because the spool cannot be gone back to the start of. -/
theorem settled_fails {path : String} {spool : SpoolFile} {blame : IoError → Failure}
    {consumed : Consumed ArtifactInfo} (hs : settled o path spool blame consumed = .error h) :
    consumed.result = .error h ∨ (∃ e, consumed.taken.firstError? = some e ∧ h = .failed (blame e)) ∨
      (∃ d actual, h = .failed (.digestMismatch d actual)) ∨ ∃ e : IoError, h = .failed e.failure := by
  obtain ⟨result, taken⟩ := consumed
  cases he : taken.firstError? with
  | some e =>
    by_cases hr : result = .error .interrupted
    · rw [hr, settled_of_interrupted] at hs
      obtain rfl := Except.error.inj hs
      exact .inl hr
    · rw [settled_of_broken he hr] at hs
      exact .inr (.inl ⟨e, rfl, (Except.error.inj hs).symm⟩)
  | none =>
    cases result with
    | error halt =>
      rw [settled_of_error he] at hs
      exact .inl (congrArg Except.error (Except.error.inj hs))
    | ok info =>
      rw [settled_of_ok he] at hs
      cases hd : checkDigest (expected o) info with
      | error f =>
        obtain ⟨d, -, -, rfl⟩ := checkDigest_eq_error hd
        simp only [hd] at hs
        exact .inr (.inr (.inl ⟨d, _, (Except.error.inj hs).symm⟩))
      | ok u =>
        cases hw : spool.rewinding with
        | none => simp [hd, hw] at hs
        | some e =>
          simp only [hd, hw] at hs
          exact .inr (.inr (.inr ⟨e, (Except.error.inj hs).symm⟩))

theorem Populating.fails_of_calls (populating : c.Populating w source url o es steps k (.error h))
    (calls : c.store.metadata.CallsFail w P es) (hP : Failure.Uncalled P) : h.Fails P w := by
  generalize hr : (.error h : Except Halt Copy) = r at populating
  cases populating with
  | unfetched fetching failed =>
    cases hr
    exact outcome_fails hP.origin fetching failed
  | unspooled _ _ spooling =>
    cases hr
    obtain ⟨detail, rfl⟩ := World.newSpool_io spooling
    exact hP.io detail
  | @stored _ _ _ _ _ _ _ _ _ consumed _ _ _ passing _ storing =>
    obtain hstore | ⟨e, -, rfl⟩ | ⟨d, actual, rfl⟩ | ⟨e, rfl⟩ := settled_fails hr.symm
    · obtain ⟨result, taken⟩ := consumed
      obtain rfl : result = .error h := hstore
      exact storing.fails_of_calls calls.of_append hP.transfer hP.io
    · cases passing with
      | whole => exact hP.origin _ _
      | refused => exact hP.io _
    · exact hP.digestMismatch _ _
    · exact hP.io _

/-- **The work of a call** fails as its last metadata call does, or without one. -/
theorem Looking.fails_of_calls (looking : c.Looking w source url o es steps k (.error h))
    (calls : c.store.metadata.CallsFail w P es) (hP : Failure.Uncalled P) : h.Fails P w := by
  generalize hr : (.error h : Except Halt Copy) = r at looking
  cases looking with
  | unlisted listing =>
    cases hr
    exact calls [] _ .listArtifacts _ _ rfl listing
  | listed _ proceeding =>
    subst hr
    cases proceeding with
    | hit _ _ serving =>
      cases serving with
      | unopened opening => exact opening.fails_of_calls calls.of_append hP.transfer
    | missing _ populating | stale _ _ _ populating =>
      exact populating.fails_of_calls calls.of_append hP

/-- A source is refused as no URL. -/
theorem readSource_error {f : Failure} (hs : readSource source = .error f) :
    ∃ detail, f = .invalidUrl detail := by
  unfold readSource at hs
  split at hs
  · exact ⟨_, (Except.error.inj hs).symm⟩
  · split at hs
    · exact ⟨_, (Except.error.inj hs).symm⟩
    · split at hs
      · exact ⟨_, (Except.error.inj hs).symm⟩
      · cases hs

/-- A limit of time takes the place of a deadline. -/
theorem overtaken_fails {limit : Option Time.Span} (j : Journal) {r : Except Halt Copy}
    (ho : overtaken limit r = .error h) (hP : ∀ limit, P (.deadlineExceeded limit))
    (hr : ∀ h, r = .error h → h.Fails P (limited limit w j)) : h.Fails P w := by
  cases limit with
  | none => exact hr h ho
  | some limit =>
    match r with
    | .ok x => cases ho
    | .error (.failed f) =>
      obtain rfl : .failed f = h := Except.error.inj ho
      exact hr _ rfl
    | .error .interrupted =>
      obtain rfl : .failed (.deadlineExceeded limit) = h := Except.error.inj ho
      exact hP limit

/-- **Every failure of a call is of one of these kinds**, and only a deadline around a call interrupts
it. -/
theorem copy_fails {j : Journal} (hr : (c.copy source o w j).1 = .error h) (hP : Failure.Usual P)
    (ht : c.store.metadata.tokens.Fails P) : h.Fails P w := by
  cases hs : readSource source with
  | error f =>
    rw [copy_of_invalid hs] at hr
    obtain ⟨detail, rfl⟩ := readSource_error hs
    obtain rfl : .failed (.invalidUrl detail) = h := Except.error.inj hr
    exact hP.invalidUrl _
  | ok url =>
    obtain ⟨n, -, -, steps, -, looking⟩ :=
      c.lookup_openly (limited o.timeout w j) source url o (begun j)
    rw [copy_apply hs] at hr
    refine overtaken_fails j hr hP.deadlineExceeded fun h' hr' => ?_
    rw [hr'] at looking
    exact looking.fails_of_calls (Metadata.Client.callsFail hP.toCommon ht) hP.uncalled

/-- Without a deadline around it a call is not interrupted. -/
theorem copy_not_interrupted (c : Cache) (source : String) (o : CacheOptions) {w : World}
    (hw : w.deadline = none) (j : Journal) : (c.copy source o w j).1 ≠ .error .interrupted := by
  intro hr
  obtain ⟨f, hf, -⟩ := (copy_fails hr Failure.usual_true fun _ _ _ _ _ => trivial).failed hw
  cases hf

end Cache

end ContentCache
