import ContentCache.Cache
import ContentCache.Proofs.Cache.Teeing
import ContentCache.Proofs.Store.Storing

/-!
# The course of a call

A call lists the copies of a source and goes on with what the listing answers: it serves the newest
copy, or it asks the origin and stores a new one. What can be seen of that are the requests that are
made, the steps that a listener is told about, the counters and the end.

* `Cache.Serving`, `Cache.Populating`: what can come of serving a copy and of storing a new one.
* `Cache.Proceeding`, `Cache.Looking`: what can come of an answered listing and of a call.
* `Cache.proceed`: what a call does after its listing.
* `Cache.Dated`: the requests of storing a copy belong to one instant.

Main statements: `populate_dated` (which place and end of life a new copy is given), `lookup_openly` (what
a call does is one of these ways) and `copy_apply` (how the limit of time and the counting of calls lie
around that).
-/

namespace ContentCache

/-! ## Fetching -/

namespace Origin

/-- What fetching comes to, by what became of its request. -/
def outcome (url : String) (sent : Http.Sent) : Except Halt OriginContent :=
  match sent.response (unanswered url) with
  | .ok r => (accept url r).mapError .failed
  | .error h => .error h

/-- Content is what an answer of success has. -/
theorem outcome_eq_ok {url : String} {sent : Http.Sent} {content : OriginContent}
    (h : outcome url sent = .ok content) :
    ∃ r, sent.delivery = .answered r ∧ Http.isSuccess r.status = true ∧
      content = ⟨r.contentLength.filter (0 < ·), r.body⟩ := by
  unfold outcome Http.Sent.response accept at h
  cases hd : sent.delivery with
  | failed | interrupted => simp [hd] at h
  | answered r =>
    simp only [hd] at h
    split at h
    · next hs => exact ⟨r, rfl, hs, (Except.ok.inj h).symm⟩
    · cases h

theorem fetch_quietly (o : Origin) (w : World) (url : String) :
    (o.fetch url).Quietly w fun es r =>
      ∃ sent, o.http.Sending w (order url) es sent ∧ r = outcome url sent := by
  refine (o.http.ask_quietly w _ _).bind ?_ ?_
  · rintro es h ⟨sent, hs, hr⟩
    exact ⟨sent, hs, by rw [outcome, ← hr]⟩
  · rintro es r ⟨sent, hs, hr⟩
    exact Act.quietly_ofExcept _ ⟨sent, by simpa using hs, by rw [outcome, ← hr]⟩

end Origin

namespace Cache

variable {c : Cache} {w : World} {source : String} {url : Url} {o : CacheOptions}

/-! ## Serving -/

/-- What can come of serving a copy. -/
inductive Serving (c : Cache) (w : World) (latest : Artifact) :
    List Exchange → List CacheEvent → (Counters → Counters) → Except Halt Copy → Prop where
  | unopened {es : List Exchange} {h : Halt}
      (opening : c.store.Opening w cacheNamespace latest.path es (.error h)) :
      Serving c w latest es [.loading latest.path latest.createdAt] id (.error h)
  | served {es : List Exchange} {body : Stream} {info : ArtifactInfo}
      (opening : c.store.Opening w cacheNamespace latest.path es (.ok (body, info))) :
      Serving c w latest es [.loading latest.path latest.createdAt, .done latest.path true]
        Counters.countHit (.ok ⟨body, ⟨info.createdAt, latest.path, info.digest, true⟩⟩)

/-- Serving a copy makes requests of two kinds. -/
theorem Serving.purpose_eq {latest : Artifact} {es : List Exchange} {steps : List CacheEvent}
    {k : Counters → Counters} {r : Except Halt Copy} (h : c.Serving w latest es steps k r) :
    ∀ e ∈ es, e.purpose = .call .resolveArtifact ∨ e.purpose = .download := by
  cases h with
  | unopened opening | served opening =>
    obtain ⟨found, got, x, rfl, finding, hgot⟩ := opening.parts
    intro e he
    rcases List.mem_append.1 he with he | he
    · exact .inl (finding.purpose_eq e he)
    · exact .inr (hgot e he)

theorem serve_openly (c : Cache) (w : World) (latest : Artifact) (o : CacheOptions) :
    (c.serve latest o).Openly w o.narrated (c.Serving w latest) := by
  refine .after_tell (.after_quietly (c.store.resolve_quietly w _ _) ?_ ?_)
  · exact fun es h opening => .unopened opening
  · rintro es ⟨body, info⟩ opening
    exact .after_count (.after_tell (Act.openly_conclude _ (by simpa using .served opening)))

/-! ## Storing a new copy -/

/-- A digest that is refused is not the expected one. -/
theorem checkDigest_eq_error {digest : Option String} {info : ArtifactInfo} {f : Failure}
    (h : checkDigest digest info = .error f) :
    ∃ d, digest = some d ∧ info.digest.getD "" ≠ d ∧ f = .digestMismatch d (info.digest.getD "") := by
  cases digest with
  | none => cases h
  | some d =>
    by_cases heq : info.digest.getD "" = d
    · simp [checkDigest, heq] at h
    · simp only [checkDigest, heq, if_false] at h
      exact ⟨d, rfl, heq, (Except.error.inj h).symm⟩

/-- Storing ends well only when the tee has kept no failure. -/
theorem storedOrTeeFailure_eq_ok {kept : Option Failure} {r : Except Halt ArtifactInfo}
    {info : ArtifactInfo} (h : storedOrTeeFailure kept r = .ok info) : kept = none ∧ r = .ok info := by
  unfold storedOrTeeFailure at h
  split at h
  · cases h
  · cases h
  · exact ⟨rfl, h⟩

/-- How a call ends whose content has been given to the store by way of a tee, which blames an error among
the items that were taken on the origin or on the spool. -/
def settled (o : CacheOptions) (path : String) (spool : SpoolFile) (blame : IoError → Failure)
    (consumed : Consumed ArtifactInfo) : Except Halt Copy :=
  match storedOrTeeFailure (consumed.taken.firstError?.map blame) consumed.result with
  | .error h => .error h
  | .ok info =>
    match checkDigest (expected o) info with
    | .error f => .error (.failed f)
    | .ok _ =>
      match spool.rewind with
      | .error f => .error (.failed f)
      | .ok _ => .ok ⟨bytesStream consumed.taken.bytes, ⟨info.createdAt, path, info.digest, false⟩⟩

section Settled

variable {path : String} {spool : SpoolFile} {blame : IoError → Failure} {taken : Stream}

/-- A call ends as storing does, when that fails and no error was among the items that were taken. -/
theorem settled_of_error {h : Halt} (hb : taken.firstError? = none) :
    settled o path spool blame ⟨.error h, taken⟩ = .error h := by
  unfold settled
  cases h <;> simp [storedOrTeeFailure, hb]

/-- An error among the items that were taken goes before whatever storing has made of it. -/
theorem settled_of_broken {result : Except Halt ArtifactInfo} {e : IoError}
    (he : taken.firstError? = some e) (hr : result ≠ .error .interrupted) :
    settled o path spool blame ⟨result, taken⟩ = .error (.failed (blame e)) := by
  unfold settled
  match result with
  | .ok info => simp [storedOrTeeFailure, he]
  | .error (.failed f) => simp [storedOrTeeFailure, he]
  | .error .interrupted => exact absurd rfl hr

theorem settled_of_interrupted :
    settled o path spool blame ⟨.error .interrupted, taken⟩ = .error .interrupted := by
  simp [settled, storedOrTeeFailure]

/-- A call whose content has been stored ends well, with the wrong digest, or because the spool cannot be
gone back to the start of. -/
theorem settled_of_ok {info : ArtifactInfo} (hb : taken.firstError? = none) :
    settled o path spool blame ⟨.ok info, taken⟩ =
      match checkDigest (expected o) info, spool.rewinding with
      | .error f, _ => .error (.failed f)
      | .ok _, some e => .error (.failed e.failure)
      | .ok _, none => .ok ⟨bytesStream taken.bytes, ⟨info.createdAt, path, info.digest, false⟩⟩ := by
  simp only [settled, storedOrTeeFailure, hb, Option.map_none, SpoolFile.rewind]
  cases checkDigest (expected o) info <;> cases spool.rewinding <;> rfl

/-- A call ends well when its content has been stored, nothing went wrong on the way, and the digest is the
expected one. -/
theorem settled_eq_ok {consumed : Consumed ArtifactInfo} {x : Copy}
    (h : settled o path spool blame consumed = .ok x) :
    ∃ info, consumed.result = .ok info ∧ consumed.taken.firstError? = none ∧
      checkDigest (expected o) info = .ok () ∧
      x = ⟨bytesStream consumed.taken.bytes, ⟨info.createdAt, path, info.digest, false⟩⟩ := by
  obtain ⟨result, taken⟩ := consumed
  cases he : taken.firstError? with
  | some e =>
    by_cases hr : result = .error .interrupted
    · rw [hr, settled_of_interrupted] at h
      cases h
    · rw [settled_of_broken he hr] at h
      cases h
  | none =>
    cases result with
    | error halt => rw [settled_of_error he] at h; cases h
    | ok info =>
      rw [settled_of_ok he] at h
      cases hd : checkDigest (expected o) info with
      | error f => simp [hd] at h
      | ok u =>
        cases hw : spool.rewinding with
        | some e => simp [hd, hw] at h
        | none =>
          simp only [hd, hw, Except.ok.injEq] at h
          exact ⟨info, rfl, rfl, hd, h.symm⟩

end Settled

/-- The last step of a call. -/
def finale (path : String) : Except Halt Copy → List CacheEvent
  | .ok _ => [.done path false]
  | .error _ => []

/-- What can come of storing a new copy: the origin gives no content, there is no spool, or the content
passes a tee into the spool and is given to the store. -/
inductive Populating (c : Cache) (w : World) (source : String) (url : Url) (o : CacheOptions) :
    List Exchange → List CacheEvent → (Counters → Counters) → Except Halt Copy → Prop where
  | unfetched {es : List Exchange} {sent : Http.Sent} {h : Halt}
      (fetching : c.origin.http.Sending w (Origin.order url.text) es sent)
      (failed : Origin.outcome url.text sent = .error h) :
      Populating c w source url o es [.fetching source] Counters.countOriginFetch (.error h)
  | unspooled {es : List Exchange} {sent : Http.Sent} {content : OriginContent} {f : Failure}
      (fetching : c.origin.http.Sending w (Origin.order url.text) es sent)
      (fetched : Origin.outcome url.text sent = .ok content)
      (spooling : w.newSpool c.spoolDirectory = .error f) :
      Populating c w source url o es [.fetching source] Counters.countOriginFetch
        (.error (.failed f))
  | stored {es fs : List Exchange} {sent : Http.Sent} {content : OriginContent} {now : Time.Instant}
      {path : String} {spool : SpoolFile} {items : Stream} {blame : IoError → Failure}
      {consumed : Consumed ArtifactInfo}
      (fetching : c.origin.http.Sending w (Origin.order url.text) es sent)
      (fetched : Origin.outcome url.text sent = .ok content)
      (spooling : w.newSpool c.spoolDirectory = .ok spool)
      (passing : Tee.Passes spool.write [] content.body items blame)
      (named : path = CachePath.ofSource url now)
      (storing : c.store.Storing w cacheNamespace path (.stream items)
        (c.uploadOptions source o now content.length) fs consumed) :
      Populating c w source url o (es ++ fs)
        ([.fetching source, .uploading path] ++ finale path (settled o path spool blame consumed))
        (fun k => k.countOriginFetch.countBytes consumed.taken.bytes.length)
        (settled o path spool blame consumed)

/-- What is left to do when it is settled how a call ends: to tell when it has gone well. -/
def settlement (o : CacheOptions) (path : String) (r : Except Halt Copy) : Act Copy := do
  let x ← Act.conclude r
  Act.tell o.narrated (.done path false)
  pure x

/-- What is done behind the store depends only on what was taken through the tee. -/
theorem settlement_eq (o : CacheOptions) (path : String) (spool : SpoolFile) (blame : IoError → Failure)
    (consumed : Consumed ArtifactInfo) {t : TeeStream}
    (hfailure : t.failure = consumed.taken.firstError?.map blame)
    (hheld : consumed.taken.firstError? = none → t.held = consumed.taken.bytes) :
    (do
      let info ← Act.conclude (storedOrTeeFailure t.failure consumed.result)
      Act.ofExcept (checkDigest (expected o) info)
      Act.ofExcept spool.rewind
      Act.tell o.narrated (.done path false)
      pure ⟨bytesStream t.held, ⟨info.createdAt, path, info.digest, false⟩⟩ : Act Copy) =
      settlement o path (settled o path spool blame consumed) := by
  rw [hfailure]
  unfold settled
  cases hs : storedOrTeeFailure (consumed.taken.firstError?.map blame) consumed.result with
  | error h => rfl
  | ok info =>
    -- A failure of the tee would have gone before this end, so all that was taken is in the spool.
    have hsound : consumed.taken.firstError? = none := by
      simpa using (storedOrTeeFailure_eq_ok hs).1
    rw [hheld hsound, Act.conclude_ok_bind]
    dsimp only
    cases checkDigest (expected o) info with
    | error f => rfl
    | ok u => cases spool.rewind <;> rfl

theorem settlement_openly (w : World) (o : CacheOptions) (path : String) (r : Except Halt Copy) :
    (settlement o path r).Openly w o.narrated
      fun es steps k r' => r' = r ∧ es = [] ∧ steps = finale path r ∧ k = id := by
  cases r with
  | error h => exact Act.openly_conclude (.error h) ⟨rfl, rfl, rfl, rfl⟩
  | ok x =>
    rw [settlement, Act.conclude_ok_bind]
    exact .after_tell (Act.openly_conclude (.ok x) ⟨rfl, rfl, rfl, rfl⟩)

/-- What storing a new copy does at a given instant. -/
def populateAt (c : Cache) (source : String) (url : Url) (o : CacheOptions) (now : Time.Instant) :
    Act Copy := do
  let path := CachePath.ofSource url now
  Act.tell o.narrated (.fetching source)
  Act.count .countOriginFetch
  let content ← c.origin.fetch url.text
  let spool ← Act.ofExcept (← Act.look fun w _ => w.newSpool c.spoolDirectory)
  Act.tell o.narrated (.uploading path)
  let tee := TeeStream.through spool.write content.body
  let stored ← c.store.consume cacheNamespace path (.stream tee.items)
    (c.uploadOptions source o now content.length)
  let polled := stored.taken.length
  Act.count fun k => ({ tee with counters := k }.after polled).counters
  let info ← Act.conclude (storedOrTeeFailure (tee.after polled).failure stored.result)
  Act.ofExcept (checkDigest (expected o) info)
  Act.ofExcept spool.rewind
  Act.tell o.narrated (.done path false)
  pure ⟨bytesStream (tee.after polled).held, ⟨info.createdAt, path, info.digest, false⟩⟩

theorem populate_eq (c : Cache) (source : String) (url : Url) (o : CacheOptions) :
    c.populate source url o = Act.look World.now >>= c.populateAt source url o := rfl

/-- The requests of storing a copy at an instant name its place and the end of its life. -/
abbrev Dated (c : Cache) (source : String) (url : Url) (o : CacheOptions) (now : Time.Instant) :
    List Exchange → Prop :=
  Store.Names cacheNamespace (CachePath.ofSource url now) (.ofList [(sourceLabel, source)])
    (c.expiry o now)

/-- **Storing a new copy at an instant**, as it is seen from outside. -/
theorem populateAt_openly (c : Cache) (w : World) (source : String) (url : Url) (o : CacheOptions)
    (now : Time.Instant) :
    (c.populateAt source url o now).Openly w o.narrated fun es steps k r =>
      c.Populating w source url o es steps k r ∧ c.Dated source url o now es := by
  have fetches {es : List Exchange} {sent : Http.Sent}
      (fetching : c.origin.http.Sending w (Origin.order url.text) es sent) :
      c.Dated source url o now es :=
    Store.names_of_purpose fun e he => by simp [fetching.purpose_eq e he, Origin.order]
  refine .after_tell (.after_count ?_)
  refine .after_quietly (c.origin.fetch_quietly w _) ?_ ?_
  · rintro es h ⟨sent, fetching, failed⟩
    exact ⟨.unfetched fetching failed.symm, fetches fetching⟩
  · rintro es content ⟨sent, fetching, fetched⟩
    refine .after_look fun j => ?_
    cases spooling : w.newSpool c.spoolDirectory with
    | error f =>
      refine Act.openly_conclude (.error (.failed f)) ?_
      rw [List.append_nil]
      exact ⟨.unspooled fetching fetched.symm spooling, fetches fetching⟩
    | ok spool =>
      rw [Act.ofExcept_ok_bind]
      refine .after_tell ?_
      obtain ⟨blame, passing, hkept⟩ := TeeStream.through_passes spool.write content.body
      refine .after_quietly (c.store.consume_quietly w _ _ _ _) ?_ ?_
      · rintro fs h ⟨consumed, hc, -⟩
        cases hc
      · rintro fs consumed ⟨consumed', hc, storing⟩
        obtain rfl := Except.ok.inj hc
        obtain ⟨hfailure, hheld, hcounters⟩ := hkept consumed.taken storing.taken_begins
        dsimp only
        rw [settlement_eq o _ spool blame consumed hfailure hheld]
        refine .after_count ((settlement_openly w o _ _).mono ?_)
        rintro gs steps k r ⟨rfl, rfl, rfl, rfl⟩
        rw [List.append_nil, funext hcounters]
        exact ⟨.stored fetching fetched.symm spooling passing rfl storing,
          (fetches fetching).append storing.names⟩

theorem populate_openly (c : Cache) (w : World) (source : String) (url : Url) (o : CacheOptions) :
    (c.populate source url o).Openly w o.narrated (c.Populating w source url o) := by
  rw [populate_eq]
  exact .after_look fun j => (c.populateAt_openly w source url o _).mono fun _ _ _ _ h => h.1

/-- A place has been opened for every copy that is stored. -/
theorem Populating.opens {es : List Exchange} {steps : List CacheEvent} {k : Counters → Counters} {x : Copy}
    (h : c.Populating w source url o es steps k (.ok x)) :
    ∃ e ∈ es, e.purpose = .call .createArtifact ∧ e.hop = 0 := by
  generalize hx : (.ok x : Except Halt Copy) = r at h
  cases h with
  | unfetched | unspooled => cases hx
  | @stored _ _ _ _ _ _ _ _ _ consumed _ _ _ _ _ storing =>
    obtain ⟨info, hresult, -⟩ := settled_eq_ok hx.symm
    obtain ⟨result, taken⟩ := consumed
    subst hresult
    obtain ⟨opened, _, _, _, _, _, _, rfl, opening, -⟩ := storing.ok
    obtain ⟨e, rest, rfl, hop⟩ := opening.posts.made
    exact ⟨e, by simp, opening.purpose_eq e (by simp), hop⟩

/-- **Storing a new copy** names the place and the end of life that belong to the instant at which it
begins. -/
theorem populate_dated (c : Cache) (source : String) (url : Url) (o : CacheOptions) (w : World)
    (j : Journal) : ∃ es, (c.populate source url o w j).2.exchanges = j.exchanges ++ es ∧
      c.Dated source url o (w.now j) es ∧ ∀ copy, (c.populate source url o w j).1 = .ok copy →
        ∃ e ∈ es, e.purpose = .call .createArtifact ∧ e.hop = 0 := by
  obtain ⟨n, gains, -, steps, -, populating, dated⟩ := c.populateAt_openly w source url o (w.now j) j
  refine ⟨n.exchanges, gains.exchanges, dated, fun copy hcopy => ?_⟩
  have hresult : (c.populateAt source url o (w.now j) w j).1 = .ok copy := hcopy
  rw [hresult] at populating
  exact populating.opens

/-! ## Calls -/

/-- What a call does after its listing has answered. -/
def proceed (c : Cache) (source : String) (url : Url) (o : CacheOptions) (listed : List Artifact) :
    Act Copy :=
  match newest? listed with
  | none => do
    Act.count fun k => k.countMiss false
    c.populate source url o
  | some latest =>
    if isFresh latest.createdAt o.freshAfter then c.serve latest o
    else do
      tellTooOld latest o
      Act.count fun k => k.countMiss true
      c.populate source url o

theorem lookup_eq (c : Cache) (source : String) (url : Url) (o : CacheOptions) :
    c.lookup source url o = c.listing source o >>= c.proceed source url o := rfl

/-- What can come of a listing that has answered: the newest copy is served, there is none, or it is
too old. -/
inductive Proceeding (c : Cache) (w : World) (source : String) (url : Url) (o : CacheOptions)
    (listed : List Artifact) :
    List Exchange → List CacheEvent → (Counters → Counters) → Except Halt Copy → Prop where
  | hit {latest : Artifact} {es : List Exchange} {steps : List CacheEvent} {k : Counters → Counters}
      {r : Except Halt Copy} (newest : newest? listed = some latest)
      (fresh : isFresh latest.createdAt o.freshAfter = true) (serving : c.Serving w latest es steps k r) :
      Proceeding c w source url o listed es steps k r
  | missing {es : List Exchange} {steps : List CacheEvent} {k : Counters → Counters}
      {r : Except Halt Copy} (newest : newest? listed = none)
      (populating : c.Populating w source url o es steps k r) :
      Proceeding c w source url o listed es steps (fun n => k (n.countMiss false)) r
  | stale {latest : Artifact} {threshold : Time.Instant} {es : List Exchange}
      {steps : List CacheEvent} {k : Counters → Counters} {r : Except Halt Copy}
      (newest : newest? listed = some latest) (limited : o.freshAfter = some threshold)
      (old : latest.createdAt.isBefore threshold = true)
      (populating : c.Populating w source url o es steps k r) :
      Proceeding c w source url o listed es (.tooOld latest.path latest.createdAt threshold :: steps)
        (fun n => k (n.countMiss true)) r

theorem proceed_openly (c : Cache) (w : World) (source : String) (url : Url) (o : CacheOptions)
    (listed : List Artifact) :
    (c.proceed source url o listed).Openly w o.narrated (c.Proceeding w source url o listed) := by
  unfold proceed
  split
  · next newest =>
    exact .after_count ((c.populate_openly w source url o).mono fun _ _ _ _ populating =>
      .missing newest populating)
  · next latest newest =>
    split
    · next fresh =>
      exact (c.serve_openly w latest o).mono fun _ _ _ _ serving => .hit newest fresh serving
    · next old =>
      cases limited : o.freshAfter with
      | none => simp [isFresh, limited] at old
      | some threshold =>
        have old : latest.createdAt.isBefore threshold = true := by simpa [isFresh, limited] using old
        rw [show tellTooOld latest o =
          Act.tell o.narrated (.tooOld latest.path latest.createdAt threshold) by
            simp [tellTooOld, limited]]
        refine .after_tell (.after_count ?_)
        exact (c.populate_openly w source url o).mono fun _ _ _ _ populating =>
          .stale newest limited old populating

/-- The call that lists the copies of a source. -/
abbrev Lists (c : Cache) (w : World) (source : String) (o : CacheOptions) :
    List Exchange → Except Halt (List Artifact) → Prop :=
  c.store.metadata.Calling w .listArtifacts
    (Metadata.ListRequest.document ⟨[cacheNamespace], filterFor source (expected o)⟩)
    Metadata.listedOfDocument?

theorem listing_openly (c : Cache) (w : World) (source : String) (o : CacheOptions) :
    (c.listing source o).Openly w o.narrated fun es steps k r =>
      steps = [.listing source] ∧ k = id ∧ c.Lists w source o es r := by
  refine .after_tell ?_
  rw [← bind_pure (c.store.metadata.list _)]
  refine .after_quietly (c.store.metadata.call_quietly w _ _ _) ?_ ?_
  · exact fun es h listing => ⟨rfl, rfl, listing⟩
  · intro es artifacts listing
    refine Act.openly_conclude (.ok artifacts) ?_
    rw [List.append_nil]
    exact ⟨rfl, rfl, listing⟩

/-- What can come of a call: there is no answer to the listing, or one that is gone on with. -/
inductive Looking (c : Cache) (w : World) (source : String) (url : Url) (o : CacheOptions) :
    List Exchange → List CacheEvent → (Counters → Counters) → Except Halt Copy → Prop where
  | unlisted {es : List Exchange} {h : Halt} (listing : c.Lists w source o es (.error h)) :
      Looking c w source url o es [.listing source] id (.error h)
  | listed {es fs : List Exchange} {artifacts : List Artifact} {steps : List CacheEvent}
      {k : Counters → Counters} {r : Except Halt Copy}
      (listing : c.Lists w source o es (.ok artifacts))
      (proceeding : c.Proceeding w source url o artifacts fs steps k r) :
      Looking c w source url o (es ++ fs) (.listing source :: steps) k r

/-- **The work of a call**, as it is seen from outside. -/
theorem lookup_openly (c : Cache) (w : World) (source : String) (url : Url) (o : CacheOptions) :
    (c.lookup source url o).Openly w o.narrated (c.Looking w source url o) := by
  rw [lookup_eq, listing, bind_assoc]
  refine .after_tell ?_
  refine .after_quietly (c.store.metadata.call_quietly w _ _ _) ?_ ?_
  · exact fun es h listing => .unlisted listing
  · intro es artifacts listing
    exact (c.proceed_openly w source url o artifacts).mono fun _ _ _ _ proceeding =>
      .listed listing proceeding

/-! ## Calls that end well -/

/-- A new copy has been fetched and stored. -/
theorem Populating.ok {es : List Exchange} {steps : List CacheEvent} {k : Counters → Counters}
    {x : Copy} (h : c.Populating w source url o es steps k (.ok x)) :
    ∃ fetched storing sent content write items blame now info taken,
      es = fetched ++ storing ∧ c.origin.http.Sending w (Origin.order url.text) fetched sent ∧
      Origin.outcome url.text sent = .ok content ∧ Tee.Passes write [] content.body items blame ∧
      x.info.path = CachePath.ofSource url now ∧
      c.store.Storing w cacheNamespace x.info.path (.stream items)
        (c.uploadOptions source o now content.length) storing ⟨.ok info, taken⟩ ∧
      checkDigest (expected o) info = .ok () ∧
      x = ⟨bytesStream taken.bytes, ⟨info.createdAt, x.info.path, info.digest, false⟩⟩ := by
  generalize hr : (.ok x : Except Halt Copy) = r at h
  cases h with
  | unfetched | unspooled => cases hr
  | @stored fetched storing sent content now path spool items blame consumed fetching fetched' _ passing
      named storing' =>
    obtain ⟨info, hinfo, -, hdigest, rfl⟩ := settled_eq_ok hr.symm
    obtain ⟨result, taken⟩ := consumed
    obtain rfl : result = .ok info := hinfo
    exact ⟨fetched, storing, sent, content, spool.write, items, blame, now, info, taken, rfl, fetching,
      fetched', passing, named, storing', hdigest, rfl⟩

theorem Populating.fromCache {es : List Exchange} {steps : List CacheEvent} {k : Counters → Counters}
    {x : Copy} (h : c.Populating w source url o es steps k (.ok x)) : x.info.fromCache = false := by
  generalize hr : (.ok x : Except Halt Copy) = r at h
  cases h with
  | unfetched | unspooled => cases hr
  | stored =>
    obtain ⟨info, -, -, -, rfl⟩ := settled_eq_ok hr.symm
    rfl

/-- A copy that is not from the store is a new one. -/
theorem Proceeding.new {listed : List Artifact} {es : List Exchange} {steps : List CacheEvent}
    {k : Counters → Counters} {x : Copy}
    (h : c.Proceeding w source url o listed es steps k (.ok x)) (hx : x.info.fromCache = false) :
    ∃ steps k, c.Populating w source url o es steps k (.ok x) := by
  cases h with
  | hit _ _ serving => cases serving; cases hx
  | missing _ populating | stale _ _ _ populating => exact ⟨_, _, populating⟩

/-- A call that ends well has listed the copies of its source. -/
theorem Looking.ok {es : List Exchange} {steps : List CacheEvent} {k : Counters → Counters} {x : Copy}
    (h : c.Looking w source url o es steps k (.ok x)) :
    ∃ listed rest artifacts steps, es = listed ++ rest ∧ c.Lists w source o listed (.ok artifacts) ∧
      c.Proceeding w source url o artifacts rest steps k (.ok x) := by
  cases h with
  | listed listing proceeding => exact ⟨_, _, _, _, rfl, listing, proceeding⟩

/-! ## The limit of time and the counting -/

/-- The world in which a call works that begins now and has a limit of time. -/
def limited (limit : Option Time.Span) (w : World) (j : Journal) : World :=
  match limit with
  | none => w
  | some limit => { w with deadline := some (j.elapsed.plus limit) }

/-- The end of a call whose work has ended. -/
def overtaken (limit : Option Time.Span) (r : Except Halt Copy) : Except Halt Copy :=
  match limit with
  | none => r
  | some limit => Act.ofDeadline limit r

/-- The journal at the start of the work of a call. -/
def begun (j : Journal) : Journal := { j with counters := j.counters.countRequest }

/-- The journal at the end of a call that ends in `r` and whose work has written `k`. -/
def counted (j : Journal) (r : Except Halt Copy) (k : Journal) : Journal :=
  { k with counters := countEnd r (k.counters.countDuration (k.elapsed.minus j.elapsed)) }

/-- A call that has begun at `j`, when its work has ended. -/
def concluded (limit : Option Time.Span) (j : Journal) (work : Except Halt Copy × Journal) :
    Except Halt Copy × Journal :=
  (overtaken limit work.1, counted j (overtaken limit work.1) work.2)

/-- **A call** is its work in a world with the limit of time, and counting before and after. -/
theorem copy_apply {source : String} {url : Url} (hs : readSource source = .ok url) (c : Cache)
    (o : CacheOptions) (w : World) (j : Journal) :
    c.copy source o w j =
      concluded o.timeout j (c.lookup source url o (limited o.timeout w j) (begun j)) := by
  unfold copy
  rw [hs]
  cases ht : o.timeout <;> rfl

/-- Ends are counted as failures of three kinds, and by their time. -/
theorem counted_counters (j : Journal) (r : Except Halt Copy) (k : Journal) :
    ∃ originErrors backendErrors digestMismatches microseconds, (counted j r k).counters =
      { k.counters with originErrors, backendErrors, digestMismatches, microseconds } := by
  unfold counted countEnd Counters.countFailure
  split
  · split
    · exact ⟨_, _, _, _, rfl⟩
    · split <;> exact ⟨_, _, _, _, rfl⟩
  · exact ⟨_, _, _, _, rfl⟩

/-- A limit of time does not change an end that is a value. -/
theorem overtaken_eq_ok {limit : Option Time.Span} {r : Except Halt Copy} {x : Copy} :
    overtaken limit r = .ok x ↔ r = .ok x := by
  cases limit with
  | none => rfl
  | some limit =>
    cases r with
    | ok y => rfl
    | error halt => cases halt <;> simp [overtaken, Act.ofDeadline]

/-- A limit of time does not change a failure, and makes one of an interruption. -/
theorem overtaken_failed (limit : Option Time.Span) (f : Failure) :
    overtaken limit (.error (.failed f)) = .error (.failed f) := by
  cases limit <;> rfl

theorem overtaken_error (limit : Option Time.Span) (halt : Halt) :
    ∃ halt', overtaken limit (.error halt) = .error halt' := by
  cases limit with
  | none => exact ⟨halt, rfl⟩
  | some limit =>
    cases halt with
    | failed f => exact ⟨.failed f, rfl⟩
    | interrupted => exact ⟨.failed (.deadlineExceeded limit), rfl⟩

/-- A call that ends well, as it is seen from outside. -/
theorem copy_ok {source : String} {j k : Journal} {x : Copy} (h : c.copy source o w j = (.ok x, k)) :
    ∃ url es steps counts, readSource source = .ok url ∧ k.exchanges = j.exchanges ++ es ∧
      k.events = j.events ++ Act.told o.narrated steps ∧
      c.Looking (limited o.timeout w j) source url o es steps counts (.ok x) := by
  cases hs : readSource source with
  | error f => rw [copy_of_invalid hs] at h; cases h
  | ok url =>
    rw [copy_apply hs] at h
    obtain ⟨hr, rfl⟩ := Prod.mk.inj h
    obtain ⟨n, hg, -, steps, he, hl⟩ :=
      c.lookup_openly (limited o.timeout w j) source url o (begun j)
    rw [overtaken_eq_ok.1 hr] at hl
    exact ⟨url, n.exchanges, steps, n.counts, rfl, hg.exchanges, by rw [← he]; exact hg.events, hl⟩

/-! ## Concrete runs -/

/-- An answer that is a text. -/
def said (text : String) : Http.Answer := .reply .zero { pieces := [Bytes.ofText text] }

/-- A cache with the usual settings. -/
def usual : Cache := .ofConfig { endpoint := "http://m" } (.fixed "t")

/-- The first second of 2024. -/
def newYear : Time.Instant := ⟨1704067200, 0, by decide⟩

/-- Why something has not ended in a value. -/
def haltOf {α : Type} : Except Halt α → Option Halt
  | .ok _ => none
  | .error h => some h

theorem eq_error_of_haltOf {α : Type} {r : Except Halt α} {h : Halt} (hr : haltOf r = some h) :
    r = .error h := by
  cases r with
  | ok a => cases hr
  | error h' => exact congrArg _ (Option.some.inj hr)

end Cache

end ContentCache
