import ContentCache.Proofs.Cache.Abreast
import ContentCache.Proofs.Cache.Copying

/-!
# What a listener is told

A call tells a listener the steps that it takes, and takes them as it has told. There are three scripts:
a copy is served, a new copy is stored, or a new copy is stored because the newest one is too old. A call
may break off everywhere, but it tells that it is done exactly when it ends well, and the path that it
tells is the one that it asks the store for. Whether anybody listens makes no difference to it.

* `Cache.Script`: what a call tells that ends well.
* `Metadata.Client.Asks`: the requests of a method carry one document.
* `Cache.Narrated`: what is told is the beginning of a script, and its end when the call ends well.
* `Cache.Announced`: what the store is asked for has been told.

Main statement: `copy_narrates`.
-/

namespace ContentCache

/-! ## Listeners -/

/-- Runs that may differ in what a listener is told. -/
def Leeway.narrating : Leeway where
  free _ := False
  common _ := True
  plain _ _ := trivial
  narration := True

/-- Such runs exchange the same. -/
theorem Exchanged.narrating_eq {es fs : List Exchange} (h : Exchanged .narrating es fs) : es = fs := by
  induction h with
  | nil => rfl
  | common _ _ ih => rw [ih]
  | free _ free => exact free.elim

theorem Http.Server.indifferent_narrating (s : Server) : s.Indifferent .narrating := by
  intro es fs hes purpose r r' hr
  obtain rfl := hes.narrating_eq
  obtain rfl | ⟨-, free⟩ := hr
  · rfl
  · exact free.elim

/-- What such runs leave differs in nothing else. -/
theorem Journal.Agrees.eq_with {j k : Journal} (h : j.Agrees .narrating k) :
    k = { j with events := k.events } := by
  cases j
  cases k
  obtain ⟨rfl, hexchanges, rfl, rfl, -, rfl, rfl⟩ := h
  obtain rfl := hexchanges.narrating_eq
  rfl

/-! ## Requests that carry a document -/

/-- All requests of a method carry one document. Redirects are no requests of their own. -/
def Metadata.Client.Asks (method : Metadata.Method) (document : Json) (es : List Exchange) : Prop :=
  ∀ e ∈ es, e.purpose = .call method → e.hop = 0 →
    e.request.method = .post ∧ e.request.body = Bytes.ofText document.write

namespace Metadata.Client.Asks

variable {method : Metadata.Method} {document : Json} {es fs : List Exchange}

theorem append (hes : Asks method document es) (hfs : Asks method document fs) :
    Asks method document (es ++ fs) := fun e he =>
  (List.mem_append.1 he).elim (hes e) (hfs e)

theorem of_forall_ne (h : ∀ e ∈ es, e.purpose ≠ .call method) : Asks method document es :=
  fun e he hcall => absurd hcall (h e he)

theorem of_calling {α : Type} {c : Client} {w : World} {decode : Json → Option α} {r : Except Halt α}
    (h : c.Calling w method document decode es r) : Asks method document es :=
  fun e he _ => h.documents e he

end Metadata.Client.Asks

namespace Store

open Metadata.Client (Asks)

variable {s : Store} {w : World} {space path : String} {es : List Exchange}

/-- A place to read from is asked for by the path of the content. -/
theorem Opening.asks {r : Except Halt (Stream × ArtifactInfo)} (h : s.Opening w space path es r) :
    Asks .resolveArtifact (Metadata.ResolveRequest.document ⟨space, path⟩) es := by
  obtain ⟨found, got, x, rfl, finding, hgot⟩ := h.parts
  exact (Asks.of_calling finding).append (.of_forall_ne fun e he => by simp [hgot e he])

/-- A place to write to is asked for by the path of the content. -/
theorem Storing.asks {content : Source} {o : UploadOptions} {x : Consumed ArtifactInfo}
    (h : s.Storing w space path content o es x) :
    Asks .createArtifact (Metadata.CreateRequest.document ⟨space, path, o.labels, o.expiresAt⟩) es := by
  cases h with
  | unopened opening | unmeasured opening => exact .of_calling opening
  | unsent opening transmitting =>
    refine (Asks.of_calling opening).append (.of_forall_ne fun e he => ?_)
    simp [transmitting.sending.purpose_eq e he, Transfer.putOrder]
  | sent opening transmitting _ _ sealing =>
    refine (Asks.of_calling opening).append (.append (.of_forall_ne fun e he => ?_)
      (.of_forall_ne fun e he => ?_))
    · simp [transmitting.sending.purpose_eq e he, Transfer.putOrder]
    · simp [sealing.purpose_eq e he]

end Store

namespace Cache

open Metadata.Client (Asks)

variable {c : Cache} {w : World} {source path : String} {url : Url} {o : CacheOptions}
  {freshAfter : Option Time.Instant} {fromCache : Bool} {es fs : List Exchange}
  {steps script : List CacheEvent} {counts : Counters → Counters} {r : Except Halt Copy}

/-! ## Scripts -/

/-- What a call tells that ends well, with the path of its copy and whether that comes from the store. -/
inductive Script (freshAfter : Option Time.Instant) (source path : String) :
    (fromCache : Bool) → List CacheEvent → Prop where
  | served (createdAt : Time.Instant) : Script freshAfter source path true
      [.listing source, .loading path createdAt, .done path true]
  | stored : Script freshAfter source path false
      [.listing source, .fetching source, .uploading path, .done path false]
  /-- Only a copy from before the threshold is too old. -/
  | renewed {old : String} {createdAt threshold : Time.Instant} (limited : freshAfter = some threshold)
      (earlier : createdAt.isBefore threshold = true) : Script freshAfter source path false
      [.listing source, .tooOld old createdAt threshold, .fetching source, .uploading path,
        .done path false]

/-- A script ends with the word that the call is done, which stands nowhere else. -/
theorem Script.ends (h : Script freshAfter source path fromCache script) :
    ∃ front, script = front ++ [.done path fromCache] ∧ ∀ p f, .done p f ∉ front := by
  cases h with
  | served createdAt => exact ⟨[.listing source, .loading path createdAt], rfl, by simp⟩
  | stored => exact ⟨[.listing source, .fetching source, .uploading path], rfl, by simp⟩
  | @renewed old createdAt threshold =>
    exact ⟨[.listing source, .tooOld old createdAt threshold, .fetching source, .uploading path], rfl,
      by simp⟩

/-- What a call tells of its end, where `path` and `fromCache` are those of its copy. -/
structure Narrated (freshAfter : Option Time.Instant) (source path : String) (fromCache : Bool)
    (r : Except Halt Copy) (steps : List CacheEvent) : Prop where
  /-- What is told is the beginning of a script. -/
  begins : ∃ script, Script freshAfter source path fromCache script ∧ steps <+: script
  /-- A call tells that it is done exactly when it ends well, with the copy that it returns. -/
  done : ∀ p f, .done p f ∈ steps ↔ ∃ x, r = .ok x ∧ x.info.path = p ∧ x.info.fromCache = f
  last : ∀ x, r = .ok x → steps.getLast? = some (.done x.info.path x.info.fromCache)

/-- What a call asks the store for has been told, with the path that it asks for. -/
structure Announced (source path : String) (es : List Exchange) (steps : List CacheEvent) : Prop where
  loading : ∀ e ∈ es, e.purpose = .call .resolveArtifact → ∃ createdAt, .loading path createdAt ∈ steps
  resolves : Asks .resolveArtifact (Metadata.ResolveRequest.document ⟨cacheNamespace, path⟩) es
  uploading : ∀ e ∈ es, e.purpose = .call .createArtifact → .uploading path ∈ steps
  creates : ∃ expiry, Asks .createArtifact (Metadata.CreateRequest.document
    ⟨cacheNamespace, path, .ofList [(sourceLabel, source)], expiry⟩) es

namespace Narrated

/-- A call that breaks off. -/
theorem broken {h : Halt} (begins : ∃ script, Script freshAfter source path fromCache script ∧
    steps <+: script) (undone : ∀ p f, .done p f ∉ steps) :
    Narrated freshAfter source path fromCache (.error h) steps where
  begins := begins
  done p f := iff_of_false (undone p f) (by simp)
  last := by simp

/-- A call that goes through its script. -/
theorem complete {x : Copy} (script : Script freshAfter source path fromCache steps)
    (hpath : x.info.path = path) (hfrom : x.info.fromCache = fromCache) :
    Narrated freshAfter source path fromCache (.ok x) steps := by
  obtain ⟨front, rfl, hfront⟩ := script.ends
  constructor
  case begins => exact ⟨_, script, List.prefix_rfl⟩
  case done =>
    intro p f
    simp [hfront p f, ← hpath, ← hfrom, eq_comm]
  case last =>
    intro y hy
    rw [← Except.ok.inj hy, hpath, hfrom, List.getLast?_append]
    rfl

/-- The limit of time does not change whether a call ends well. -/
theorem overtaken (h : Narrated freshAfter source path fromCache r steps) (limit : Option Time.Span) :
    Narrated freshAfter source path fromCache (overtaken limit r) steps where
  begins := h.begins
  done p f := by simpa only [overtaken_eq_ok] using h.done p f
  last x hx := h.last x (overtaken_eq_ok.1 hx)

end Narrated

/-- Requests that ask the store for no path of a copy. -/
def Pathless (es : List Exchange) : Prop :=
  ∀ e ∈ es, e.purpose ≠ .call .resolveArtifact ∧ e.purpose ≠ .call .createArtifact

theorem pathless_of_listing (h : ∀ e ∈ es, e.purpose = .call .listArtifacts) : Pathless es :=
  fun e he => by simp [h e he]

theorem pathless_of_fetching (h : ∀ e ∈ es, e.purpose = .origin) : Pathless es :=
  fun e he => by simp [h e he]

namespace Announced

/-- Nothing has to be told of requests that ask for no path. -/
theorem idle (h : Pathless es) : Announced source path es steps where
  loading e he hcall := absurd hcall (h e he).1
  resolves := .of_forall_ne fun e he => (h e he).1
  uploading e he hcall := absurd hcall (h e he).2
  creates := ⟨none, .of_forall_ne fun e he => (h e he).2⟩

theorem after (h : Pathless es) (hfs : Announced source path fs steps) :
    Announced source path (es ++ fs) steps where
  loading e he hcall := by
    obtain he | he := List.mem_append.1 he
    · exact absurd hcall (h e he).1
    · exact hfs.loading e he hcall
  resolves := .append (.of_forall_ne fun e he => (h e he).1) hfs.resolves
  uploading e he hcall := by
    obtain he | he := List.mem_append.1 he
    · exact absurd hcall (h e he).2
    · exact hfs.uploading e he hcall
  creates := hfs.creates.imp fun _ creates => .append (.of_forall_ne fun e he => (h e he).2) creates

/-- A copy that is served. -/
theorem of_opening {x : Except Halt (Stream × ArtifactInfo)}
    (opening : c.store.Opening w cacheNamespace path es x)
    (told : ∃ createdAt, .loading path createdAt ∈ steps) : Announced source path es steps := by
  obtain ⟨found, got, y, rfl, finding, hgot⟩ := opening.parts
  have uncreated : ∀ e ∈ found ++ got, e.purpose ≠ .call .createArtifact := by
    intro e he
    obtain he | he := List.mem_append.1 he
    · simp [finding.purpose_eq e he]
    · simp [hgot e he]
  exact ⟨fun _ _ _ => told, opening.asks, fun e he hcall => absurd hcall (uncreated e he),
    none, .of_forall_ne uncreated⟩

/-- A new copy that is stored. -/
theorem of_storing {content : Source} {now : Time.Instant} {length : Option Nat}
    {x : Consumed ArtifactInfo}
    (storing : c.store.Storing w cacheNamespace path content (c.uploadOptions source o now length) es x)
    (told : .uploading path ∈ steps) : Announced source path es steps := by
  have unresolved : ∀ e ∈ es, e.purpose ≠ .call .resolveArtifact := by
    intro e he
    rcases storing.purpose_eq e he with h | h | h <;> simp [h]
  exact ⟨fun e he hcall => absurd hcall (unresolved e he), .of_forall_ne unresolved, fun _ _ _ => told,
    _, storing.asks⟩

end Announced

/-! ## The course of a call -/

/-- Serving a copy tells of it. -/
theorem Serving.narrated {latest : Artifact} (h : c.Serving w latest es steps counts r)
    (freshAfter : Option Time.Instant) (source : String) :
    Narrated freshAfter source latest.path true r (.listing source :: steps) ∧
      Announced source latest.path es (.listing source :: steps) := by
  cases h with
  | unopened opening =>
    exact ⟨.broken ⟨_, .served latest.createdAt, ⟨[.done latest.path true], rfl⟩⟩ (by simp),
      .of_opening opening ⟨latest.createdAt, by simp⟩⟩
  | served opening =>
    exact ⟨.complete (.served latest.createdAt) rfl rfl,
      .of_opening opening ⟨latest.createdAt, by simp⟩⟩

/-- Storing a new copy tells of it, after something else has been told. -/
theorem Populating.narrated (h : c.Populating w source url o es steps counts r) (front : List CacheEvent)
    (script : ∀ path, Script freshAfter source path false
      (front ++ [.fetching source, .uploading path, .done path false]))
    (quiet : ∀ p f, .done p f ∉ front) :
    ∃ path, Narrated freshAfter source path false r (front ++ steps) ∧
      Announced source path es (front ++ steps) := by
  cases h with
  | unfetched fetching | unspooled fetching =>
    exact ⟨"", .broken ⟨_, script "", ⟨[.uploading "", .done "" false], by simp⟩⟩ (by simp [quiet]),
      .idle (pathless_of_fetching fetching.purpose_eq)⟩
  | @stored _ _ _ _ _ path spool _ blame consumed fetching _ _ _ _ storing =>
    refine ⟨path, ?_,
      .after (pathless_of_fetching fetching.purpose_eq) (.of_storing storing (by simp))⟩
    cases hr : settled o path spool blame consumed with
    | error halt =>
      exact .broken ⟨_, script path, ⟨[.done path false], by simp [finale]⟩⟩ (by simp [finale, quiet])
    | ok x =>
      obtain ⟨info, -, -, -, rfl⟩ := settled_eq_ok hr
      exact .complete (script path) rfl rfl

/-- The work of a call tells of itself. -/
theorem Looking.narrated (h : c.Looking w source url o es steps counts r) :
    ∃ path fromCache, Narrated o.freshAfter source path fromCache r steps ∧
      Announced source path es steps := by
  cases h with
  | unlisted listing =>
    exact ⟨"", false, .broken ⟨_, .stored, ⟨_, rfl⟩⟩ (by simp),
      .idle (pathless_of_listing listing.purpose_eq)⟩
  | listed listing proceeding =>
    have pathless := pathless_of_listing listing.purpose_eq
    cases proceeding with
    | @hit latest _ _ _ _ _ _ serving =>
      obtain ⟨narrated, announced⟩ := serving.narrated o.freshAfter source
      exact ⟨latest.path, true, narrated, announced.after pathless⟩
    | missing _ populating =>
      obtain ⟨path, narrated, announced⟩ :=
        populating.narrated [.listing source] (fun _ => .stored) (by simp)
      exact ⟨path, false, narrated, announced.after pathless⟩
    | @stale latest threshold _ _ _ _ _ limited old populating =>
      obtain ⟨path, narrated, announced⟩ := populating.narrated
        [.listing source, .tooOld latest.path latest.createdAt threshold]
        (fun _ => .renewed limited old) (by simp)
      exact ⟨path, false, narrated, announced.after pathless⟩

/-- The listing is told of before anything else. -/
theorem Looking.steps_eq (h : c.Looking w source url o es steps counts r) :
    ∃ later, steps = .listing source :: later := by
  cases h with
  | unlisted | listed => exact ⟨_, rfl⟩

/-! ## Calls -/

/-- A call, as its listener is told of it. -/
theorem copy_told (c : Cache) (source : String) (o : CacheOptions) (w : World) (j : Journal) :
    ∃ path fromCache es steps,
      (c.copy source o w j).2.exchanges = j.exchanges ++ es ∧
      (c.copy source o w j).2.events = j.events ++ Act.told o.narrated steps ∧
      ((∃ f, readSource source = .error f) ∨ ∃ later, steps = .listing source :: later) ∧
      Narrated o.freshAfter source path fromCache (c.copy source o w j).1 steps ∧
      Announced source path es steps := by
  cases hs : readSource source with
  | error f =>
    rw [copy_of_invalid hs]
    exact ⟨"", false, [], [], by simp, by simp [Act.told], .inl ⟨f, rfl⟩,
      .broken ⟨_, .stored, List.nil_prefix⟩ (by simp), .idle fun _ he => nomatch he⟩
  | ok url =>
    rw [copy_apply hs]
    obtain ⟨n, hg, -, steps, he, looking⟩ :=
      c.lookup_openly (limited o.timeout w j) source url o (begun j)
    obtain ⟨path, fromCache, narrated, announced⟩ := looking.narrated
    exact ⟨path, fromCache, n.exchanges, steps, hg.exchanges, by rw [← he]; exact hg.events,
      .inr looking.steps_eq, narrated.overtaken o.timeout, announced⟩

/-- Without a listener, a call does the same and tells nothing. -/
theorem copy_unheard (c : Cache) (source : String) (o : CacheOptions) (w : World) (j : Journal) :
    c.copy source { o with narrated := false } w j =
      ((c.copy source { o with narrated := true } w j).1,
        { (c.copy source { o with narrated := true } w j).2 with events := j.events }) := by
  have hj : j.Agrees .narrating j :=
    ⟨rfl, exchanged_refl (fun _ => trivial) _, rfl, rfl, .inl trivial, rfl, rfl⟩
  have beside : Act.Beside .narrating w (c.copy source { o with narrated := true })
      ((c.withTokens c.store.metadata.tokens).copy source { o with narrated := false }) :=
    copy_beside w.server.indifferent_narrating (fun _ _ => .inl rfl) (.inl trivial) source
  obtain ⟨hresult, hjournals⟩ := beside.same hj
  obtain ⟨path, fromCache, es, steps, -, hsilent, -⟩ :=
    c.copy_told source { o with narrated := false } w j
  have hevents : (c.copy source { o with narrated := false } w j).2.events = j.events := by
    simpa [Act.told] using hsilent
  refine Prod.ext hresult.symm ?_
  rw [← hevents]
  exact hjournals.eq_with

/-- **A call tells a listener what it does**, in the order of a script and as far as it comes, beginning
with the listing unless its source cannot be read; and without a listener it does the same. -/
theorem copy_narrates (c : Cache) (source : String) (o : CacheOptions) (w : World) (j : Journal) :
    ∃ path fromCache es steps,
      (c.copy source { o with narrated := true } w j).2.exchanges = j.exchanges ++ es ∧
      (c.copy source { o with narrated := true } w j).2.events = j.events ++ steps ∧
      ((∃ f, readSource source = .error f) ∨ ∃ later, steps = .listing source :: later) ∧
      Narrated o.freshAfter source path fromCache
        (c.copy source { o with narrated := true } w j).1 steps ∧
      Announced source path es steps ∧
      c.copy source { o with narrated := false } w j =
        ((c.copy source { o with narrated := true } w j).1,
          { (c.copy source { o with narrated := true } w j).2 with events := j.events }) := by
  obtain ⟨path, fromCache, es, steps, hes, hsteps, hfirst, narrated, announced⟩ :=
    c.copy_told source { o with narrated := true } w j
  exact ⟨path, fromCache, es, steps, hes, hsteps, hfirst, narrated, announced,
    c.copy_unheard source o w j⟩

end Cache

end ContentCache
