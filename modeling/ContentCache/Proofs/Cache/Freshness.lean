import ContentCache.Proofs.Cache.Copying
import ContentCache.Proofs.Newest

/-!
# Which way a call goes

When the listing of the copies of a source has been answered, a call serves the newest copy if any copy
is fresh, and else it asks the origin. The two ways are told apart by the requests that are made, by
the steps that a listener is told about and by the counters.

* `Cache.Served`, `Cache.Refetched`: how a call goes that serves a copy, and one that asks the origin.
* `SameNewest`: listings that differ in nothing that matters.

Main statement: `copy_served_iff_hasFresh`.
-/

namespace ContentCache

namespace Cache

open Metadata.Client (Posts Answers)

variable {c : Cache} {w : World} {source : String} {url : Url} {o : CacheOptions}
  {latest : Artifact} {listed : List Artifact} {es : List Exchange} {steps : List CacheEvent}
  {k : Counters → Counters} {r : Except Halt Copy}

/-- How a call goes that serves a copy: what it asks for after the listing, the steps that it tells
about, the counters before and after, and the end. -/
structure Served (latest : Artifact) (es : List Exchange) (steps : List CacheEvent)
    (before after : Counters) (r : Except Halt Copy) : Prop where
  /-- The copy is looked up by its path and read; nothing else is asked for. -/
  requests : ∃ found got, es = found ++ got ∧ (∀ e ∈ got, e.purpose = .download) ∧
    (∀ e ∈ found, e.purpose = .call .resolveArtifact) ∧
    ∀ e ∈ found, e.hop = 0 → e.request.method = .post ∧ e.request.body =
      Bytes.ofText (Metadata.ResolveRequest.document ⟨cacheNamespace, latest.path⟩).write
  told : steps = [.loading latest.path latest.createdAt] ∨
    steps = [.loading latest.path latest.createdAt, .done latest.path true]
  counted : after.misses = before.misses ∧ after.stale = before.stale ∧
    after.originFetches = before.originFetches
  /-- The caller gets what the signed URL gives, with what is told of the copy where it is found. -/
  returned : ∀ x, r = .ok x → ∃ found first got last location url after reply,
    es = found ++ first :: got ∧
    Answers .resolveArtifact Metadata.ReadLocation.ofDocument? found location ∧
    Url.read location.url = .ok url ∧ first.request.method = .get ∧
    first.request.url = url.withoutUser.withoutFragment ∧ (first :: got).getLast? = some last ∧
    last.answer = .reply after reply ∧ Http.isSuccess reply.status = true ∧
    x = ⟨reply.items, ⟨location.artifact.createdAt, latest.path, location.artifact.digest, true⟩⟩

theorem served_of_serving {x : Except Halt Copy} {m n : Counters}
    (h : c.Serving w latest es steps k r) (hx : ∀ y, x = .ok y → r = .ok y)
    (hcounted : n.misses = (k m).misses ∧ n.stale = (k m).stale ∧
      n.originFetches = (k m).originFetches) : Served latest es steps m n x where
  requests := by
    cases h with
    | unopened opening | served opening =>
      obtain ⟨found, got, y, rfl, finding, hgot⟩ := opening.parts
      exact ⟨found, got, rfl, hgot, finding.purpose_eq, finding.documents⟩
  told := by
    cases h with
    | unopened => exact .inl rfl
    | served => exact .inr rfl
  counted := by
    cases h with
    | unopened | served => exact hcounted
  returned := by
    intro y hy
    obtain rfl := hx y hy
    generalize hr : (.ok y : Except Halt Copy) = r at h
    cases h with
    | unopened => cases hr
    | served opening =>
      obtain rfl := Except.ok.inj hr
      obtain ⟨found, got, location, sent, rfl, finding, reading, hbody, rfl⟩ := opening.ok
      obtain ⟨resp, hanswered, hsuccess, rfl⟩ := Transfer.outcome_eq_ok hbody
      obtain ⟨front, last, reply, rfl, hreply, rfl⟩ := reading.answered_last hanswered
      obtain ⟨after, hanswer⟩ := Http.Client.answer_of_reply? hreply
      obtain ⟨first, rest, hfirst⟩ := List.exists_cons_of_ne_nil (l := front ++ [last]) (by simp)
      rw [hfirst] at reading
      obtain ⟨-, hmethod, -, -, location', hread, hurl⟩ := reading.head_request
      refine ⟨found, first, rest, last, location, location', after, reply, by rw [hfirst],
        finding.answers, hread, hmethod, hurl, ?_, hanswer, hsuccess, rfl⟩
      rw [← hfirst]
      simp

/-- How a call goes that asks the origin, where `listed` are the copies that it has been told of. -/
structure Refetched (c : Cache) (w : World) (source : String) (url : Url) (o : CacheOptions)
    (listed : List Artifact) (es : List Exchange) (steps : List CacheEvent)
    (before after : Counters) (r : Except Halt Copy) : Prop where
  /-- The origin is asked once, and no stored copy is looked up. -/
  requests : ∃ fetched storing sent, es = fetched ++ storing ∧
    c.origin.http.Sending w (Origin.order url.text) fetched sent ∧
    ∀ e ∈ storing, e.purpose = .call .createArtifact ∨ e.purpose = .upload ∨
      e.purpose = .call .finalizeArtifact
  /-- A copy that is too old is told of, when there is one, and before anything else. -/
  told : ∃ later, (∀ e ∈ later, ∀ path created threshold, e ≠ .tooOld path created threshold) ∧
    ((listed = [] ∧ steps = .fetching source :: later) ∨
      ∃ latest threshold, IsNewest listed latest ∧ o.freshAfter = some threshold ∧
        steps = .tooOld latest.path latest.createdAt threshold :: .fetching source :: later)
  counted : after.misses = before.misses + 1 ∧
    after.stale = (if listed = [] then before.stale else before.stale + 1) ∧
    after.originFetches = before.originFetches + 1
  returned : ∀ x, r = .ok x → x.info.fromCache = false

theorem Populating.requests (h : c.Populating w source url o es steps k r) :
    ∃ fetched storing sent, es = fetched ++ storing ∧
      c.origin.http.Sending w (Origin.order url.text) fetched sent ∧
      ∀ e ∈ storing, e.purpose = .call .createArtifact ∨ e.purpose = .upload ∨
        e.purpose = .call .finalizeArtifact := by
  cases h with
  | unfetched fetching | unspooled fetching => exact ⟨es, [], _, by simp, fetching, by simp⟩
  | stored fetching _ _ _ _ storing => exact ⟨_, _, _, rfl, fetching, storing.purpose_eq⟩

/-- Asking the origin is told of first, and no copy is found too old any more. -/
theorem Populating.told (h : c.Populating w source url o es steps k r) :
    ∃ later, steps = .fetching source :: later ∧
      ∀ e ∈ later, ∀ path created threshold, e ≠ .tooOld path created threshold := by
  cases h with
  | unfetched | unspooled => exact ⟨[], rfl, by simp⟩
  | @stored _ _ _ _ _ path spool _ blame consumed =>
    refine ⟨.uploading path :: finale path (settled o path spool blame consumed), rfl, ?_⟩
    cases settled o path spool blame consumed <;> simp [finale]

/-- Asking the origin counts as one fetch, and not as another hit or miss. -/
theorem Populating.counted (h : c.Populating w source url o es steps k r) (m : Counters) :
    (k m).misses = m.misses ∧ (k m).stale = m.stale ∧ (k m).originFetches = m.originFetches + 1 := by
  cases h <;> exact ⟨rfl, rfl, rfl⟩

/-- **What follows an answered listing**: the newest copy is served if any copy is fresh, and else the
origin is asked. -/
theorem Proceeding.way {x : Except Halt Copy} {m n : Counters}
    (h : c.Proceeding w source url o listed es steps k r) (hx : ∀ y, x = .ok y → r = .ok y)
    (hcounted : n.misses = (k m).misses ∧ n.stale = (k m).stale ∧
      n.originFetches = (k m).originFetches) :
    (hasFresh listed o.freshAfter ∧ ∃ latest, IsNewest listed latest ∧ Served latest es steps m n x) ∨
      (¬ hasFresh listed o.freshAfter ∧ Refetched c w source url o listed es steps m n x) := by
  cases h with
  | hit newest fresh serving =>
    have newest := newest?_eq_some_iff.1 newest
    exact .inl ⟨(hasFresh_iff newest _).2 fresh, _, newest, served_of_serving serving hx hcounted⟩
  | missing newest populating =>
    obtain rfl := newest?_eq_none_iff.1 newest
    refine .inr ⟨not_hasFresh_nil _, populating.requests, ?_, ?_, ?_⟩
    · obtain ⟨later, rfl, hlater⟩ := populating.told
      exact ⟨later, hlater, .inl ⟨rfl, rfl⟩⟩
    · obtain ⟨h1, h2, h3⟩ := populating.counted (m.countMiss false)
      exact ⟨hcounted.1.trans h1, hcounted.2.1.trans h2, hcounted.2.2.trans h3⟩
    · rintro y rfl
      obtain rfl := hx y rfl
      exact populating.fromCache
  | @stale latest threshold es steps k r newest limited old populating =>
    have newest := newest?_eq_some_iff.1 newest
    refine .inr ⟨?_, populating.requests, ?_, ?_, ?_⟩
    · rw [hasFresh_iff newest, limited]
      simp [isFresh, old]
    · obtain ⟨later, rfl, hlater⟩ := populating.told
      exact ⟨later, hlater, .inr ⟨latest, threshold, newest, limited, rfl⟩⟩
    · obtain ⟨h1, h2, h3⟩ := populating.counted (m.countMiss true)
      refine ⟨hcounted.1.trans h1, ?_, hcounted.2.2.trans h3⟩
      rw [if_neg (List.ne_nil_of_mem newest.mem)]
      exact hcounted.2.1.trans h2
    · rintro y rfl
      obtain rfl := hx y rfl
      exact populating.fromCache

theorem Served.not_refetched {m n : Counters} {x : Except Halt Copy}
    (h : Served latest es steps m n x) : ¬ Refetched c w source url o listed es steps m n x := by
  intro h'
  -- Only a call that asks the origin counts as a miss.
  have hmisses : m.misses = m.misses + 1 := h.counted.1.symm.trans h'.counted.1
  simp at hmisses

end Cache

/-- Listings that differ in nothing that matters: in the order of artifacts with different instants, or
by artifacts that are older than another one. -/
inductive SameNewest : List Artifact → List Artifact → Prop where
  | reordered {listed others : List Artifact} (h : listed.Perm others)
      (distinct : listed.Pairwise fun a b => a.createdAt ≠ b.createdAt) : SameNewest listed others
  | extended {front added back : List Artifact}
      (older : ∀ b ∈ added, ∃ a ∈ front ++ back, b.createdAt.isBefore a.createdAt = true) :
      SameNewest (front ++ back) (front ++ (added ++ back))

theorem SameNewest.newest? {listed others : List Artifact} (h : SameNewest listed others) :
    newest? others = newest? listed := by
  cases h with
  | reordered h distinct => exact newest?_perm h distinct
  | extended older => exact newest?_insert_older older

namespace Cache

variable {c : Cache} {source : String} {url : Url} {o : CacheOptions}

theorem proceed_of_sameNewest {listed others : List Artifact} (h : SameNewest listed others) :
    c.proceed source url o others = c.proceed source url o listed := by
  unfold proceed
  rw [h.newest?]

/-- **A call serves the newest copy if any copy is fresh, and else it asks the origin.** So copies that
are older than another one make no difference, and the order of the copies makes none unless two of
them are equally new. -/
theorem copy_served_iff_hasFresh {w : World} {j k₀ k : Journal} {listed : List Artifact}
    {r : Except Halt Copy} (hs : readSource source = .ok url)
    (hl : c.listing source o (limited o.timeout w j) (begun j) = (.ok listed, k₀))
    (h : c.copy source o w j = (r, k)) :
    ∃ asked es steps,
      k.exchanges = j.exchanges ++ (asked ++ es) ∧
      Metadata.Client.Posts .listArtifacts (Metadata.ListRequest.document
        ⟨[cacheNamespace], filterFor source (expected o)⟩) asked ∧
      k.events = j.events ++ Act.told o.narrated (.listing source :: steps) ∧
      ((∃ latest, IsNewest listed latest ∧ Served latest es steps (begun j).counters k.counters r) ↔
        hasFresh listed o.freshAfter) ∧
      (Refetched c (limited o.timeout w j) source url o listed es steps (begun j).counters k.counters r ↔
        ¬ hasFresh listed o.freshAfter) ∧
      ∀ others, SameNewest listed others →
        (r, k) = concluded o.timeout j (c.proceed source url o others (limited o.timeout w j) k₀) := by
  have hwork : c.lookup source url o (limited o.timeout w j) (begun j) =
      c.proceed source url o listed (limited o.timeout w j) k₀ := by
    rw [lookup_eq]
    exact Act.bind_of_ok hl
  rw [copy_apply hs, hwork] at h
  obtain ⟨n, hg, -, asking, he, rfl, hk, listing⟩ :=
    c.listing_openly (limited o.timeout w j) source o (begun j)
  rw [hl] at hg listing
  obtain ⟨m, hg', -, steps, he', proceeding⟩ :=
    c.proceed_openly (limited o.timeout w j) source url o listed k₀
  have hgone {others : List Artifact} (hsame : SameNewest listed others) :
      (r, k) = concluded o.timeout j (c.proceed source url o others (limited o.timeout w j) k₀) := by
    rw [proceed_of_sameNewest hsame, h]
  cases hw : c.proceed source url o listed (limited o.timeout w j) k₀ with
  | mk r' k₁ =>
    rw [hw] at h hg' proceeding
    obtain ⟨rfl, rfl⟩ := Prod.mk.inj h
    obtain ⟨_, _, _, _, hcounted⟩ := counted_counters j (overtaken o.timeout r') k₁
    have hbefore : k₁.counters = m.counts (begun j).counters := by
      rw [hg'.counters, hg.counters, hk]
      rfl
    have way := proceeding.way (x := overtaken o.timeout r')
      (n := (counted j (overtaken o.timeout r') k₁).counters) (m := (begun j).counters)
      (fun y hy => overtaken_eq_ok.1 hy) (by rw [hcounted, ← hbefore]; exact ⟨rfl, rfl, rfl⟩)
    refine ⟨n.exchanges, m.exchanges, steps, ?_, listing.posts, ?_, ?_, ?_, fun others => hgone⟩
    · show k₁.exchanges = _
      rw [hg'.exchanges, hg.exchanges, List.append_assoc]
      rfl
    · show k₁.events = _
      rw [hg'.events, hg.events, he, he', List.append_assoc, ← Act.told_append]
      rfl
    · obtain ⟨hfresh, latest, hnewest, hserved⟩ | ⟨hstale, hrefetched⟩ := way
      · exact iff_of_true ⟨latest, hnewest, hserved⟩ hfresh
      · exact iff_of_false (fun ⟨_, _, hserved⟩ => hserved.not_refetched hrefetched) hstale
    · obtain ⟨hfresh, latest, hnewest, hserved⟩ | ⟨hstale, hrefetched⟩ := way
      · exact iff_of_false hserved.not_refetched (not_not_intro hfresh)
      · exact iff_of_true hrefetched hstale

/-- A copy without labels. -/
def plainCopy (path : String) (createdAt : Time.Instant) : Artifact := ⟨"n", path, createdAt, .empty⟩

/-- Three copies, two of them equally new. -/
def tied : List Artifact :=
  [plainCopy "a" newYear, plainCopy "b" .epoch, plainCopy "c" newYear]

/-- The three copies are listed, and what follows goes well. -/
def tiedWorld : World where
  server := .ofAnswers [
    said ("\x7b\"artifacts\":[" ++
      "\x7b\"namespace\":\"n\",\"path\":\"a\",\"createdAt\":\"2024-01-01T00:00:00Z\"\x7d," ++
      "\x7b\"namespace\":\"n\",\"path\":\"b\",\"createdAt\":\"1970-01-01T00:00:00Z\"\x7d," ++
      "\x7b\"namespace\":\"n\",\"path\":\"c\",\"createdAt\":\"2024-01-01T00:00:00Z\"\x7d]\x7d"),
    said ("\x7b\"signedDownloadUrl\":\"http://s/?k\",\"artifact\":" ++
      "\x7b\"namespace\":\"n\",\"path\":\"c\",\"createdAt\":\"2024-01-01T00:00:00Z\"\x7d\x7d"),
    said "hi!"]

/-- A copy of the first second of 2024 is just fresh enough. -/
def sinceNewYear : CacheOptions := { freshAfter := some newYear }

set_option maxRecDepth 10000 in
/-- Of two copies that are just fresh enough, the last one is served. -/
theorem copy_serves_last_of_tied :
    ∃ url k₀, readSource "http://o/" = .ok url ∧
      usual.listing "http://o/" sinceNewYear (limited none tiedWorld {}) (begun {}) = (.ok tied, k₀) ∧
      ∃ es steps, Served (plainCopy "c" newYear) es steps (begun {}).counters
        (usual.copy "http://o/" sinceNewYear tiedWorld {}).2.counters
        (usual.copy "http://o/" sinceNewYear tiedWorld {}).1 := by
  have hs : (readSource "http://o/").toOption.isSome = true := by decide +kernel
  obtain ⟨url, hs⟩ := Option.isSome_iff_exists.1 hs
  have hs := eq_ok_of_toOption hs
  have hl : (usual.listing "http://o/" sinceNewYear (limited none tiedWorld {})
      (begun {})).1.toOption = some tied := by
    decide +kernel
  generalize hw : usual.listing "http://o/" sinceNewYear (limited none tiedWorld {}) (begun {}) = work
    at hl
  obtain ⟨listed, k₀⟩ := work
  obtain rfl := eq_ok_of_toOption hl
  obtain ⟨asked, es, steps, -, -, -, hserved, -⟩ :=
    copy_served_iff_hasFresh hs hw (Prod.eta _).symm
  obtain ⟨latest, hnewest, hserved⟩ := hserved.2 ⟨plainCopy "a" newYear, by simp [tied], by decide⟩
  have hlatest : newest? tied = some (plainCopy "c" newYear) := by decide
  rw [newest?_of_isNewest hnewest] at hlatest
  obtain rfl := Option.some.inj hlatest
  exact ⟨url, _, hs, rfl, es, steps, hserved⟩

end Cache

end ContentCache
