import ContentCache.Proofs.Cache.Abreast
import ContentCache.Proofs.Cache.Carrying

/-!
# Where a bearer token goes

A bearer token is the credentials of the calls of the metadata service, and of redirects of a call to the
same host and port. It goes nowhere else, and nothing else depends on it: with two tokens that can both be
sent, a cache does the same, says the same and counts the same, as long as the servers do.

* `Errand`: what can be asked of a cache. `Errand.runAll`: one errand after the other.
* `Http.Server.IgnoresCredentials`: a server whose answers do not depend on credentials.
* `Confined`: two runs in which a token shows in calls of the metadata service only.

Main statement: `tokens_confined`.
-/

namespace ContentCache

/-! ## Errands -/

/-- What can be asked of a cache. -/
inductive Errand where
  | copy (source : String) (o : CacheOptions)
  | copyRetrying (source : String) (o : CacheOptions) (p : RetryPolicy)
  | upload (space path : String) (content : Source) (o : UploadOptions)
  | resolve (space path : String)

namespace Errand

/-- What comes of an errand. -/
inductive Outcome where
  | copied (r : Except Halt Copy)
  | stored (r : Except Halt ArtifactInfo)
  | opened (r : Except Halt (Stream × ArtifactInfo))

/-- Does an errand. -/
def run (c : Cache) (w : World) (j : Journal) : Errand → Outcome × Journal
  | copy source o => (c.copy source o w j).map .copied id
  | copyRetrying source o p => (c.copyRetrying source o p w j).map .copied id
  | upload space path content o => (c.store.upload space path content o w j).map .stored id
  | resolve space path => (c.store.resolve space path w j).map .opened id

/-- Does one errand after the other, whatever comes of each. -/
def runAll (c : Cache) (w : World) : List Errand → Journal → List Outcome × Journal
  | [], j => ([], j)
  | errand :: rest, j =>
    let (x, j) := errand.run c w j
    let (xs, j) := runAll c w rest j
    (x :: xs, j)

end Errand

/-! ## Two runs -/

/-- A server whose answers do not depend on credentials. -/
def Http.Server.IgnoresCredentials (s : Server) : Prop :=
  ∀ before before' r r', before.map Request.anonymous = before'.map Request.anonymous →
    r.anonymous = r'.anonymous → s.answer before r = s.answer before' r'

/-- Two runs in which a token shows in calls of the metadata service only. -/
structure Confined (j k : Journal) : Prop where
  /-- The same is exchanged but for credentials: requests with their methods, URLs and bodies, what they
  are made for, and answers. -/
  exchanges : j.exchanges.map Exchange.anonymous = k.exchanges.map Exchange.anonymous
  /-- Their credentials differ in calls, and in redirects of a call that have stayed at its host and
  port. -/
  credentials : ∀ i e f, j.exchanges[i]? = some e → k.exchanges[i]? = some f →
    e.request = f.request ∨
      ((∃ method, e.purpose = .call method) ∧ StaysAtHost (j.exchanges.take (i + 1)))
  /-- No other request carries a bearer token. -/
  bearers : ∀ e, e ∈ j.exchanges ∨ e ∈ k.exchanges →
    (∃ method, e.purpose = .call method) ∨ ¬ Http.IsBearer e.request.authorization
  elapsed : j.elapsed = k.elapsed
  asked : j.asked = k.asked
  log : j.log = k.log
  events : j.events = k.events
  counters : j.counters = k.counters
  waits : j.waits = k.waits

/-! ## The leeway of a token -/

/-- Runs that may differ in the credentials of calls. -/
def Leeway.calling : Leeway where
  free purpose := ∃ method, purpose = .call method
  common e := (∃ method, e.purpose = .call method) ∨ ¬ Http.IsBearer e.request.authorization
  plain := fun _ h => h
  narration := False

variable {j k : Journal} {w : World} {tokens tokens' : TokenSource} {es fs : List Exchange}

/-- What stands at a place of a list that goes on by one. -/
theorem getElem?_snoc {α : Type} {xs : List α} {x y : α} {i : Nat} (h : (xs ++ [x])[i]? = some y) :
    (i < xs.length ∧ xs[i]? = some y) ∨ (i = xs.length ∧ x = y) := by
  obtain hi | rfl | hi := Nat.lt_trichotomy i xs.length
  · exact .inl ⟨hi, by rwa [List.getElem?_append_left hi] at h⟩
  · exact .inr ⟨rfl, by simpa using h⟩
  · rw [List.getElem?_eq_none (by simp; omega)] at h
    cases h

namespace Exchanged

theorem requests {L : Leeway} (h : Exchanged L es fs) :
    (es.map Exchange.request).map Http.Request.anonymous =
      (fs.map Exchange.request).map Http.Request.anonymous := by
  have hmap (xs : List Exchange) : (xs.map Exchange.request).map Http.Request.anonymous =
      (xs.map Exchange.anonymous).map Exchange.request := by
    rw [List.map_map, List.map_map]
    rfl
  rw [hmap, hmap, h.anonymous]

theorem length_eq {L : Leeway} (h : Exchanged L es fs) : es.length = fs.length := by
  simpa using congrArg List.length h.anonymous

/-- Requests that differ are calls, or redirects that have stayed where a call went. -/
theorem credentials (h : Exchanged .calling es fs) (i : Nat) {e f : Exchange}
    (he : es[i]? = some e) (hf : fs[i]? = some f) :
    e.request = f.request ∨ ((∃ method, e.purpose = .call method) ∧ StaysAtHost (es.take (i + 1))) := by
  induction h with
  | nil => simp at he
  | @common es fs x before _ ih =>
    have hlength := before.length_eq
    obtain ⟨hi, he⟩ | ⟨rfl, rfl⟩ := getElem?_snoc he
    · obtain ⟨-, hf⟩ | ⟨hi', -⟩ := getElem?_snoc hf
      · rw [List.take_append_of_le_length hi]
        exact ih he hf
      · omega
    · obtain ⟨hi', -⟩ | ⟨-, rfl⟩ := getElem?_snoc hf
      · omega
      · exact .inl rfl
  | @free es fs x y before free stays _ ih =>
    have hlength := before.length_eq
    obtain ⟨hi, he⟩ | ⟨rfl, rfl⟩ := getElem?_snoc he
    · obtain ⟨-, hf⟩ | ⟨hi', -⟩ := getElem?_snoc hf
      · rw [List.take_append_of_le_length hi]
        exact ih he hf
      · omega
    · exact .inr ⟨free, by rwa [List.take_of_length_le (by simp)]⟩

/-- What holds of all that the runs have in common, and of all that is free in its credentials, holds of
everything that has been exchanged. -/
theorem forall_mem {L : Leeway} {p : Exchange → Prop} (h : Exchanged L es fs)
    (hcommon : ∀ e, L.common e → p e) (hfree : ∀ e, L.free e.purpose → p e) :
    (∀ e ∈ es, p e) ∧ ∀ e ∈ fs, p e := by
  have snoc {xs : List Exchange} {x : Exchange} (hxs : ∀ e ∈ xs, p e) (hx : p x) :
      ∀ e ∈ xs ++ [x], p e :=
    List.forall_mem_append.2 ⟨hxs, List.forall_mem_singleton.2 hx⟩
  induction h with
  | nil => simp
  | common _ common ih => exact ⟨snoc ih.1 (hcommon _ common), snoc ih.2 (hcommon _ common)⟩
  | @free es fs x y _ free _ same ih =>
    have hpurpose : x.purpose = y.purpose :=
      show x.anonymous.purpose = y.anonymous.purpose from congrArg Exchange.purpose same
    exact ⟨snoc ih.1 (hfree x free), snoc ih.2 (hfree y (hpurpose ▸ free))⟩

end Exchanged

/-- A server that ignores credentials makes no difference between such runs. -/
theorem Http.Server.IgnoresCredentials.indifferent {s : Server} (h : s.IgnoresCredentials) (L : Leeway) :
    s.Indifferent L := fun _ _ hes _ _ _ hr =>
  h _ _ _ _ hes.requests (hr.elim (fun same => by rw [same]) And.left)

/-- What agrees but for the credentials of calls is confined. -/
theorem Journal.Agrees.confined (h : j.Agrees .calling k) : Confined j k where
  exchanges := h.exchanges.anonymous
  credentials i _ _ := h.exchanges.credentials i
  bearers e he := by
    have hbearers := h.exchanges.forall_mem (fun _ common => common) fun _ free => .inl free
    exact he.elim (hbearers.1 e) (hbearers.2 e)
  elapsed := h.elapsed
  asked := h.asked
  log := h.log
  events := h.events.resolve_left id
  counters := h.counters
  waits := h.waits

/-! ## Tokens that can be sent -/

/-- A source that always has a token, and one that can be sent. -/
def TokenSource.Sendable (files : Files) (s : TokenSource) : Prop :=
  ∀ asked force, ∃ token, s.issue files asked force = .ok token ∧ Http.isHeaderText token = true

theorem TokenSource.sendable_fixed {token : String} (h : Http.isHeaderText token = true) (files : Files) :
    (fixed token).Sendable files := fun _ _ => ⟨token, rfl, h⟩

/-- A file that has a token in it, as it stands between blanks. -/
theorem TokenSource.sendable_file {path text : String} {files : Files}
    (hread : files.readText path = .ok text) (hnonempty : (Text.trim text).isEmpty = false)
    (h : Http.isHeaderText (Text.trim text) = true) : (file path).Sendable files := by
  refine fun _ _ => ⟨Text.trim text, ?_, h⟩
  show readFile path files = .ok (Text.trim text)
  simp [readFile, hread, hnonempty]

/-- Sources of tokens that can be sent differ in the credentials of calls only. -/
theorem TokenSource.Sendable.agrees {files : Files} (h : tokens.Sendable files)
    (h' : tokens'.Sendable files) : tokens.Agrees .calling files tokens' := by
  intro asked force
  obtain ⟨a, ha, hsent⟩ := h asked force
  obtain ⟨b, hb, hsent'⟩ := h' asked force
  exact .inr ⟨fun method => ⟨method, rfl⟩, a, b, ha, hb, hsent, hsent'⟩

/-! ## Errands side by side -/

namespace Errand

/-- An errand of two caches. -/
theorem run_beside {L : Leeway} {c : Cache} (hw : w.server.Indifferent L)
    (ht : c.store.metadata.tokens.Agrees L w.files tokens) (hj : j.Agrees L k) (errand : Errand) :
    (errand.run c w j).1 = (errand.run (c.withTokens tokens) w k).1 ∧
      (errand.run c w j).2.Agrees L (errand.run (c.withTokens tokens) w k).2 := by
  cases errand with
  | copy source o =>
    obtain ⟨hr, hjournals⟩ := (Cache.copy_beside hw ht (.inr rfl) source (o := o)).same hj
    exact ⟨congrArg Outcome.copied hr, hjournals⟩
  | copyRetrying source o p =>
    obtain ⟨hr, hjournals⟩ := (Cache.copyRetrying_beside hw ht (.inr rfl) source p (o := o)).same hj
    exact ⟨congrArg Outcome.copied hr, hjournals⟩
  | upload space path content o =>
    obtain ⟨hr, hjournals⟩ := (Store.upload_beside hw ht space path content o).same hj
    exact ⟨congrArg Outcome.stored hr, hjournals⟩
  | resolve space path =>
    obtain ⟨hr, hjournals⟩ := (Store.resolve_beside hw ht space path).same hj
    exact ⟨congrArg Outcome.opened hr, hjournals⟩

/-- One errand after the other, of two caches. -/
theorem runAll_beside {L : Leeway} {c : Cache} (hw : w.server.Indifferent L)
    (ht : c.store.metadata.tokens.Agrees L w.files tokens) (errands : List Errand)
    (hj : j.Agrees L k) :
    (runAll c w errands j).1 = (runAll (c.withTokens tokens) w errands k).1 ∧
      (runAll c w errands j).2.Agrees L (runAll (c.withTokens tokens) w errands k).2 := by
  induction errands generalizing j k with
  | nil => exact ⟨rfl, hj⟩
  | cons errand rest ih =>
    obtain ⟨hr, hjournals⟩ := run_beside hw ht hj errand
    obtain ⟨hrest, hend⟩ := ih hjournals
    exact ⟨congrArg₂ List.cons hr hrest, hend⟩

end Errand

/-- **A bearer token goes to the metadata service, and nothing else depends on it.** Whatever is asked of
two caches that differ in their tokens only, each of which can be sent, comes to the same ends, with the
same events, counts and requests; credentials differ in calls of the service alone, and no other request
carries a bearer token. -/
theorem tokens_confined (config : Config) {w : World} (ignored : w.server.IgnoresCredentials)
    {tokens tokens' : TokenSource} (sendable : tokens.Sendable w.files)
    (sendable' : tokens'.Sendable w.files) (errands : List Errand) :
    (Errand.runAll (.ofConfig config tokens) w errands {}).1 =
        (Errand.runAll (.ofConfig config tokens') w errands {}).1 ∧
      Confined (Errand.runAll (.ofConfig config tokens) w errands {}).2
        (Errand.runAll (.ofConfig config tokens') w errands {}).2 := by
  have hj : ({} : Journal).Agrees .calling {} := ⟨rfl, .nil, rfl, rfl, .inr rfl, rfl, rfl⟩
  obtain ⟨hr, hjournals⟩ := Errand.runAll_beside (c := .ofConfig config tokens)
    (ignored.indifferent .calling) (sendable.agrees sendable') errands hj
  exact ⟨hr, hjournals.confined⟩

/-- A server that gives one answer after the other ignores credentials. -/
theorem Http.Server.ignoresCredentials_ofAnswers (answers : List Answer) :
    (Server.ofAnswers answers).IgnoresCredentials := by
  intro before before' r r' hbefore _
  have hlength : before.length = before'.length := by simpa using congrArg List.length hbefore
  simp only [Server.ofAnswers, hlength]

theorem tokens_confined_copy :
    Errand.runAll (.ofConfig {} (.fixed "a")) Cache.chunkedWorld [.copy "http://o/" {}] {} ≠
        Errand.runAll (.ofConfig {} (.fixed "b")) Cache.chunkedWorld [.copy "http://o/" {}] {} ∧
      (Errand.runAll (.ofConfig {} (.fixed "a")) Cache.chunkedWorld [.copy "http://o/" {}] {}).1 =
        (Errand.runAll (.ofConfig {} (.fixed "b")) Cache.chunkedWorld [.copy "http://o/" {}] {}).1 ∧
      Confined (Errand.runAll (.ofConfig {} (.fixed "a")) Cache.chunkedWorld [.copy "http://o/" {}] {}).2
        (Errand.runAll (.ofConfig {} (.fixed "b")) Cache.chunkedWorld [.copy "http://o/" {}] {}).2 := by
  refine ⟨fun h => ?_, tokens_confined {} (Http.Server.ignoresCredentials_ofAnswers _)
    (TokenSource.sendable_fixed (by decide) _) (TokenSource.sendable_fixed (by decide) _) _⟩
  have hfirst := congrArg (fun x => x.2.exchanges.map (·.request.authorization)) h
  revert hfirst
  decide +kernel

end ContentCache
