import ContentCache.Proofs.Cache.Carrying
import ContentCache.Proofs.Cache.Repeating

/-!
# Balanced counters

Every call with a source that can be read is counted once when it is made and once when it ends, as a
value, as a failure of the origin, as another failure or as a wrong digest. In between it counts a hit
or a miss, or neither when it fails before; and only a miss asks the origin.

* `Cache.Attempt`: one call, whether it was repeated or not.
* `Cache.Session`: calls one after the other, repeated ones among them, each in a world of its own.
* `Attempt.gain`, `Cache.total`: how far a counter has gone on in one call, and in many. These do not wrap.
* `Cache.Counting`: what a call does to the counters between its making and its end; `Attempt.Ended`: what
  its end does to them.

Main statements: `Attempt.balanced` (the counters of one call balance) and `session_balanced` (so do
those of a session).
-/

namespace ContentCache

/-- A failure that lies with neither an origin nor the digest that was asked for. -/
def Failure.IsBackend (f : Failure) : Prop := f.isOrigin = false ∧ f.isPrecondition = false

theorem Counters.countBytes_zero (k : Counters) : k.countBytes 0 = k := by
  simp [countBytes]

namespace Cache

variable {c : Cache} {w : World} {source : String} {url : Url} {o : CacheOptions}
  {es : List Exchange} {steps : List CacheEvent} {counts : Counters → Counters} {r : Except Halt Copy}

/-! ## What a call counts -/

/-- What a call does to the counters between its making and its end, and how its work ends. -/
inductive Counting (t : TokenSource) (w : World) : (Counters → Counters) → Except Halt Copy → Prop where
  /-- It fails before the origin is asked, and not because of it. -/
  | unasked {h : Halt} (backend : h.Fails (fun f => t.Fails Failure.IsBackend → f.IsBackend) w) :
      Counting t w id (.error h)
  | hit {x : Copy} (served : x.info.fromCache = true) : Counting t w Counters.countHit (.ok x)
  /-- The origin is asked, and the call fails after so many bytes. -/
  | failed {h : Halt} (stale : Bool) (bytes : Nat) :
      Counting t w (fun k => ((k.countMiss stale).countOriginFetch).countBytes bytes) (.error h)
  /-- The origin is asked, and what it gives is what the caller gets. -/
  | new {x : Copy} (stale : Bool) (served : x.info.fromCache = false) :
      Counting t w (fun k => ((k.countMiss stale).countOriginFetch).countBytes x.body.bytes.length)
        (.ok x)

/-- A call that asks the origin counts what it gives. -/
theorem Populating.counting (h : c.Populating w source url o es steps counts r) (stale : Bool) :
    Counting c.store.metadata.tokens w (fun k => counts (k.countMiss stale)) r := by
  have nothing {halt : Halt} : Counting c.store.metadata.tokens w
      (fun k => (k.countMiss stale).countOriginFetch) (.error halt) := by
    have hfailed := Counting.failed (t := c.store.metadata.tokens) (w := w) (h := halt) stale 0
    simp only [Counters.countBytes_zero] at hfailed
    exact hfailed
  cases h with
  | unfetched | unspooled => exact nothing
  | @stored _ _ _ _ _ path spool _ blame consumed =>
    cases hr : settled o path spool blame consumed with
    | error halt => exact .failed stale _
    | ok x =>
      obtain ⟨info, -, -, -, rfl⟩ := settled_eq_ok hr
      have counting := Counting.new (t := c.store.metadata.tokens) (w := w)
        (x := ⟨bytesStream consumed.taken.bytes, ⟨info.createdAt, path, info.digest, false⟩⟩) stale rfl
      simp only [bytes_bytesStream] at counting
      exact counting

/-- **The work of a call** counts in one of these ways. -/
theorem Looking.counting (h : c.Looking w source url o es steps counts r) :
    Counting c.store.metadata.tokens w counts r := by
  -- Only the failures of the token source are not known to be of this kind.
  have common : Failure.Common fun f =>
      c.store.metadata.tokens.Fails Failure.IsBackend → f.IsBackend :=
    ⟨fun _ _ => ⟨rfl, rfl⟩, fun _ _ _ => ⟨rfl, rfl⟩, fun _ _ _ => ⟨rfl, rfl⟩, fun _ _ => ⟨rfl, rfl⟩⟩
  have tokens : c.store.metadata.tokens.Fails fun f =>
      c.store.metadata.tokens.Fails Failure.IsBackend → f.IsBackend :=
    fun files asked force f h ht => ht files asked force f h
  cases h with
  | unlisted listing => exact .unasked (listing.fails common tokens)
  | listed _ proceeding =>
    cases proceeding with
    | hit _ _ serving =>
      cases serving with
      | unopened opening => exact .unasked (opening.fails common tokens)
      | served => exact .hit rfl
    | missing _ populating => exact populating.counting false
    | stale _ _ _ populating => exact populating.counting true

/-! ## One call -/

/-- One call of a source, whether it was repeated or not. -/
structure Attempt where
  source : String
  turn : Act.Turn Copy

namespace Attempt

/-- Whether the source can be read. -/
def isValid (t : Attempt) : Bool := (readSource t.source).toOption.isSome

def isOk (t : Attempt) : Bool := t.turn.result.toOption.isSome

/-- Whether the content has come from the store. -/
def isHit (t : Attempt) : Bool := t.turn.result.toOption.any fun x => x.info.fromCache

/-- Whether the content has come from the origin. -/
def isNew (t : Attempt) : Bool := t.turn.result.toOption.any fun x => !x.info.fromCache

/-- How far a counter has gone on. -/
def gain (t : Attempt) (f : Counters → UInt64) : Nat :=
  (f t.turn.after.counters - f t.turn.before.counters).toNat

/-- A call is made by a cache, in a world that has no deadline of its own. -/
def MadeBy (t : Attempt) (c : Cache) : Prop :=
  ∃ o w, w.deadline = none ∧ t.turn = (c.copy t.source o).turn w t.turn.before

/-- The counters of one call balance. That it is not blamed on the origin without a miss depends on the
token source, whose failures are its own. -/
structure Balanced (tokens : TokenSource) (t : Attempt) : Prop where
  valid : t.gain Counters.requests = t.isValid.toNat
  ends : t.gain Counters.requests = t.isOk.toNat + t.gain Counters.originErrors +
    t.gain Counters.backendErrors + t.gain Counters.digestMismatches
  hits : t.gain Counters.hits = t.isHit.toNat
  fetches : t.gain Counters.originFetches = t.gain Counters.misses
  stale : t.gain Counters.stale ≤ t.gain Counters.misses
  either : t.gain Counters.hits + t.gain Counters.misses ≤ t.gain Counters.requests
  blamed : tokens.Fails Failure.IsBackend →
    t.isNew.toNat + t.gain Counters.originErrors + t.gain Counters.digestMismatches ≤
      t.gain Counters.misses
  /-- New content is counted by its length. -/
  bytes : ∀ x, t.turn.result = .ok x → x.info.fromCache = false →
    t.turn.after.counters.bytesFromOrigin =
      t.turn.before.counters.bytesFromOrigin + UInt64.ofNat x.body.bytes.length
  /-- Without a miss nothing comes from the origin, in particular with a hit. -/
  unasked : t.gain Counters.misses = 0 →
    t.turn.after.counters.bytesFromOrigin = t.turn.before.counters.bytesFromOrigin

theorem gain_eq_zero {t : Attempt} {f : Counters → UInt64}
    (h : f t.turn.after.counters = f t.turn.before.counters) : t.gain f = 0 := by
  rw [gain, h]
  simp

theorem gain_eq_one {t : Attempt} {f : Counters → UInt64}
    (h : f t.turn.after.counters = f t.turn.before.counters + 1) : t.gain f = 1 := by
  have hsub : f t.turn.before.counters + 1 - f t.turn.before.counters = 1 := by grind
  rw [gain, h, hsub]
  rfl

/-- How the end of a call is counted. -/
inductive Ended (t : Attempt) : Prop where
  /-- A value is counted nowhere else. -/
  | value {x : Copy} (result : t.turn.result = .ok x) (noOrigin : t.gain Counters.originErrors = 0)
      (noBackend : t.gain Counters.backendErrors = 0) (noDigest : t.gain Counters.digestMismatches = 0)
  /-- A wrong digest goes before the failures. -/
  | mismatch {f : Failure} (result : t.turn.result = .error (.failed f))
      (precondition : f.isPrecondition = true) (noOrigin : t.gain Counters.originErrors = 0)
      (noBackend : t.gain Counters.backendErrors = 0) (digest : t.gain Counters.digestMismatches = 1)
  | origin {f : Failure} (result : t.turn.result = .error (.failed f)) (blamed : f.isOrigin = true)
      (origin : t.gain Counters.originErrors = 1) (noBackend : t.gain Counters.backendErrors = 0)
      (noDigest : t.gain Counters.digestMismatches = 0)
  | backend {f : Failure} (result : t.turn.result = .error (.failed f)) (other : f.IsBackend)
      (noOrigin : t.gain Counters.originErrors = 0) (backend : t.gain Counters.backendErrors = 1)
      (noDigest : t.gain Counters.digestMismatches = 0)

/-- The end of a call is counted in one of these ways when its work has touched none of the counters of
failures. -/
theorem ended_of_countEnd {t : Attempt} {k : Counters}
    (hafter : t.turn.after.counters = countEnd t.turn.result k)
    (horigin : k.originErrors = t.turn.before.counters.originErrors)
    (hbackend : k.backendErrors = t.turn.before.counters.backendErrors)
    (hdigest : k.digestMismatches = t.turn.before.counters.digestMismatches)
    (hended : t.turn.result ≠ .error .interrupted) : t.Ended := by
  cases hr : t.turn.result with
  | ok x =>
    rw [hr] at hafter
    refine .value hr (gain_eq_zero ?_) (gain_eq_zero ?_) (gain_eq_zero ?_) <;> rw [hafter]
    · exact horigin
    · exact hbackend
    · exact hdigest
  | error halt =>
    cases halt with
    | interrupted => exact absurd hr hended
    | failed f =>
      rw [hr] at hafter
      simp only [countEnd] at hafter
      cases hprecondition : f.isPrecondition with
      | true =>
        rw [hprecondition, if_pos rfl] at hafter
        refine .mismatch hr hprecondition (gain_eq_zero ?_) (gain_eq_zero ?_) (gain_eq_one ?_) <;>
          rw [hafter]
        · exact horigin
        · exact hbackend
        · exact congrArg (· + 1) hdigest
      | false =>
        rw [hprecondition, if_neg (by simp)] at hafter
        cases hat : f.isOrigin with
        | true =>
          rw [hat] at hafter
          refine .origin hr hat (gain_eq_one ?_) (gain_eq_zero ?_) (gain_eq_zero ?_) <;> rw [hafter]
          · exact congrArg (· + 1) horigin
          · exact hbackend
          · exact hdigest
        | false =>
          rw [hat] at hafter
          refine .backend hr ⟨hat, hprecondition⟩ (gain_eq_zero ?_) (gain_eq_one ?_)
            (gain_eq_zero ?_) <;> rw [hafter]
          · exact horigin
          · exact congrArg (· + 1) hbackend
          · exact hdigest

/-- What is told of a call that has ended well. -/
theorem told_of_ok {t : Attempt} {x : Copy} (h : t.turn.result = .ok x) :
    t.isOk.toNat = 1 ∧ t.isHit.toNat = x.info.fromCache.toNat ∧
      t.isNew.toNat = (!x.info.fromCache).toNat := by
  simp [isOk, isHit, isNew, h, Except.toOption]

theorem told_of_error {t : Attempt} {halt : Halt} (h : t.turn.result = .error halt) :
    t.isOk.toNat = 0 ∧ t.isHit.toNat = 0 ∧ t.isNew.toNat = 0 := by
  simp [isOk, isHit, isNew, h, Except.toOption]

/-- A call ends once. -/
theorem Ended.once {t : Attempt} (h : t.Ended) :
    t.isOk.toNat + t.gain Counters.originErrors + t.gain Counters.backendErrors +
      t.gain Counters.digestMismatches = 1 := by
  cases h with
  | value result =>
    obtain ⟨hok, -⟩ := told_of_ok result
    omega
  | mismatch result | origin result | backend result =>
    obtain ⟨hok, -⟩ := told_of_error result
    omega

/-- A failure that lies elsewhere is not counted as one of the origin or the digest. -/
theorem Ended.elsewhere {t : Attempt} (h : t.Ended) {f : Failure}
    (hf : t.turn.result = .error (.failed f)) (hb : f.IsBackend) :
    t.gain Counters.originErrors = 0 ∧ t.gain Counters.digestMismatches = 0 := by
  cases h with
  | value result => cases result.symm.trans hf
  | mismatch result precondition =>
    cases result.symm.trans hf
    cases precondition.symm.trans hb.2
  | origin result blamed =>
    cases result.symm.trans hf
    cases blamed.symm.trans hb.1
  | backend _ _ noOrigin _ noDigest => exact ⟨noOrigin, noDigest⟩

/-- A call whose source can be read, when its work has counted `counts` and has ended in `r`. -/
structure Worked (t : Attempt) (limit : Option Time.Span) (counts : Counters → Counters)
    (r : Except Halt Copy) : Prop where
  valid : t.isValid = true
  result : t.turn.result = overtaken limit r
  after : ∃ k : Journal, k.counters = counts t.turn.before.counters.countRequest ∧
    t.turn.after = counted t.turn.before t.turn.result k
  ended : t.turn.result ≠ .error .interrupted

namespace Worked

variable {t : Attempt} {limit : Option Time.Span} {tokens : TokenSource}

theorem valid_toNat (h : Worked t limit counts r) : t.isValid.toNat = 1 := by
  rw [h.valid]
  rfl

/-- The end of a call touches the counters of failures and of the time, and no others. -/
theorem counters (h : Worked t limit counts r) :
    ∃ originErrors backendErrors digestMismatches microseconds, t.turn.after.counters =
      { counts t.turn.before.counters.countRequest with
        originErrors, backendErrors, digestMismatches, microseconds } := by
  obtain ⟨k, hk, hafter⟩ := h.after
  rw [hafter, ← hk]
  exact counted_counters t.turn.before t.turn.result k

/-- The end of a call is counted when its work touches none of the counters of failures. -/
theorem counted (h : Worked t limit counts r)
    (hcounts : ∀ k, (counts k).originErrors = k.originErrors ∧
      (counts k).backendErrors = k.backendErrors ∧ (counts k).digestMismatches = k.digestMismatches) :
    t.Ended := by
  obtain ⟨k, hk, hafter⟩ := h.after
  obtain ⟨horigin, hbackend, hdigest⟩ := hcounts t.turn.before.counters.countRequest
  have hend : t.turn.after.counters = countEnd t.turn.result
      (k.counters.countDuration (k.elapsed.minus t.turn.before.elapsed)) := by
    rw [hafter]
    rfl
  rw [← hk] at horigin hbackend hdigest
  exact ended_of_countEnd hend horigin hbackend hdigest h.ended

/-- Work that has failed ends in a failure. -/
theorem failed {halt : Halt} (h : Worked t limit counts (.error halt)) :
    ∃ f, t.turn.result = .error (.failed f) := by
  cases hr : t.turn.result with
  | ok x => cases overtaken_eq_ok.1 (h.result.symm.trans hr)
  | error halt' =>
    cases halt' with
    | interrupted => exact absurd hr h.ended
    | failed f => exact ⟨f, rfl⟩

/-- A call that asks the origin counts a request, a miss and a fetch. -/
theorem asked {bytes : Nat} {stale : Bool}
    (h : Worked t limit (fun k => ((k.countMiss stale).countOriginFetch).countBytes bytes) r) :
    t.gain Counters.requests = 1 ∧ t.gain Counters.hits = 0 ∧ t.gain Counters.misses = 1 ∧
      t.gain Counters.stale ≤ 1 ∧ t.gain Counters.originFetches = 1 := by
  obtain ⟨_, _, _, _, hcounters⟩ := h.counters
  refine ⟨gain_eq_one ?_, gain_eq_zero ?_, gain_eq_one ?_, ?_, gain_eq_one ?_⟩
  · rw [hcounters]; rfl
  · rw [hcounters]; rfl
  · rw [hcounters]; rfl
  · cases stale with
    | true => exact Nat.le_of_eq (gain_eq_one (by rw [hcounters]; rfl))
    | false => rw [gain_eq_zero (by rw [hcounters]; rfl)]; exact Nat.zero_le 1
  · rw [hcounters]; rfl

/-- A call that does not ask the origin counts a request, and neither a miss nor any bytes. -/
theorem spared (h : Worked t limit counts r)
    (hcounts : ∀ k, (counts k).requests = k.requests ∧ (counts k).misses = k.misses ∧
      (counts k).stale = k.stale ∧ (counts k).originFetches = k.originFetches ∧
      (counts k).bytesFromOrigin = k.bytesFromOrigin) :
    t.gain Counters.requests = 1 ∧ t.gain Counters.misses = 0 ∧ t.gain Counters.stale = 0 ∧
      t.gain Counters.originFetches = 0 ∧
      t.turn.after.counters.bytesFromOrigin = t.turn.before.counters.bytesFromOrigin := by
  obtain ⟨_, _, _, _, hcounters⟩ := h.counters
  obtain ⟨hrequests, hmisses, hstale, hfetches, hbytes⟩ := hcounts t.turn.before.counters.countRequest
  refine ⟨gain_eq_one ?_, gain_eq_zero ?_, gain_eq_zero ?_, gain_eq_zero ?_, ?_⟩ <;> rw [hcounters]
  · exact hrequests
  · exact hmisses
  · exact hstale
  · exact hfetches
  · exact hbytes

/-- Work that comes to nothing before the origin is asked. -/
theorem balanced_unasked {halt : Halt} (h : Worked t limit id (.error halt))
    (backend : halt.Fails (fun f => tokens.Fails Failure.IsBackend → f.IsBackend)
      (limited limit w t.turn.before)) : t.Balanced tokens := by
  obtain ⟨_, _, _, _, hcounters⟩ := h.counters
  obtain ⟨f, hf⟩ := h.failed
  have ended := h.counted fun _ => ⟨rfl, rfl, rfl⟩
  have hvalid := h.valid_toNat
  have honce := ended.once
  have hhits : t.gain Counters.hits = 0 := gain_eq_zero (by rw [hcounters]; rfl)
  obtain ⟨hrequests, hmisses, hstale, hfetches, hbytes⟩ := h.spared fun _ => ⟨rfl, rfl, rfl, rfl, rfl⟩
  obtain ⟨hok, hhit, hnew⟩ := told_of_error hf
  have hspared : tokens.Fails Failure.IsBackend → f.IsBackend := by
    refine overtaken_fails (w := w) (P := fun f => tokens.Fails Failure.IsBackend → f.IsBackend)
      t.turn.before (h.result.symm.trans hf) (fun _ _ => ⟨rfl, rfl⟩) fun h' hh => ?_
    rw [← Except.error.inj hh]
    exact backend
  constructor
  case bytes => exact fun x hx => nomatch hf.symm.trans hx
  case unasked => exact fun _ => hbytes
  case blamed =>
    intro htokens
    obtain ⟨horigin, hdigest⟩ := ended.elsewhere hf (hspared htokens)
    omega
  all_goals omega

theorem balanced_hit {x : Copy} (h : Worked t limit Counters.countHit (.ok x))
    (served : x.info.fromCache = true) : t.Balanced tokens := by
  obtain ⟨_, _, _, _, hcounters⟩ := h.counters
  have hx : t.turn.result = .ok x := h.result.trans (overtaken_eq_ok.2 rfl)
  have hvalid := h.valid_toNat
  have honce := (h.counted fun _ => ⟨rfl, rfl, rfl⟩).once
  have hhits : t.gain Counters.hits = 1 := gain_eq_one (by rw [hcounters]; rfl)
  obtain ⟨hrequests, hmisses, hstale, hfetches, hbytes⟩ := h.spared fun _ => ⟨rfl, rfl, rfl, rfl, rfl⟩
  obtain ⟨hok, hhit, hnew⟩ := told_of_ok hx
  rw [served] at hhit hnew
  simp only [Bool.toNat_true, Bool.not_true, Bool.toNat_false] at hhit hnew
  constructor
  case bytes =>
    intro y hy hfrom
    obtain rfl := Except.ok.inj (hx.symm.trans hy)
    cases served.symm.trans hfrom
  case unasked => exact fun _ => hbytes
  all_goals omega

/-- Work that comes to nothing after the origin has been asked. -/
theorem balanced_failed {halt : Halt} {stale : Bool} {bytes : Nat}
    (h : Worked t limit (fun k => ((k.countMiss stale).countOriginFetch).countBytes bytes)
      (.error halt)) : t.Balanced tokens := by
  obtain ⟨f, hf⟩ := h.failed
  have hvalid := h.valid_toNat
  have honce := (h.counted fun _ => by cases stale <;> exact ⟨rfl, rfl, rfl⟩).once
  obtain ⟨hrequests, hhits, hmisses, hstale, hfetches⟩ := h.asked
  obtain ⟨hok, hhit, hnew⟩ := told_of_error hf
  constructor
  case bytes => exact fun x hx => nomatch hf.symm.trans hx
  case unasked => exact fun hno => by omega
  all_goals omega

theorem balanced_new {x : Copy} {stale : Bool}
    (h : Worked t limit
      (fun k => ((k.countMiss stale).countOriginFetch).countBytes x.body.bytes.length) (.ok x))
    (served : x.info.fromCache = false) : t.Balanced tokens := by
  obtain ⟨_, _, _, _, hcounters⟩ := h.counters
  have hx : t.turn.result = .ok x := h.result.trans (overtaken_eq_ok.2 rfl)
  have hvalid := h.valid_toNat
  have honce := (h.counted fun _ => by cases stale <;> exact ⟨rfl, rfl, rfl⟩).once
  obtain ⟨hrequests, hhits, hmisses, hstale, hfetches⟩ := h.asked
  obtain ⟨hok, hhit, hnew⟩ := told_of_ok hx
  rw [served] at hhit hnew
  simp only [Bool.not_false, Bool.toNat_true, Bool.toNat_false] at hhit hnew
  constructor
  case bytes =>
    intro y hy _
    obtain rfl := Except.ok.inj (hx.symm.trans hy)
    rw [hcounters]
    rfl
  case unasked => exact fun hno => by omega
  all_goals omega

/-- A call balances in whichever way its work has counted. -/
theorem balanced (h : Worked t limit counts r)
    (counting : Counting tokens (limited limit w t.turn.before) counts r) : t.Balanced tokens := by
  cases counting with
  | unasked backend => exact h.balanced_unasked backend
  | hit served => exact h.balanced_hit served
  | failed => exact h.balanced_failed
  | new _ served => exact h.balanced_new served

end Worked

/-- **The counters of one call balance.** -/
theorem balanced {t : Attempt} (h : t.MadeBy c) : t.Balanced c.store.metadata.tokens := by
  obtain ⟨o, w, hw, hturn⟩ := h
  have hended : t.turn.result ≠ .error .interrupted := by
    rw [hturn]
    exact c.copy_not_interrupted t.source o hw _
  have hresult := congrArg Act.Turn.result hturn
  have hafter := congrArg Act.Turn.after hturn
  cases hs : readSource t.source with
  | error f =>
    simp only [Act.turn, copy_of_invalid hs] at hresult hafter
    have hzero (g : Counters → UInt64) : t.gain g = 0 := gain_eq_zero (by rw [hafter])
    have hvalid : t.isValid = false := by simp [isValid, hs, Except.toOption]
    have hok : t.isOk = false := by simp [isOk, hresult, Except.toOption]
    have hhit : t.isHit = false := by simp [isHit, hresult, Except.toOption]
    have hnew : t.isNew = false := by simp [isNew, hresult, Except.toOption]
    constructor
    case bytes =>
      intro x hx
      cases hresult.symm.trans hx
    case unasked => exact fun _ => by rw [hafter]
    all_goals simp [hzero, hvalid, hok, hhit, hnew]
  | ok url =>
    obtain ⟨n, hg, -, steps, -, looking⟩ :=
      c.lookup_openly (limited o.timeout w t.turn.before) t.source url o (begun t.turn.before)
    have hvalid : t.isValid = true := by simp [isValid, hs, Except.toOption]
    simp only [Act.turn, copy_apply hs] at hresult hafter
    have worked : Worked t o.timeout n.counts _ :=
      ⟨hvalid, hresult, ⟨_, hg.counters, by rw [hafter, hresult]; rfl⟩, hended⟩
    exact worked.balanced looking.counting

end Attempt

/-! ## Many calls -/

/-- The attempts of a repeated call. -/
def attemptsOf (source : String) (turns : List (Act.Turn Copy)) : List Attempt :=
  turns.map (⟨source, ·⟩)

/-- Calls that are made one after the other, single and repeated ones, between two journals. Each has a
world of its own, and what happens besides counts nothing. -/
inductive Session (c : Cache) : Journal → List Attempt → Journal → Prop where
  | done (j : Journal) : Session c j [] j
  | copied {j k : Journal} {ts : List Attempt} (source : String) (o : CacheOptions) (w : World)
      (hw : w.deadline = none) (rest : Session c (c.copy source o w j).2 ts k) :
      Session c j (attemptsOf source [(c.copy source o).turn w j] ++ ts) k
  | repeated {j k : Journal} {ts : List Attempt} (source : String) (o : CacheOptions)
      (p : RetryPolicy) (w : World) (hw : w.deadline = none)
      (rest : Session c (c.copyRetrying source o p w j).2 ts k) :
      Session c j (attemptsOf source (Act.attempts p (c.copy source o) 0 w j) ++ ts) k
  | elsewhere {j j' k : Journal} {ts : List Attempt} (uncounted : j'.counters = j.counters)
      (rest : Session c j' ts k) : Session c j ts k

/-- Calls that take the counters from one state to another, each where the one before has left them. -/
inductive Chain (c : Cache) : Counters → List Attempt → Counters → Prop where
  | done (k : Counters) : Chain c k [] k
  | next {t : Attempt} {ts : List Attempt} {k : Counters} (made : t.MadeBy c)
      (rest : Chain c t.turn.after.counters ts k) : Chain c t.turn.before.counters (t :: ts) k

/-- A wait counts nothing. -/
theorem wait_counters (s : Time.Span) (w : World) (j : Journal) :
    (Act.wait s w j).2.counters = j.counters := rfl

theorem Chain.append {ts us : List Attempt} {k l m : Counters} (h : Chain c k ts l)
    (h' : Chain c l us m) : Chain c k (ts ++ us) m := by
  induction h with
  | done => exact h'
  | next made _ ih => exact .next made (ih h')

/-- The attempts of a repeated call are a chain. -/
theorem chain_of_attempts (c : Cache) (source : String) (o : CacheOptions) (p : RetryPolicy)
    {w : World} (hw : w.deadline = none) (i : Nat) (j : Journal) :
    Chain c j.counters (attemptsOf source (Act.attempts p (c.copy source o) i w j))
      (Act.retrying p (c.copy source o) i w j).2.counters := by
  have made : Attempt.MadeBy ⟨source, (c.copy source o).turn w j⟩ c := ⟨o, w, hw, rfl⟩
  -- On the number of attempts that are left.
  induction hleft : p.maxRetries - i using Nat.strongRecOn generalizing i j with
  | ind left ih =>
    obtain ⟨hattempts, hretrying, -⟩ | ⟨hattempts, hretrying, hlt, -⟩ :=
      Act.attempts_cases p (c.copy source o) i w j
    · rw [hattempts, hretrying]
      exact .next made (.done _)
    · have rest := ih _ (by omega) (i + 1) (Act.waited p i w (c.copy source o w j).2)
        ⟨o, w, hw, rfl⟩ rfl
      rw [Act.waited, wait_counters] at rest
      rw [hattempts, hretrying]
      exact .next made rest

theorem Session.chain {ts : List Attempt} {j k : Journal} (h : Session c j ts k) :
    Chain c j.counters ts k.counters := by
  induction h with
  | done j => exact .done j.counters
  | @copied j _ _ source o w hw _ ih =>
    exact .next (t := ⟨source, (c.copy source o).turn w j⟩) ⟨o, w, hw, rfl⟩ ih
  | repeated source o p w hw _ ih => exact (chain_of_attempts c source o p hw 0 _).append ih
  | elsewhere uncounted _ ih => exact uncounted ▸ ih

/-- How far a counter has gone on in many calls. -/
def total (f : Counters → UInt64) : List Attempt → Nat
  | [] => 0
  | t :: ts => t.gain f + total f ts

/-- A counter goes on by what it has gained, and wraps. -/
theorem Chain.counter {ts : List Attempt} {k l : Counters} (h : Chain c k ts l)
    (f : Counters → UInt64) : f l = f k + UInt64.ofNat (total f ts) := by
  induction h with
  | done k => simp [total]
  | @next t ts l made _ ih =>
    have hgain : UInt64.ofNat (t.gain f) = f t.turn.after.counters - f t.turn.before.counters :=
      UInt64.ofNat_toNat
    rw [ih, total, UInt64.ofNat_add, hgain]
    grind

/-- The counters of many calls balance. -/
structure Balance (tokens : TokenSource) (ts : List Attempt) : Prop where
  valid : total Counters.requests ts = ts.countP Attempt.isValid
  ends : total Counters.requests ts = ts.countP Attempt.isOk + total Counters.originErrors ts +
    total Counters.backendErrors ts + total Counters.digestMismatches ts
  hits : total Counters.hits ts = ts.countP Attempt.isHit
  fetches : total Counters.originFetches ts = total Counters.misses ts
  stale : total Counters.stale ts ≤ total Counters.misses ts
  either : total Counters.hits ts + total Counters.misses ts ≤ total Counters.requests ts
  blamed : tokens.Fails Failure.IsBackend → ts.countP Attempt.isNew + total Counters.originErrors ts +
    total Counters.digestMismatches ts ≤ total Counters.misses ts

theorem countP_cons_toNat (p : Attempt → Bool) (t : Attempt) (ts : List Attempt) :
    (t :: ts).countP p = (p t).toNat + ts.countP p := by
  rw [List.countP_cons, Nat.add_comm]
  cases p t <;> rfl

/-- What holds of the counters of every call holds of those of many. -/
theorem balance_of_balanced {tokens : TokenSource} {ts : List Attempt}
    (h : ∀ t ∈ ts, t.Balanced tokens) : Balance tokens ts := by
  induction ts with
  | nil => constructor <;> simp [total]
  | cons t ts ih =>
    have one := h t (by simp)
    have many := ih fun u hu => h u (by simp [hu])
    constructor <;> simp only [total, countP_cons_toNat]
    case valid => rw [one.valid, many.valid]
    case ends => rw [one.ends, many.ends]; omega
    case hits => rw [one.hits, many.hits]
    case fetches => rw [one.fetches, many.fetches]
    case stale => exact Nat.add_le_add one.stale many.stale
    case either => have := one.either; have := many.either; omega
    case blamed => intro ht; have := one.blamed ht; have := many.blamed ht; omega

theorem Chain.balanced {ts : List Attempt} {k l : Counters} (h : Chain c k ts l) :
    ∀ t ∈ ts, t.Balanced c.store.metadata.tokens := by
  induction h with
  | done => simp
  | next made _ ih =>
    intro u hu
    obtain rfl | hu := List.mem_cons.1 hu
    · exact Attempt.balanced made
    · exact ih u hu

/-- **The counters of a session balance**, whatever its calls are: the requests are the calls whose source
can be read, and each of them has ended in one of four ways; hits are the values from the store; and
only a miss asks the origin. All counters begin at zero, and wrap at their end. -/
theorem session_balanced {ts : List Attempt} {j k : Journal} (h : Session c j ts k)
    (hj : j.counters = .zero) :
    Balance c.store.metadata.tokens ts ∧
      k.counters.requests = UInt64.ofNat (ts.countP Attempt.isValid) ∧
      k.counters.requests = UInt64.ofNat (ts.countP Attempt.isOk) + k.counters.originErrors +
        k.counters.backendErrors + k.counters.digestMismatches ∧
      k.counters.hits = UInt64.ofNat (ts.countP Attempt.isHit) ∧
      k.counters.originFetches = k.counters.misses ∧
      (∀ f : Counters → UInt64, f .zero = 0 → f k.counters = UInt64.ofNat (total f ts)) ∧
      ∀ t ∈ ts, ∀ x, t.turn.result = .ok x →
        t.turn.after.counters.bytesFromOrigin = t.turn.before.counters.bytesFromOrigin +
          if x.info.fromCache then 0 else UInt64.ofNat x.body.bytes.length := by
  have chain := h.chain
  have each := chain.balanced
  have balance := balance_of_balanced each
  have counter (f : Counters → UInt64) (hf : f .zero = 0) :
      f k.counters = UInt64.ofNat (total f ts) := by
    rw [chain.counter f, hj, hf, UInt64.zero_add]
  refine ⟨balance, ?_, ?_, ?_, ?_, counter, ?_⟩
  · rw [counter Counters.requests rfl, balance.valid]
  · rw [counter Counters.requests rfl, balance.ends, counter Counters.originErrors rfl,
      counter Counters.backendErrors rfl, counter Counters.digestMismatches rfl]
    simp only [UInt64.ofNat_add]
  · rw [counter Counters.hits rfl, balance.hits]
  · rw [counter Counters.originFetches rfl, counter Counters.misses rfl, balance.fetches]
  · intro t ht' x hx
    have one := each t ht'
    cases hfrom : x.info.fromCache with
    | false => simpa using one.bytes x hx hfrom
    | true =>
      have hmisses : t.gain Counters.misses = 0 := by
        obtain ⟨-, hhit, -⟩ := Attempt.told_of_ok hx
        rw [hfrom, Bool.toNat_true] at hhit
        have heither := one.either
        rw [one.hits, one.valid, hhit] at heither
        have hvalid := Bool.toNat_le t.isValid
        omega
      simpa using one.unasked hmisses

/-! ## A session -/

/-- The journal of two calls: of a source that is new to the cache, and of a text that is none. -/
def twoCalls : Journal :=
  (usual.copy "mailto:o" {} chunkedWorld (usual.copy "http://o/" {} chunkedWorld {}).2).2

set_option maxRecDepth 10000 in
/-- Only the first of the two calls is counted, and it asks the origin. -/
theorem session_balanced_two :
    ({} : Journal).counters = .zero ∧ twoCalls.counters.requests = 1 ∧
      twoCalls.counters.originFetches = twoCalls.counters.misses ∧
      ∃ ts, Session usual {} ts twoCalls ∧ ts.countP Attempt.isNew + total Counters.originErrors ts +
        total Counters.digestMismatches ts ≤ total Counters.misses ts := by
  have hvalid : (readSource "http://o/").toOption.isSome = true := by decide +kernel
  have hinvalid : (readSource "mailto:o").toOption.isSome = false := by decide +kernel
  obtain ⟨ts, session, hcount⟩ :
      ∃ ts, Session usual {} ts twoCalls ∧ ts.countP Attempt.isValid = 1 := by
    refine ⟨_, .copied "http://o/" {} chunkedWorld rfl
      (.copied "mailto:o" {} chunkedWorld rfl (.done _)), ?_⟩
    simp [attemptsOf, Attempt.isValid, hvalid, hinvalid]
  obtain ⟨balance, hrequests, -, -, hfetches, -⟩ := session_balanced session rfl
  rw [hcount] at hrequests
  exact ⟨rfl, hrequests, hfetches, ts, session, balance.blamed (TokenSource.fixed_fails _)⟩

set_option maxRecDepth 10000 in
/-- **What a token source fails with is counted as it says**: when these are the words of an origin, one of
its failures is counted before there has been a miss. -/
theorem session_blamed_unasked :
    ∃ ts k, Session tokenless {} ts k ∧ total Counters.originErrors ts = 1 ∧
      total Counters.misses ts = 0 := by
  refine ⟨_, _, .copied "http://o/" {} chunkedWorld rfl (.done _), ?_, ?_⟩ <;> decide +kernel

end Cache

end ContentCache
