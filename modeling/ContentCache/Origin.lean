import ContentCache.Http.Client

/-!
# Origins

Content that is not in the store is fetched from its origin by a plain request. Whatever goes wrong
here is a failure of the origin, so that callers can tell it from a failure behind the cache.

Main statement: `fetch_failure_isOrigin` (a fetch fails with failures of the origin only).
-/

namespace ContentCache

structure Origin where
  http : Http.Client
  deriving DecidableEq

/-- Content that an origin gives. -/
structure OriginContent where
  /-- The length that it announces, unless that is none or zero. -/
  length : Option Nat
  body : Stream
  deriving DecidableEq

namespace Origin

/-- The order that asks an origin. -/
def order (url : String) : Http.Order where
  purpose := .origin
  method := .get
  url := url

/-- An origin that gives no answer. -/
def unanswered (url : String) (e : Http.ClientError) : Failure :=
  Failure.originFailure ("GET " ++ url ++ " failed: " ++ e.message)

/-- What an answer amounts to: content, when it is one of success. -/
def accept (url : String) (r : Http.Response) : Except Failure OriginContent :=
  if Http.isSuccess r.status then .ok ⟨r.contentLength.filter (0 < ·), r.body⟩
  else .error (Failure.originStatusFailure r.status url)

/-- Opens the content of an origin for reading. -/
def fetch (o : Origin) (url : String) : Act OriginContent := do
  Act.ofExcept (accept url (← o.http.ask (order url) (unanswered url)))

/-- A fetch fails with failures of the origin only. -/
theorem fetch_failure_isOrigin {o : Origin} {url : String} {w : World} {j k : Journal} {f : Failure}
    (h : o.fetch url w j = (.error (.failed f), k)) : f.isOrigin = true := by
  simp only [fetch, Http.Client.ask, bind, Act.andThen, Act.ofRun_apply, Act.conclude_apply] at h
  unfold Http.Sent.response accept at h
  cases hd : (o.http.send (order url) w j).1.delivery with
  | answered r =>
    simp only [hd] at h
    split at h
    · simp [Act.ofExcept] at h
    · simp only [Act.ofExcept, Act.fail_apply, Prod.mk.injEq, Except.error.injEq,
        Halt.failed.injEq] at h
      rw [← h.1]; rfl
  | failed e =>
    simp only [hd, Prod.mk.injEq, Except.error.injEq, Halt.failed.injEq] at h
    rw [← h.1]; rfl
  | interrupted => simp [hd] at h

end Origin

end ContentCache
