import ContentCache.Failure
import ContentCache.Url.Reading

/-!
# Configuration

What a store and a cache are told about their surroundings, with a default for everything, and the
rules that a configuration has to keep.

Main statements: `check_eq_ok_iff` (what a configuration that passes satisfies) and
`check_default` (the default one passes).
-/

namespace ContentCache

/-- The configuration of a store and a cache. -/
structure Config where
  endpoint : String := "http://127.0.0.1:8080"
  tokenFile : Option String := none
  requestSeconds : Nat := 300
  connectSeconds : Nat := 10
  /-- Whether transfers are logged for everybody and not for debugging only. -/
  verbose : Bool := false
  spoolDirectory : Option String := none
  /-- The most bytes of a stream without a length that are kept in memory. -/
  memoryLimit : Nat := 8388608
  /-- The seconds that a new copy lives. -/
  lifeSeconds : Option Nat := none
  deriving DecidableEq, Repr

namespace Config

def requestTimeout (c : Config) : Time.Span := .ofSeconds c.requestSeconds

def connectTimeout (c : Config) : Time.Span := .ofSeconds c.connectSeconds

def life (c : Config) : Option Time.Span := c.lifeSeconds.map .ofSeconds

/-- Fails with the words for a broken rule. -/
def require (holds : Bool) (words : String) : Except Failure Unit :=
  if holds then .ok () else .error (.configuration words)

def endpointFailure (endpoint : String) (e : Url.Error) : Failure :=
  .configuration ("endpoint '" ++ endpoint ++ "' is not a valid URL: " ++ e.message)

/-- The rules, in the order in which they are checked: the endpoint is a URL of the web, and all
limits are positive. -/
def check (c : Config) : Except Failure Unit :=
  match Url.read c.endpoint with
  | .error e => .error (endpointFailure c.endpoint e)
  | .ok url => do
    require (Url.isWebScheme url.scheme) ("endpoint must use http or https, got '" ++ url.scheme ++ "'")
    require (0 < c.requestSeconds) "request_timeout_secs must be greater than 0"
    require (0 < c.connectSeconds) "connect_timeout_secs must be greater than 0"
    require (0 < c.memoryLimit) "max_memory_buffer must be greater than 0"
    require (c.lifeSeconds ≠ some 0) "cache_ttl_secs must be greater than 0 when set"

theorem require_eq_ok_iff {holds : Bool} {words : String} :
    require holds words = .ok () ↔ holds = true := by
  cases holds <;> simp [require]

/-- A step that fails or goes on goes on exactly when it succeeds and what follows does. -/
theorem bind_eq_ok_iff {a : Except Failure Unit} {b : Except Failure Unit} :
    (a >>= fun _ => b) = .ok () ↔ a = .ok () ∧ b = .ok () := by
  cases a with
  | error f => simp [bind, Except.bind]
  | ok u => cases u; simp [bind, Except.bind]

/-- A configuration passes exactly when its endpoint is a URL of the web and its limits are
positive. -/
theorem check_eq_ok_iff {c : Config} :
    c.check = .ok () ↔
      (∃ url, Url.read c.endpoint = .ok url ∧ Url.isWebScheme url.scheme = true) ∧
      0 < c.requestSeconds ∧ 0 < c.connectSeconds ∧ 0 < c.memoryLimit ∧ c.lifeSeconds ≠ some 0 := by
  unfold check
  cases h : Url.read c.endpoint with
  | error e => simp
  | ok url => simp only [bind_eq_ok_iff, require_eq_ok_iff, decide_eq_true_eq]; simp

theorem check_default : ({} : Config).check = .ok () := by
  have passes : ({} : Config).check.isOk = true := by decide +kernel
  cases h : ({} : Config).check with
  | ok u => rfl
  | error e => rw [h] at passes; cases passes

end Config

end ContentCache
