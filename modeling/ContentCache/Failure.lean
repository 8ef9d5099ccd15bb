import ContentCache.Time.Span

/-!
# Failures

What can go wrong while content is stored, resolved or cached, with the words for it and three
questions that callers ask: did it happen at the origin, was it a broken promise about the content,
and may the same operation succeed when it is repeated.

Main statement: `isTransient_eq_false_of_isPrecondition` (a broken promise is never worth a repeat).
-/

namespace ContentCache

inductive Failure where
  /-- The source is no absolute URL of the web. -/
  | invalidUrl (detail : String)
  /-- The configuration cannot be read or breaks a rule. -/
  | configuration (detail : String)
  /-- No bearer token can be had. -/
  | credentials (detail : String)
  /-- A call of the metadata service got no answer, or one that cannot be understood. -/
  | metadata (detail : String)
  /-- The metadata service refused a call, with a code. -/
  | rejected (code message : String)
  /-- A transfer to or from the object store failed, with the status when there was an answer. -/
  | transfer (status : Option Nat) (message : String)
  /-- The origin failed, with the status when there was an answer. -/
  | origin (status : Option Nat) (message : String)
  | digestMismatch (expected actual : String)
  /-- Reading or writing local data failed. -/
  | io (detail : String)
  | deadlineExceeded (limit : Time.Span)
  deriving DecidableEq, Repr

namespace Failure

def message : Failure → String
  | invalidUrl detail => "Invalid URL: " ++ detail
  | configuration detail => "Configuration error: " ++ detail
  | credentials detail => "Credentials error: " ++ detail
  | metadata detail => "Metadata service error: " ++ detail
  | rejected code message => "Metadata service rejected request: " ++ message ++ " (" ++ code ++ ")"
  | transfer _ message => "Transfer failed: " ++ message
  | origin _ message => "Origin request failed: " ++ message
  | digestMismatch expected actual => "Digest mismatch: expected " ++ expected ++ ", got " ++ actual
  | io detail => "IO error: " ++ detail
  | deadlineExceeded limit => "Deadline exceeded after " ++ limit.text

/-! ## Where it happened -/

/-- The failure lies with the source, not with the store behind the cache. -/
def isOrigin : Failure → Bool
  | origin .. => true
  | _ => false

/-- The status that the origin answered with, when it is the origin that failed. -/
def originStatus : Failure → Option Nat
  | origin status _ => status
  | _ => none

/-- The content is not what the caller asked for. -/
def isPrecondition : Failure → Bool
  | digestMismatch .. => true
  | _ => false

/-- The status of an answer that a failure carries. -/
def status? : Failure → Option Nat
  | origin status _ => status
  | transfer status _ => status
  | _ => none

/-! ## Whether a repeat may help -/

/-- A status that may go away: a server error, a request timeout or too many requests. -/
def isTransientStatus (status : Nat) : Bool := 500 ≤ status || status = 408 || status = 429

/-- A code of the metadata service that may go away. -/
def isTransientCode (code : String) : Bool :=
  code = "unavailable" || code = "deadline_exceeded" || code = "resource_exhausted"

/-- Repeating the whole operation may succeed. -/
def isTransient : Failure → Bool
  | origin none _ | transfer none _ => true
  | origin (some status) _ | transfer (some status) _ => isTransientStatus status
  | metadata _ | io _ | deadlineExceeded _ => true
  | rejected code _ => isTransientCode code
  | invalidUrl _ | configuration _ | credentials _ | digestMismatch .. => false

theorem isTransient_eq_false_of_isPrecondition {f : Failure} (h : f.isPrecondition = true) :
    f.isTransient = false := by
  cases f <;> simp_all [isPrecondition, isTransient]

/-! ## Common failures -/

/-- The origin answered with a status that is no success. -/
def originStatusFailure (status : Nat) (url : String) : Failure :=
  origin (some status) (url ++ " returned status " ++ status.repr)

/-- The origin gave no answer, or its content could not be read. -/
def originFailure (message : String) : Failure := origin none message

/-- The object store answered a transfer with a status that is no success. -/
def transferStatusFailure (operation : String) (status : Nat) : Failure :=
  transfer (some status) ("failed to " ++ operation ++ " artifact: status " ++ status.repr)

end Failure

/-! ## Failures of reading and writing -/

inductive IoKind where
  | connectionReset
  | unexpectedEnd
  | notFound
  | permissionDenied
  | brokenPipe
  | other
  deriving DecidableEq, Repr

def IoKind.text : IoKind → String
  | connectionReset => "connection reset"
  | unexpectedEnd => "unexpected end of file"
  | notFound => "entity not found"
  | permissionDenied => "permission denied"
  | brokenPipe => "broken pipe"
  | other => "other error"

/-- An error of a read or a write: its kind, and words of its own when it has them. -/
structure IoError where
  kind : IoKind
  detail : Option String := none
  deriving DecidableEq, Repr

def IoError.text (e : IoError) : String := e.detail.getD e.kind.text

def IoError.saying (detail : String) : IoError := ⟨.other, some detail⟩

/-- The failure that an error of a read or a write becomes. -/
def IoError.failure (e : IoError) : Failure := .io e.text

end ContentCache
