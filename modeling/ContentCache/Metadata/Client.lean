import ContentCache.Http.Client
import ContentCache.Metadata.Document
import ContentCache.Token

/-!
# A client of the metadata service

Every call posts a JSON document with a bearer token. When the first answer says that the token is not
accepted, the call is made a second time with a token that is issued anew, and never a third time.

* `post`: asks for a token and posts a document.
* `call`: a call with its second attempt; the last answer decides.
* `createWrite`, `finalize`, `createRead`, `list`: the four methods.

Main statements: `accept_of_success` and `accept_of_refusal` (what an answer amounts to).
-/

namespace ContentCache.Metadata

structure Client where
  http : Http.Client
  /-- The URL of the service, to which the service path is added. -/
  endpoint : String
  tokens : TokenSource

/-- A text without the slashes at its end. -/
def withoutSlashes (s : String) : String :=
  String.ofList (s.toList.reverse.dropWhile (· = '/')).reverse

namespace Client

/-- The URL of a method. -/
def methodUrl (c : Client) (method : Method) : String :=
  withoutSlashes c.endpoint ++ "/" ++ servicePath ++ "/" ++ method.name

def issueToken (c : Client) (force : Bool) : Act String := fun w j =>
  Act.ofExcept (c.tokens.issue w.files j.asked force) w { j with asked := j.asked ++ [force] }

theorem issueToken_ok {c : Client} {w : World} {j : Journal} {force : Bool} {token : String}
    (h : c.tokens.issue w.files j.asked force = .ok token) :
    c.issueToken force w j = (.ok token, { j with asked := j.asked ++ [force] }) := by
  unfold issueToken
  rw [h]
  rfl

theorem issueToken_error {c : Client} {w : World} {j : Journal} {force : Bool} {f : Failure}
    (h : c.tokens.issue w.files j.asked force = .error f) :
    c.issueToken force w j = (.error (.failed f), { j with asked := j.asked ++ [force] }) := by
  unfold issueToken
  rw [h]
  rfl

/-- The order that posts a document. -/
def order (c : Client) (method : Method) (token : String) (document : Json) : Http.Order where
  purpose := .call method
  method := .post
  url := c.methodUrl method
  token := some token
  contentType := some "application/json"
  payload := .whole (Bytes.ofText document.write)

/-- A call that got no answer. -/
def unanswered (method : Method) (e : Http.ClientError) : Failure :=
  .metadata (method.name ++ " request failed: " ++ e.message)

/-- Posts a document with a token. -/
def post (c : Client) (method : Method) (document : Json) (force : Bool) : Act Http.Response := do
  let token ← c.issueToken force
  c.http.ask (c.order method token document) (unanswered method)

/-- An answer of success that cannot be understood. -/
def undecodable (method : Method) : Failure :=
  .metadata (method.name ++ ": failed to decode response: error decoding response body")

/-- The document of a body that can be read in full. -/
def document? (r : Http.Response) : Option Json :=
  match r.body.firstError? with
  | some _ => none
  | none => Json.ofBytes? r.body.bytes

/-- What an answer amounts to. -/
def accept {α : Type} (method : Method) (decode : Json → Option α) (r : Http.Response) :
    Except Failure α :=
  if Http.isSuccess r.status then
    match (document? r).bind decode with
    | some a => .ok a
    | none => .error (undecodable method)
  else .error (refusal method r.status r.text)

/-- The status of an answer that does not accept the token. -/
def unauthorized : Nat := 401

/-- Calls a method. -/
def call {α : Type} (c : Client) (method : Method) (request : Json) (decode : Json → Option α) :
    Act α := do
  let first ← c.post method request false
  if first.status = unauthorized then
    Act.ofExcept (accept method decode (← c.post method request true))
  else Act.ofExcept (accept method decode first)

/-- An answer of success with a document that can be understood is accepted. -/
theorem accept_of_success {α : Type} {method : Method} {decode : Json → Option α}
    {r : Http.Response} {a : α} (hs : Http.isSuccess r.status = true)
    (hd : (document? r).bind decode = some a) : accept method decode r = .ok a := by
  simp [accept, hs, hd]

/-- An answer without success is a refusal. -/
theorem accept_of_refusal {α : Type} {method : Method} {decode : Json → Option α}
    {r : Http.Response} (hs : Http.isSuccess r.status = false) :
    accept method decode r = .error (refusal method r.status r.text) := by
  simp [accept, hs]

/-! ## The methods -/

/-- Opens a place to write to. -/
def createWrite (c : Client) (r : CreateRequest) : Act WriteLocation :=
  c.call .createArtifact r.document WriteLocation.ofDocument?

/-- Seals what has been written. -/
def finalize (c : Client) (r : FinalizeRequest) : Act Artifact :=
  c.call .finalizeArtifact r.document sealedOfDocument?

/-- Opens a place to read from. -/
def createRead (c : Client) (r : ResolveRequest) : Act ReadLocation :=
  c.call .resolveArtifact r.document ReadLocation.ofDocument?

def list (c : Client) (r : ListRequest) : Act (List Artifact) :=
  c.call .listArtifacts r.document listedOfDocument?

end Client

end ContentCache.Metadata
