import ContentCache.Http.Client

/-!
# Transfers

Content goes to and comes from the object store by plain requests to signed URLs. A signed URL carries
its own permission in its query, so no credentials are sent, and the query is never written to the log.

* `Transfer.put`: sends content of an announced length, and tells what was taken from it.
* `Transfer.get`: opens content for reading.
* `unsigned`: what may be shown of a signed URL.

Main statement: `unsigned_eq` (URLs that differ only after the first question mark look the same).
-/

namespace ContentCache

/-- The end of work that takes content, and the items that it took. -/
structure Consumed (α : Type) where
  result : Except Halt α
  taken : Stream

/-- What may be shown of a signed URL: what stands before the first question mark. -/
def unsigned (url : String) : String := String.ofList (url.toList.takeWhile (· ≠ '?'))

/-- URLs that differ only after the first question mark look the same. -/
theorem unsigned_eq {front : List Char} (h : ∀ c ∈ front, c ≠ '?') (query : List Char) :
    unsigned (String.ofList (front ++ '?' :: query)) = String.ofList front := by
  have ht : (front ++ '?' :: query).takeWhile (· ≠ '?') = front := by
    rw [List.takeWhile_append_of_pos (by simpa using h)]
    simp
  simp only [unsigned, String.toList_ofList, ht]

/-- Transfers to and from the object store. -/
structure Transfer where
  http : Http.Client
  /-- Whether requests and answers are logged for everybody and not for debugging only. -/
  verbose : Bool
  deriving DecidableEq

namespace Transfer

/-- Logs a request or an answer. -/
def trace (t : Transfer) (message : String) : Act Unit :=
  Act.say (if t.verbose then .info else .debug) message

def unanswered (operation : String) (e : Http.ClientError) : Failure :=
  .transfer none ("failed to " ++ operation ++ " artifact: " ++ e.message)

/-! ## Sending -/

/-- The order that sends content. -/
def putOrder (url : String) (body : Stream) (length : Nat) (checksum : Option String) :
    Http.Order where
  purpose := .upload
  method := .put
  url := url
  contentMd5 := checksum
  payload := .streamed length body

/-- The most characters of a refusal that are logged. -/
def shownOfRefusal : Nat := 512

def refusalLine (r : Http.Response) : String :=
  "Upload rejected: status=" ++ Http.statusText r.status ++ ", body=" ++
    String.ofList (r.text.toList.take shownOfRefusal)

/-- Goes on with the answer to sent content, which has to be one of success. -/
def acceptPut (t : Transfer) (url : String) (sent : Http.Sent) : Act Unit := do
  let r ← Act.conclude (sent.response (unanswered "upload"))
  t.trace ("PUT " ++ unsigned url ++ " status=" ++ Http.statusText r.status)
  if Http.isSuccess r.status then pure ()
  else do
    Act.say .warning (refusalLine r)
    Act.fail (Failure.transferStatusFailure "upload" r.status)

/-- Sends content of an announced length. -/
def put (t : Transfer) (url : String) (body : Stream) (length : Nat) (checksum : Option String) :
    Act (Consumed Unit) := do
  t.trace ("PUT " ++ unsigned url ++ " length=" ++ length.repr)
  let sent ← Act.ofRun (t.http.send (putOrder url body length checksum))
  pure ⟨← (t.acceptPut url sent).settle, sent.taken⟩

/-! ## Receiving -/

/-- The order that asks for content. -/
def getOrder (url : String) : Http.Order where
  purpose := .download
  method := .get
  url := url

/-- An optional length, as it is logged. -/
def lengthText : Option Nat → String
  | none => "None"
  | some n => "Some(" ++ n.repr ++ ")"

/-- Opens content for reading. -/
def get (t : Transfer) (url : String) : Act Stream := do
  t.trace ("GET " ++ unsigned url)
  let r ← t.http.ask (getOrder url) (unanswered "download")
  t.trace ("GET " ++ unsigned url ++ " status=" ++ Http.statusText r.status ++
    " content_length=" ++ lengthText r.contentLength)
  if Http.isSuccess r.status then pure r.body
  else Act.fail (Failure.transferStatusFailure "download" r.status)

end Transfer

end ContentCache
