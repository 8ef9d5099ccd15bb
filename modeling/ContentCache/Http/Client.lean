import ContentCache.Act
import ContentCache.Http.Target

/-!
# An HTTP client

A client sends one request at a time and follows redirects. It fails before anything is sent when the
URL or a header cannot be used; a request that gets no reply in time fails too.

What is left open by the protocol is done as `reqwest` 0.12 does it. A 303 is followed with a plain request,
whatever the method was, and 307 and 308 with the same request. For 301 and 302 its releases differ, and so it
is a setting of a client: either every method gives way to a plain request, or only that of a request that
posts. A body that has passed by cannot be sent again, and a redirect that asks for it is an answer. Errors
tell the URL of the first request, also when redirects have led on. A bearer token takes the place of the user
name and password of a URL.

* `Payload`, `Payload.draw`: what a request carries. A body that passes by is drawn until it has the
  announced length and is cut to it; when it ends or fails before that, there is no complete request.
* `Draft`, `Draft.next?`: a request to be sent, and the one that a redirect makes of it.
* `Client.send`: sends a request, and tells which items of the body were drawn.

Main statements: `draw_body_length` (a complete body has the announced length), `draw_taken_prefix`
(what is drawn comes from the front) and `next?_streamed` (a redirect never carries a body that
passed by).
-/

namespace ContentCache.Http

/-- Why a client gives up. -/
inductive ClientError where
  /-- The URL or a header cannot be used. -/
  | unusable (url : Option Url)
  | unanswered (url : Url)
  | tooManyRedirects (url : Url)
  deriving DecidableEq

def ClientError.message : ClientError → String
  | unusable none => "builder error"
  | unusable (some url) => "builder error for url (" ++ url.text ++ ")"
  | unanswered url => "error sending request for url (" ++ url.text ++ ")"
  | tooManyRedirects url => "error following redirect for url (" ++ url.text ++ ")"

/-! ## Bodies of requests -/

/-- What a request carries. -/
inductive Payload where
  | nothing
  /-- Bytes at hand. -/
  | whole (data : Bytes)
  /-- Content that passes by, of an announced length. -/
  | streamed (length : Nat) (items : Stream)
  deriving DecidableEq

/-- Draws items until there are `n` bytes: the items drawn, and the `n` bytes when there are so many.
Nothing is drawn that is not needed. -/
def drawItems : (n : Nat) → Stream → Stream × Option Bytes
  | 0, _ => ([], some [])
  | _ + 1, [] => ([], none)
  | _ + 1, .error e :: _ => ([.error e], none)
  | n + 1, .chunk data :: rest =>
    if n + 1 ≤ data.length then ([.chunk data], some (data.take (n + 1)))
    else
      let (taken, body) := drawItems (n + 1 - data.length) rest
      (.chunk data :: taken, body.map (data ++ ·))

/-- The items that sending draws, and the complete body. -/
def Payload.draw : Payload → Stream × Option Bytes
  | nothing => ([], some [])
  | whole data => ([], some data)
  | streamed length items => drawItems length items

def Payload.length? : Payload → Option Nat
  | nothing => none
  | whole data => some data.length
  | streamed length _ => some length

/-- Whether the body passes by, so that it cannot be sent a second time. -/
def Payload.isStreamed : Payload → Bool
  | streamed .. => true
  | _ => false

/-- What is drawn comes from the front of the stream. -/
theorem draw_taken_prefix (n : Nat) (items : Stream) : (drawItems n items).1 <+: items := by
  fun_induction drawItems n items with
  | case1 => simp
  | case2 => simp
  | case3 => simp
  | case4 => simp
  | case5 n data rest h taken body he ih =>
    rw [he] at ih
    obtain ⟨t, ht⟩ := ih
    exact ⟨t, by simp [← ht]⟩

/-- A complete body has the announced length, and its bytes are the first ones of what is drawn. -/
theorem draw_body_eq {n : Nat} {items : Stream} {body : Bytes}
    (h : (drawItems n items).2 = some body) :
    body = (drawItems n items).1.bytes.take n ∧ n ≤ (drawItems n items).1.bytes.length := by
  fun_induction drawItems n items generalizing body with
  | case1 => simp_all
  | case2 => simp at h
  | case3 => simp at h
  | case4 n data rest hle =>
    simp only [Option.some.injEq] at h
    simp [Stream.bytes, Item.bytes, ← h, hle]
  | case5 n data rest hle taken tail he ih =>
    rw [he] at ih
    obtain ⟨tail, ht, rfl⟩ := Option.map_eq_some_iff.1 h
    obtain ⟨h1, h2⟩ := ih ht
    simp only [Stream.bytes, List.flatMap_cons, Item.bytes] at h1 h2 ⊢
    simp only [List.length_append, List.take_append]
    rw [List.take_of_length_le (by omega), ← h1]
    exact ⟨rfl, by omega⟩

theorem draw_body_length {n : Nat} {items : Stream} {body : Bytes}
    (h : (drawItems n items).2 = some body) : body.length = n := by
  obtain ⟨h1, h2⟩ := draw_body_eq h
  rw [h1, List.length_take]
  omega

/-! ## Requests to be sent -/

/-- A request to be sent. -/
structure Draft where
  method : Method
  url : Url
  authorization : Option String := none
  contentType : Option String := none
  contentMd5 : Option String := none
  payload : Payload := .nothing
  deriving DecidableEq

/-- The request as a server gets it, with its complete body. -/
def Draft.request (d : Draft) (body : Bytes) : Request where
  method := d.method
  url := d.url.withoutUser.withoutFragment
  authorization := d.authorization.map fieldValue
  contentType := d.contentType.map fieldValue
  contentLength := d.payload.length?
  contentMd5 := d.contentMd5.map fieldValue
  body := body

/-- A status that sends a client elsewhere, together with a place. -/
def isRedirect (status : Nat) : Bool :=
  status = 301 || status = 302 || status = 303 || status = 307 || status = 308

/-- A redirect that is followed with a plain request for the other place, by a client that keeps methods or
by one that does not. Others are followed with the same request. -/
def isMove (keeps : Bool) (method : Method) (status : Nat) : Bool :=
  status = 303 || (status = 301 || status = 302) && (method = .post || !keeps)

/-- The request that follows a redirect, when the reply is one that can be followed. Credentials go to
no other host or port, and a body that has passed by cannot be sent again. -/
def Draft.next? (d : Draft) (keeps : Bool) (r : Reply) : Option Draft := do
  let location ← r.location
  let moves := isMove keeps d.method r.status
  if !isRedirect r.status || (!moves && d.payload.isStreamed) then none
  else
    match Url.readFrom d.url location with
    | .error _ => none
    | .ok url =>
      if !isAddress url then none
      else
        let authorization := if sameOrigin url d.url then d.authorization else none
        if moves then
          some { method := .get, url, authorization, contentMd5 := d.contentMd5 }
        else some { d with url, authorization }

/-- A redirect never carries a body that passed by. -/
theorem next?_streamed {d e : Draft} {keeps : Bool} {r : Reply} (h : d.next? keeps r = some e) :
    e.payload.isStreamed = false := by
  unfold Draft.next? at h
  cases hl : r.location with
  | none => simp [hl] at h
  | some location =>
    simp only [hl, Option.bind_eq_bind, Option.bind_some] at h
    split at h
    · simp at h
    · rename_i hs
      split at h
      · simp at h
      · split at h
        · simp at h
        · split at h
          · simp only [Option.some.injEq] at h; subst h; rfl
          · rename_i hm
            simp only [Option.some.injEq] at h; subst h
            simp_all

/-! ## Orders -/

/-- A request as a caller wants it. -/
structure Order where
  purpose : Purpose
  method : Method
  url : String
  /-- A bearer token, which takes the place of credentials in the URL. -/
  token : Option String := none
  contentType : Option String := none
  contentMd5 : Option String := none
  payload : Payload := .nothing
  deriving DecidableEq

/-- The draft of an order: its URL has to have a host, and its headers have to be usable. -/
def Order.draft (o : Order) : Except ClientError Draft :=
  match Url.read o.url with
  | .error _ => .error (.unusable none)
  | .ok url =>
    if url.host.isNone then .error (.unusable (some url))
    else if !(o.token.all isHeaderText && o.contentMd5.all isHeaderText) then .error (.unusable none)
    else
      let target := Target.ofUrl url
      if !Url.isWebScheme url.scheme || !isAddress target.url then
        .error (.unusable (some target.url))
      else
        .ok { method := o.method, url := target.url,
              authorization := (o.token.map bearerCredentials).orElse fun _ => target.credentials,
              contentType := o.contentType, contentMd5 := o.contentMd5, payload := o.payload }

/-! ## Sending -/

/-- What comes back for one request. -/
inductive Reaction where
  | reply (r : Reply)
  /-- Nothing came back, or not in time. -/
  | nothing
  /-- The deadline of the call was reached first. -/
  | interrupted
  deriving DecidableEq

/-- What becomes of a request in the end. -/
inductive Delivery where
  | answered (r : Response)
  | failed (e : ClientError)
  | interrupted
  deriving DecidableEq

/-- What becomes of a request, and the items of its body that were drawn. -/
structure Sent where
  delivery : Delivery
  taken : Stream
  deriving DecidableEq

/-- What becomes of a request, for a caller who goes on with the reply alone. -/
def Sent.response (sent : Sent) (failure : ClientError → Failure) : Except Halt Response :=
  match sent.delivery with
  | .answered r => .ok r
  | .failed e => .error (.failed (failure e))
  | .interrupted => .error .interrupted

/-- A client, with the time that it gives a request and a connection. -/
structure Client where
  requestLimit : Time.Span
  connectLimit : Time.Span
  /-- Whether a 301 or 302 leaves the methods of requests as they are, unless they post. -/
  keepsMethod : Bool := true
  deriving DecidableEq

namespace Client

/-- Whether a request can reach a server: there is one, encryption is possible where it is asked for, and
there is time to reach it. -/
def reaches (c : Client) (w : World) (url : Url) : Bool :=
  w.listening && (url.scheme = "http" || w.encrypting && url.scheme = "https") &&
    0 < c.requestLimit.nanoseconds && 0 < c.connectLimit.nanoseconds

/-- The end of waiting in vain: at the deadline of the call when it comes first, else at the end of
the request's own time. -/
def giveUp (w : World) (j : Journal) (last : Time.Span) : Reaction × Journal :=
  match w.deadline with
  | some d =>
    if d.nanoseconds < last.nanoseconds then (.interrupted, j.atTime d) else (.nothing, j.atTime last)
  | none => (.nothing, j.atTime last)

/-- Waits for what a server does. -/
def await (c : Client) (w : World) (answer : Answer) (j : Journal) : Reaction × Journal :=
  let last := j.elapsed.plus c.requestLimit
  match answer with
  | .dropped => (.nothing, j)
  | .hangs => giveUp w j last
  | .reply after r =>
    let arrival := j.elapsed.plus after
    if arrival.nanoseconds ≤ last.nanoseconds && !w.isOver (j.atTime arrival) then
      (.reply r, j.atTime arrival)
    else giveUp w j last

/-- Sends one request and waits for what comes back. Only a complete request reaches the server. -/
def exchange (c : Client) (purpose : Purpose) (hop : Nat) (d : Draft) (w : World) (j : Journal) :
    (Reaction × Stream) × Journal :=
  if !c.reaches w d.url then ((.nothing, []), j)
  else if w.isOver j then ((.interrupted, []), j)
  else
    match d.payload.draw with
    | (taken, none) => ((.nothing, taken), j)
    | (taken, some body) =>
      let request := d.request body
      let answer := w.server.answer j.requests request
      let (reaction, j) := c.await w answer (j.record ⟨purpose, hop, j.elapsed, request, answer⟩)
      ((reaction, taken), j)

/-- Sends a request and follows redirects, at most `left` of them. -/
def follow (c : Client) (purpose : Purpose) (first : Url) (w : World) :
    (left hop : Nat) → Draft → Journal → Sent × Journal
  | left, hop, d, j =>
    match c.exchange purpose hop d w j with
    | ((.interrupted, taken), j) => (⟨.interrupted, taken⟩, j)
    | ((.nothing, taken), j) => (⟨.failed (.unanswered first), taken⟩, j)
    | ((.reply r, taken), j) =>
      match d.next? c.keepsMethod r, left with
      | none, _ => (⟨.answered r.response, taken⟩, j)
      | some _, 0 => (⟨.failed (.tooManyRedirects first), taken⟩, j)
      | some next, left + 1 =>
        if !Url.isWebScheme next.url.scheme then (⟨.failed (.unusable (some next.url)), taken⟩, j)
        else
          let (sent, j) := follow c purpose first w left (hop + 1) next j
          (⟨sent.delivery, taken⟩, j)

def mostRedirects : Nat := 10

def send (c : Client) (o : Order) (w : World) (j : Journal) : Sent × Journal :=
  match o.draft with
  | .error e => (⟨.failed e, []⟩, j)
  | .ok d => c.follow o.purpose d.url w mostRedirects 0 d j

/-- Sends a request without a body that passes by, and goes on with the reply. -/
def ask (c : Client) (o : Order) (failure : ClientError → Failure) : Act Response := do
  Act.conclude ((← Act.ofRun (c.send o)).response failure)

theorem ask_apply (c : Client) (o : Order) (failure : ClientError → Failure) (w : World) (j : Journal) :
    c.ask o failure w j = ((c.send o w j).1.response failure, (c.send o w j).2) := rfl

end Client

end ContentCache.Http
