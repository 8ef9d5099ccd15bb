import ContentCache.Content.Stream
import ContentCache.Http.Status
import ContentCache.Time.Span
import ContentCache.Url

/-!
# Requests and replies

What a server gets, what it may do about it, and what a client reads of it.

* `Request`: a complete request, as a server sees it.
* `Answer`: a reply after some time, a connection closed without a reply, or silence for ever.
* `Reply.response`: what a client reads of a reply. Its framing decides how much of the body is read,
  whether reading fails, and whether the length is known beforehand.

Main statement: `whole_response_length` (a body framed by its own length is read in full).
-/

namespace ContentCache.Http

inductive Method where
  | get
  | put
  | post
  deriving DecidableEq, Repr

def Method.text : Method → String
  | get => "GET"
  | put => "PUT"
  | post => "POST"

/-- A complete request. -/
structure Request where
  method : Method
  /-- Where it goes, without user name, password and fragment. -/
  url : Url
  authorization : Option String := none
  contentType : Option String := none
  contentLength : Option Nat := none
  /-- A checksum of the body that the caller gave. -/
  contentMd5 : Option String := none
  body : Bytes := []
  deriving DecidableEq, Repr

/-- How a reader learns where a body ends. -/
inductive Framing where
  /-- By a length that is announced; without one it is that of the body. -/
  | length (announced : Option Nat)
  /-- By an empty chunk, which may be missing. -/
  | chunked (cut : Bool)
  /-- By the end of the connection. -/
  | untilClose
  deriving DecidableEq, Repr

structure Reply where
  status : Nat := 200
  /-- Where to go instead. -/
  location : Option String := none
  /-- The body, in the pieces in which it arrives. -/
  pieces : List Bytes := []
  framing : Framing := .length none
  deriving DecidableEq, Repr

/-- What a server does about a request. -/
inductive Answer where
  /-- It replies after some time. -/
  | reply (after : Time.Span) (r : Reply)
  | dropped
  | hangs
  deriving DecidableEq, Repr

/-- What a client reads of a reply. -/
structure Response where
  status : Nat
  location : Option String
  /-- The length of the body, when it is known beforehand. -/
  contentLength : Option Nat
  body : Stream
  deriving DecidableEq, Repr

/-! ## Reading a reply -/

/-- The error of a body that ends too early. -/
def decodingError : IoError := .saying "error decoding response body"

/-- The first bytes of a body in pieces. -/
def takeBytes : (n : Nat) → List Bytes → List Bytes
  | _, [] => []
  | n, p :: rest =>
    if n = 0 then [] else if n ≤ p.length then [p.take n] else p :: takeBytes (n - p.length) rest

/-- A status whose replies have no body. -/
def isBodiless (status : Nat) : Bool := status = 204 || status = 304

def Reply.body (r : Reply) : Bytes := r.pieces.flatten

/-- The length that a reply announces: its body's own one unless it says otherwise. -/
def Reply.announced (r : Reply) : Option Nat :=
  if isBodiless r.status then some 0
  else
    match r.framing with
    | .length announced => some (announced.getD r.body.length)
    | _ => none

/-- The items that a reader of a reply's body gets: never more than announced, and an error when the
body ends before its framing says so. -/
def Reply.items (r : Reply) : Stream :=
  if isBodiless r.status then []
  else
    match r.framing with
    | .length announced =>
      let n := announced.getD r.body.length
      (takeBytes n r.pieces).map .chunk ++ (if r.body.length < n then [.error decodingError] else [])
    | .chunked cut => r.pieces.map .chunk ++ (if cut then [.error decodingError] else [])
    | .untilClose => r.pieces.map .chunk

def Reply.response (r : Reply) : Response :=
  ⟨r.status, r.location, r.announced, r.items⟩

/-- The bytes before a number are the first so many of the whole. -/
theorem takeBytes_flatten (n : Nat) (pieces : List Bytes) :
    (takeBytes n pieces).flatten = pieces.flatten.take n := by
  fun_induction takeBytes n pieces with
  | case1 => simp
  | case2 => simp
  | case3 n p rest hn hle => simp [List.take_append_of_le_length hle]
  | case4 n p rest hn hle ih =>
    have h : p.length ≤ n := by omega
    simp [ih, List.take_append, List.take_of_length_le h]

/-- A body that is framed by its own length is read in full, without an error. -/
theorem whole_response_length {r : Reply} (hs : isBodiless r.status = false)
    (hf : r.framing = .length none) : r.response.body.bytes = r.body := by
  have hi : r.items = (takeBytes r.body.length r.pieces).map .chunk := by
    simp [Reply.items, hs, hf]
  show Stream.bytes r.items = r.body
  rw [hi, bytes_map_chunk, takeBytes_flatten]
  exact List.take_length

/-- A body as text, in the encoding that its byte order mark says. A body that cannot be read in full gives
no text. -/
def Response.text (r : Response) : String :=
  match r.body.firstError? with
  | some _ => ""
  | none => r.body.bytes.markedText

end ContentCache.Http
