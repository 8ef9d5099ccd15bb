import ContentCache.Http.Message
import ContentCache.Json.Token

/-!
# Messages on the wire

A request as it is written to a connection that is closed afterwards, and the reply that is read from
everything that comes back.

* `Request.wire`: a request line, header lines, an empty line and the body.
* `Reply.ofWire?`: a reply from all bytes up to the end of the connection.
-/

namespace ContentCache.Http

/-! ## Requests -/

def headerLine (name value : String) : String := name ++ ": " ++ value ++ "\r\n"

/-- The line of a header that may be missing. -/
def optionalLine (name : String) : Option String → String
  | none => ""
  | some value => headerLine name value

/-- What is asked of a host: the path with the query. -/
def requestTarget (u : Url) : String :=
  (if u.pathText.isEmpty then "/" else u.pathText) ++ Url.part "?" u.query

/-- The host that is asked, with its port when that is not the usual one. -/
def hostValue (u : Url) : String :=
  u.hostText.getD "" ++ Url.part ":" (u.port.map Nat.repr)

/-- A request as it is written. -/
def Request.wire (r : Request) : Bytes :=
  Bytes.ofText (r.method.text ++ " " ++ requestTarget r.url ++ " HTTP/1.1\r\n" ++
    headerLine "host" (hostValue r.url) ++ headerLine "accept" "*/*" ++
    optionalLine "authorization" r.authorization ++ optionalLine "content-type" r.contentType ++
    optionalLine "content-length" (r.contentLength.map Nat.repr) ++
    optionalLine "content-md5" r.contentMd5 ++ headerLine "connection" "close" ++ "\r\n") ++ r.body

/-! ## Replies -/

/-- The bytes before the first end of a line, and those after it. -/
def splitLine : Bytes → Option (Bytes × Bytes)
  | 13 :: 10 :: rest => some ([], rest)
  | b :: rest => (splitLine rest).map fun p => (b :: p.1, p.2)
  | [] => none

/-- The bytes before the first empty line, and those after it. -/
def splitHead : Bytes → Option (Bytes × Bytes)
  | 13 :: 10 :: 13 :: 10 :: rest => some ([], rest)
  | b :: rest => (splitHead rest).map fun p => (b :: p.1, p.2)
  | [] => none

/-- A header from its line, the name in small letters. -/
def readHeader (line : String) : String × String :=
  let cs := line.toList
  let name := cs.takeWhile (· ≠ ':')
  let value := (cs.drop (name.length + 1)).dropWhile (· = ' ')
  (String.ofList (name.map Char.toLower), String.ofList (value.reverse.dropWhile (· = ' ')).reverse)

def hexNumber? (cs : List Char) : Option Nat :=
  if cs.isEmpty then none else cs.foldlM (fun n c => (Json.hexValue? c).map (n * 16 + ·)) 0

/-- The size that a line before a chunk tells. -/
def chunkSize? (line : Bytes) : Option Nat :=
  hexNumber? (line.lossyText.toList.takeWhile fun c => c ≠ ';' && c ≠ ' ')

/-- The chunks of a body, and whether the empty chunk at the end is missing. Every chunk takes at least
one byte, so the length of the body bounds the number of steps. -/
def readChunks : (steps : Nat) → Bytes → List Bytes × Bool
  | 0, _ => ([], true)
  | steps + 1, bs =>
    match splitLine bs with
    | none => ([], true)
    | some (line, rest) =>
      match chunkSize? line with
      | none => ([], true)
      | some 0 => ([], false)
      | some n =>
        if rest.length < n then ([rest], true)
        else
          let (pieces, cut) := readChunks steps (rest.drop (n + 2))
          (rest.take n :: pieces, cut)

/-- The status that the first line of a reply tells. -/
def readStatus (line : String) : Option Nat := do (← (line.splitOn " ")[1]?).toNat?

/-- A reply from everything that has come back. -/
def Reply.ofWire? (bs : Bytes) : Option Reply := do
  let (head, body) ← splitHead bs
  match head.lossyText.splitOn "\r\n" with
  | [] => none
  | first :: lines =>
    let status ← readStatus first
    let headers := lines.map readHeader
    let location := headers.lookup "location"
    if headers.lookup "transfer-encoding" = some "chunked" then
      let (pieces, cut) := readChunks body.length body
      pure { status, location, pieces, framing := .chunked cut }
    else
      match (headers.lookup "content-length").bind String.toNat? with
      | some n => pure { status, location, pieces := [body], framing := .length (some n) }
      | none => pure { status, location, pieces := [body], framing := .untilClose }

end ContentCache.Http
