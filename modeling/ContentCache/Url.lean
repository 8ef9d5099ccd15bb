import ContentCache.Url.Address
import ContentCache.Url.Escape

/-!
# URLs

An absolute URL in its parts, all of them in normal form: a scheme in small letters, an authority
when there is one, a path, and a query and a fragment when they are given. A path is a list of
segments, or, for schemes that know no hierarchy, a text.

Main definitions: `Url.text`, `Url.pathText`, `Url.hostText`, `Url.withoutUser`.
-/

namespace ContentCache

namespace Url

inductive Host where
  | name (text : String)
  /-- An address of four bytes. -/
  | four (address : Nat)
  /-- An address of eight pieces. -/
  | eight (pieces : List Nat)
  deriving DecidableEq, Repr

def Host.text : Host → String
  | name t => t
  | four a => fourText a
  | eight ps => "[" ++ eightText ps ++ "]"

/-- Who is asked, and where. User name and password are escaped. -/
structure Authority where
  user : String := ""
  password : Option String := none
  host : Option Host := none
  /-- A port other than the usual one of the scheme. -/
  port : Option Nat := none
  deriving DecidableEq, Repr

inductive Path where
  /-- A text without hierarchy. -/
  | flat (text : String)
  /-- Segments, each with a slash before it. -/
  | segments (names : List String)
  deriving DecidableEq, Repr

def Path.text : Path → String
  | flat t => t
  | segments names => String.join (names.map fun s => "/" ++ s)

end Url

/-- An absolute URL. -/
structure Url where
  scheme : String
  authority : Option Url.Authority := none
  path : Url.Path
  query : Option String := none
  fragment : Option String := none
  deriving DecidableEq, Repr

namespace Url

def host (u : Url) : Option Host := u.authority.bind Authority.host

def hostText (u : Url) : Option String := u.host.map Host.text

/-- The port, when it is not the usual one. -/
def port (u : Url) : Option Nat := u.authority.bind Authority.port

def pathText (u : Url) : String := u.path.text

def usualPort (scheme : String) : Option Nat :=
  if scheme = "http" || scheme = "ws" then some 80
  else if scheme = "https" || scheme = "wss" then some 443
  else if scheme = "ftp" then some 21
  else none

def isWebScheme (scheme : String) : Bool := scheme = "http" || scheme = "https"

/-- The text of user name and password with the sign that follows them. -/
def Authority.userText (a : Authority) : String :=
  match a.password with
  | some p => a.user ++ ":" ++ p ++ "@"
  | none => if a.user.isEmpty then "" else a.user ++ "@"

def Authority.text (a : Authority) : String :=
  a.userText ++ (a.host.map Host.text).getD "" ++
  (match a.port with | some p => ":" ++ p.repr | none => "")

/-- An optional part with the sign before it. -/
def part (sign : String) : Option String → String
  | none => ""
  | some t => sign ++ t

/-- The text before the path: without an authority, a path that begins with two slashes is kept
apart from one by a point. -/
def beforePath (u : Url) : String :=
  match u.authority with
  | some a => u.scheme ++ "://" ++ a.text
  | none =>
    match u.path with
    | .segments ("" :: _ :: _) => u.scheme ++ ":/."
    | _ => u.scheme ++ ":"

def text (u : Url) : String :=
  u.beforePath ++ u.pathText ++ part "?" u.query ++ part "#" u.fragment

def withoutFragment (u : Url) : Url := { u with fragment := none }

def withoutUser (u : Url) : Url :=
  { u with authority := u.authority.map fun a => { a with user := "", password := none } }

end Url

end ContentCache
