import ContentCache.Http.Header
import ContentCache.Url.Reading

/-!
# Targets of requests

Which URLs a client can send a request to, and what it takes from them: a user name and a password
become credentials and do not stay in the URL.

Main definitions: `Target.ofText`, `isAddress`, `sameOrigin`.
-/

namespace ContentCache.Http

/-- The characters that a host may have in a URL but not in a request. -/
def unsendableInHost : List Char := "\"`\x7b\x7d".toList

/-- The longest URL that can be sent, in bytes. -/
def longestAddress : Nat := 65534

/-- Whether a URL can stand in a request. -/
def isAddress (u : Url) : Bool :=
  !(u.hostText.getD "").toList.any unsendableInHost.contains &&
    (Bytes.ofText u.text).length ≤ longestAddress

def connectionPort (u : Url) : Option Nat := u.port.orElse fun _ => Url.usualPort u.scheme

def sameOrigin (a b : Url) : Bool := a.hostText = b.hostText && connectionPort a = connectionPort b

/-- The text of an escaped part, if its bytes are a text. -/
def plainText? (escaped : String) : Option String := (Url.unescape escaped.toList).text?

/-- The user name and the password of a URL, when it has any that are texts. -/
def userAndPassword? (u : Url) : Option (String × String) := do
  let authority ← u.authority
  let user ← plainText? authority.user
  let password := authority.password.bind plainText?
  if user.isEmpty && password.isNone then none else some (user, password.getD "")

/-- Where a request goes, and the credentials that were part of the URL. -/
structure Target where
  url : Url
  credentials : Option String
  deriving DecidableEq

/-- A target from a URL. -/
def Target.ofUrl (u : Url) : Target :=
  match userAndPassword? u with
  | some (user, password) => ⟨u.withoutUser, some (basicCredentials user password)⟩
  | none => ⟨u, none⟩

/-- A target keeps scheme, host, port, path and query of its URL. -/
theorem Target.ofUrl_url (u : Url) :
    (Target.ofUrl u).url.withoutUser = u.withoutUser := by
  unfold Target.ofUrl
  split
  · simp [Url.withoutUser, Function.comp_def]
  · rfl

end ContentCache.Http
