import ContentCache.Text.Quoted
import ContentCache.Time.Stamp

/-!
# Options of a call

What a caller may ask of one call of the cache, and a text that shows it.
-/

namespace ContentCache

/-- The options of one call of the cache. -/
structure CacheOptions where
  /-- Copies created before this instant are too old. -/
  freshAfter : Option Time.Instant := none
  /-- The digest that the content has to have, in any spelling. -/
  expectedDigest : Option String := none
  /-- The life of a new copy, in place of the configured one. -/
  expiresIn : Option Time.Span := none
  timeout : Option Time.Span := none
  /-- Whether a listener is told about the steps. -/
  narrated : Bool := false
  deriving DecidableEq

namespace CacheOptions

/-- An optional value with its name for the absent one. -/
def optionText (text : Option String) : String :=
  match text with
  | none => "None"
  | some t => "Some(" ++ t ++ ")"

/-- The options with the name of each, for people to read. -/
def text (o : CacheOptions) : String :=
  "CacheUrlOptions \x7b fresh_after: " ++ optionText (o.freshAfter.map Time.Instant.rfc3339) ++
  ", expected_digest: " ++ optionText (o.expectedDigest.map Text.quoted) ++
  ", expires_in: " ++ optionText (o.expiresIn.map Time.Span.text) ++
  ", timeout: " ++ optionText (o.timeout.map Time.Span.text) ++
  ", on_event: " ++ optionText (if o.narrated then some (Text.quoted "<callback>") else none) ++
  " \x7d"

end CacheOptions

end ContentCache
