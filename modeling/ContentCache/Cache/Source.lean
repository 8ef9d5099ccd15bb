import ContentCache.Failure
import ContentCache.Url.Reading

/-!
# Sources of a cache

What a cache can be asked for: an absolute URL of the web with a host.

Main statement: `readSource_scheme` (a source that is accepted has a scheme of the web).
-/

namespace ContentCache

def readSource (source : String) : Except Failure Url :=
  match Url.read source with
  | .error e => .error (.invalidUrl (source ++ ": " ++ e.message))
  | .ok url =>
    if !Url.isWebScheme url.scheme then
      .error (.invalidUrl (source ++ ": unsupported scheme " ++ url.scheme))
    else if (url.hostText.getD "").isEmpty then .error (.invalidUrl (source ++ ": missing host"))
    else .ok url

/-- A source that is accepted has a scheme of the web and a host. -/
theorem readSource_scheme {source : String} {url : Url} (h : readSource source = .ok url) :
    Url.isWebScheme url.scheme = true ∧ (url.hostText.getD "").isEmpty = false := by
  unfold readSource at h
  split at h
  · simp at h
  · split at h
    · simp at h
    · split at h
      · simp at h
      · simp only [Except.ok.injEq] at h
        subst h
        simp_all

end ContentCache
