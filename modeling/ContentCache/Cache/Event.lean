import ContentCache.Time.Stamp

/-!
# Narration

The steps of a call that a cache tells a listener about, with the words for each.
-/

namespace ContentCache

/-- A step of a call. -/
inductive CacheEvent where
  | listing (url : String)
  | loading (path : String) (createdAt : Time.Instant)
  /-- The newest copy is older than the threshold. -/
  | tooOld (path : String) (createdAt threshold : Time.Instant)
  | fetching (url : String)
  | uploading (path : String)
  | done (path : String) (fromCache : Bool)
  deriving DecidableEq

def CacheEvent.text : CacheEvent → String
  | listing url => "Looking up cached copies of " ++ url
  | loading path createdAt =>
    "Loading from cache: " ++ path ++ " (cached at " ++ createdAt.display ++ ")"
  | tooOld path createdAt threshold =>
    "Cached content " ++ path ++ " is too old (" ++ createdAt.display ++ " < " ++
      threshold.display ++ ")"
  | fetching url => "Fetching " ++ url
  | uploading path => "Caching as " ++ path
  | done path fromCache =>
    "Ready: " ++ path ++ " (from cache: " ++ (if fromCache then "true" else "false") ++ ")"

end ContentCache
