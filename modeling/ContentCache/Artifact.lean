import ContentCache.Label
import ContentCache.Time.Instant

/-!
# Artifacts

An artifact is a stored content under a namespace and a path, with the instant at which it was
created and its labels. Among several artifacts the newest serves, the last one of equally new
ones; it is fresh unless it was created before a threshold.

Main statements: `newest?_isSome_iff` (there is a newest artifact exactly when there is one) and
`newest?_mem`.
-/

namespace ContentCache

/-- The label with the lower-case hexadecimal digest of an artifact's content. -/
def digestLabel : String := "stowage.dev/digest"

/-- The label with the source of a cached copy. -/
def sourceLabel : String := "stowage.dev/source-url"

/-- The namespace of the cached copies. -/
def cacheNamespace : String := "stowage-url-cache"

/-- A stored content that does not change. -/
structure Artifact where
  space : String
  path : String
  createdAt : Time.Instant
  labels : Labels
  deriving DecidableEq

def Artifact.digest (a : Artifact) : Option String := a.labels.get? digestLabel

/-- What is told of a stored or resolved artifact. -/
structure ArtifactInfo where
  createdAt : Time.Instant
  digest : Option String
  deriving DecidableEq

/-- The newer of the best so far and the next artifact; of equally new ones the next. -/
def newer (best : Option Artifact) (next : Artifact) : Option Artifact :=
  match best with
  | none => some next
  | some b => if next.createdAt.isBefore b.createdAt then some b else some next

/-- The newest of a list of artifacts, the last one of equally new ones. -/
def newest? (artifacts : List Artifact) : Option Artifact := artifacts.foldl newer none

/-- An artifact is fresh unless it was created before the threshold. -/
def isFresh (createdAt : Time.Instant) (threshold : Option Time.Instant) : Bool :=
  match threshold with
  | none => true
  | some t => !createdAt.isBefore t

/-! ## The newest artifact -/

theorem foldl_newer_isSome (best : Option Artifact) (artifacts : List Artifact) :
    (artifacts.foldl newer best).isSome = (best.isSome || !artifacts.isEmpty) := by
  induction artifacts generalizing best with
  | nil => simp
  | cons a rest ih =>
    rw [List.foldl_cons, ih]
    cases best with
    | none => simp [newer]
    | some b => simp only [newer]; split <;> simp

theorem newest?_isSome_iff (artifacts : List Artifact) :
    (newest? artifacts).isSome = !artifacts.isEmpty := by
  simp [newest?, foldl_newer_isSome]

theorem foldl_newer_mem (best : Option Artifact) (artifacts : List Artifact) (a : Artifact)
    (h : artifacts.foldl newer best = some a) : best = some a ∨ a ∈ artifacts := by
  induction artifacts generalizing best with
  | nil => exact .inl h
  | cons x rest ih =>
    rcases ih _ h with hx | hx
    · cases best with
      | none => simp only [newer, Option.some.injEq] at hx; exact .inr (by simp [hx])
      | some b =>
        simp only [newer] at hx
        split at hx
        · exact .inl hx
        · simp only [Option.some.injEq] at hx; exact .inr (by simp [hx])
    · exact .inr (List.mem_cons_of_mem _ hx)

theorem newest?_mem {artifacts : List Artifact} {a : Artifact} (h : newest? artifacts = some a) :
    a ∈ artifacts := by
  rcases foldl_newer_mem none artifacts a h with h | h
  · simp at h
  · exact h

end ContentCache
