import ContentCache.Artifact
import ContentCache.Json.Reader
import ContentCache.Json.Record
import ContentCache.Json.Writer
import ContentCache.Time.Reading
import ContentCache.Time.Stamp

/-!
# Artifacts and filter conditions as documents

The JSON form of an artifact has its fields in the order namespace, path, instant, labels, the
labels as an object in ascending order of names. The labels may be left out when it is read.
-/

namespace ContentCache

def Labels.document (l : Labels) : Json :=
  .ofMembers (l.toList.map fun p => (p.1, .ofText p.2))

/-- Labels from an object of texts; the last value of a repeated name counts. -/
def Labels.ofDocument? (j : Json) : Option Labels := j.texts?.map Labels.ofList

def Time.Instant.ofDocument? (j : Json) : Option Time.Instant := j.text?.bind Time.Instant.read?

def Artifact.document (a : Artifact) : Json :=
  .ofMembers [("namespace", .ofText a.space), ("path", .ofText a.path),
    ("created_at", .ofText a.createdAt.rfc3339), ("labels", a.labels.document)]

def Artifact.ofDocument? (j : Json) : Option Artifact := do
  match ← j.record? ["namespace", "path", "created_at", "labels"] with
  | [some space, some path, some createdAt, labels] =>
    pure { space := ← space.text?, path := ← path.text?,
           createdAt := ← Time.Instant.ofDocument? createdAt,
           labels := ← Json.fieldOr .empty Labels.ofDocument? labels }
  | _ => none

def Artifact.read? (s : String) : Option Artifact := do Artifact.ofDocument? (← Json.read? s)

def LabelCondition.document (c : LabelCondition) : Json :=
  .ofMembers [("name", .ofText c.name), ("value", .ofText c.value)]

def LabelCondition.ofDocument? (j : Json) : Option LabelCondition := do
  match ← j.record? ["name", "value"] with
  | [some name, some value] => pure ⟨← name.text?, ← value.text?⟩
  | _ => none

def LabelCondition.read? (s : String) : Option LabelCondition := do
  LabelCondition.ofDocument? (← Json.read? s)

end ContentCache
