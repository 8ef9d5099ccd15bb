import ContentCache.Artifact.Document
import ContentCache.Failure
import ContentCache.Metadata.Method

/-!
# Documents of the metadata service

What the methods of the metadata service are told, and what they answer, as JSON documents. Labels
travel as a list of names with values; in an answer the last value of a repeated name counts.

* `CreateRequest`, `FinalizeRequest`, `ResolveRequest`, `ListRequest` with their `document`.
* `WriteLocation`, `ReadLocation` and artifacts, read from the documents of answers.
* `Refusal`: the document of an answer that is no success.

Main statement: `ofItems_items` (labels come back from their list unchanged).
-/

namespace ContentCache

/-- Labels as a list of names with values. -/
def Labels.itemsDocument (l : Labels) : Json :=
  .array (l.toList.map fun p => .ofMembers [("name", .ofText p.1), ("value", .ofText p.2)])

/-- A name with its value. -/
def Labels.itemOfDocument? (j : Json) : Option (String × String) := do
  match ← j.record? ["name", "value"] with
  | [some name, some value] => pure (← name.text?, ← value.text?)
  | _ => none

/-- Labels from a list of names with values; the last value of a repeated name counts. -/
def Labels.ofItemsDocument? (j : Json) : Option Labels := do
  pure (Labels.ofList (← (← j.items?).mapM Labels.itemOfDocument?))

/-- An item of the list is read as it was. -/
theorem Labels.itemOfDocument?_item (name value : String) :
    Labels.itemOfDocument? (.ofMembers [("name", .ofText name), ("value", .ofText value)]) =
      some (name, value) := by
  simp [itemOfDocument?, Json.ofMembers, Json.record?, Json.field?, Json.membersNamed, Json.text?,
    Json.ofText]

/-- The items of a list are read as they were. -/
theorem Labels.mapM_itemOfDocument? (given : List (String × String)) :
    (given.map fun p => Json.ofMembers [("name", .ofText p.1), ("value", .ofText p.2)]).mapM
      Labels.itemOfDocument? = some given := by
  simp [Json.mapM_eq_some_iff, Function.comp_def, Labels.itemOfDocument?_item]

/-- Labels come back from their list unchanged. -/
theorem Labels.ofItems_items (l : Labels) : Labels.ofItemsDocument? l.itemsDocument = some l := by
  simp only [ofItemsDocument?, itemsDocument, Json.items?, mapM_itemOfDocument?, ofList_toList,
    Option.bind_eq_bind, Option.bind_some, Option.pure_def]

namespace Metadata

/-! ## Requests -/

/-- Opens a place to write to. -/
structure CreateRequest where
  space : String
  path : String
  labels : Labels
  expiresAt : Option Time.Instant
  deriving DecidableEq

/-- The document of a request; without an expiry it is left out. -/
def CreateRequest.document (r : CreateRequest) : Json :=
  .ofMembers ([("namespace", .ofText r.space), ("path", .ofText r.path),
    ("labels", r.labels.itemsDocument)] ++
    (match r.expiresAt with
    | some t => [("expiresAt", .ofText t.rfc3339)]
    | none => []))

/-- Seals what has been written, with more labels. -/
structure FinalizeRequest where
  space : String
  path : String
  uploadId : String
  addLabels : Labels
  deriving DecidableEq

def FinalizeRequest.document (r : FinalizeRequest) : Json :=
  .ofMembers [("namespace", .ofText r.space), ("path", .ofText r.path),
    ("uploadId", .ofText r.uploadId), ("addLabels", r.addLabels.itemsDocument)]

/-- Opens a place to read from. -/
structure ResolveRequest where
  space : String
  path : String
  deriving DecidableEq

def ResolveRequest.document (r : ResolveRequest) : Json :=
  .ofMembers [("namespace", .ofText r.space), ("path", .ofText r.path)]

/-- Lists the artifacts of some namespaces whose labels satisfy a filter. -/
structure ListRequest where
  spaces : List String
  filter : LabelFilter
  deriving DecidableEq

/-- A condition of a filter, with its operator. -/
def conditionDocument (c : LabelCondition) : Json :=
  .ofMembers [("name", .ofText c.name), ("value", .ofText c.value), ("op", .ofText "EQUAL")]

def ListRequest.document (r : ListRequest) : Json :=
  .ofMembers [("namespaces", .array (r.spaces.map .ofText)),
    ("labelFilter", .array (r.filter.map conditionDocument))]

/-! ## Answers -/

/-- An artifact in an answer; its labels may be left out. -/
def artifactOfDocument? (j : Json) : Option Artifact := do
  match ← j.record? ["namespace", "path", "createdAt", "labels"] with
  | [some space, some path, some createdAt, labels] =>
    pure { space := ← space.text?, path := ← path.text?,
           createdAt := ← Time.Instant.ofDocument? createdAt,
           labels := ← Json.fieldOr .empty Labels.ofItemsDocument? labels }
  | _ => none

/-- Where content may be written, and the name under which it is sealed afterwards. -/
structure WriteLocation where
  url : String
  uploadId : String
  deriving DecidableEq

def WriteLocation.ofDocument? (j : Json) : Option WriteLocation := do
  match ← j.record? ["signedUploadUrl", "uploadId"] with
  | [some url, some uploadId] => pure ⟨← url.text?, ← uploadId.text?⟩
  | _ => none

/-- Where content may be read, and what is told of it. -/
structure ReadLocation where
  url : String
  artifact : Artifact
  deriving DecidableEq

def ReadLocation.ofDocument? (j : Json) : Option ReadLocation := do
  match ← j.record? ["signedDownloadUrl", "artifact"] with
  | [some url, some artifact] => pure ⟨← url.text?, ← artifactOfDocument? artifact⟩
  | _ => none

/-- The sealed artifact, from an answer. -/
def sealedOfDocument? (j : Json) : Option Artifact := do
  match ← j.record? ["artifact"] with
  | [some artifact] => artifactOfDocument? artifact
  | _ => none

/-- The listed artifacts, from an answer; they may be left out when there are none. -/
def listedOfDocument? (j : Json) : Option (List Artifact) := do
  match ← j.record? ["artifacts"] with
  | [artifacts] =>
    Json.fieldOr [] (fun j => do (← j.items?).mapM artifactOfDocument?) artifacts
  | _ => none

/-! ## Refusals -/

/-- What the service tells of an error: a code and words. -/
structure Refusal where
  code : String
  message : String
  deriving DecidableEq

/-- A refusal from a document; what is left out is empty. -/
def Refusal.ofDocument? (j : Json) : Option Refusal := do
  match ← j.record? ["code", "message"] with
  | [code, message] => pure ⟨← Json.fieldOr "" Json.text? code, ← Json.fieldOr "" Json.text? message⟩
  | _ => none

/-- The code that a status implies when an answer has no code of its own. -/
def codeForStatus (status : Nat) : String :=
  if status = 400 then "internal"
  else if status = 401 then "unauthenticated"
  else if status = 403 then "permission_denied"
  else if status = 404 then "unimplemented"
  else if status = 408 then "deadline_exceeded"
  else if status = 429 || (502 ≤ status && status ≤ 504) then "unavailable"
  else "unknown"

/-- The refusal that an answer without success amounts to: that of its document when it has a code,
else what its status implies. -/
def refusal (method : Method) (status : Nat) (text : String) : Failure :=
  match (Json.read? text).bind Refusal.ofDocument? with
  | some r =>
    if r.code.isEmpty then implied else
      .rejected r.code (method.name ++ ": " ++ r.message ++ " (status " ++ status.repr ++ ")")
  | none => implied
where
  /-- What the status implies. -/
  implied : Failure := .rejected (codeForStatus status) (method.name ++ ": status " ++ status.repr)

/-- A refusal is always a rejection by the service. -/
theorem refusal_eq_rejected (method : Method) (status : Nat) (text : String) :
    ∃ code message, refusal method status text = .rejected code message := by
  unfold refusal refusal.implied
  split
  · split <;> exact ⟨_, _, rfl⟩
  · exact ⟨_, _, rfl⟩

end Metadata

end ContentCache
