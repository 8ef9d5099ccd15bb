import ContentCache.Proofs.Collecting
import ContentCache.Proofs.Json.Restoring
import ContentCache.Proofs.Labelling

/-!
# Labels in requests and answers

The request that opens a place for content holds the labels of the content once each, in the order of their
names. An answer may repeat a name in its labels; an artifact that is told of there has the last value of
each name. This decides which digest an artifact has.

* `UploadOptions.labelAll`: options with labels that are given one after the other.
* `CreateRequest.labelsIn?`: the labels in the body of a request.
* `Tells`, `Describes`: a document that tells of an artifact, and the artifact that it describes.
* `Client.Learns`: the artifacts that a call learns of.

Main statement: `labels_carried`, with `labelsIn?_document` (the labels of a request are read back) and
`artifactOfDocument?_eq_some_iff` (an artifact is read from the documents that describe it).
-/

namespace ContentCache

/-- The options with labels that are given one after the other. -/
def UploadOptions.labelAll (o : UploadOptions) (given : List (String × String)) : UploadOptions :=
  given.foldl (fun o p => o.label p.1 p.2) o

/-- Nothing but the labels changes, and those that there were count as given before. -/
theorem UploadOptions.labelAll_eq (o : UploadOptions) (given : List (String × String)) :
    o.labelAll given = { o with labels := Labels.ofList (o.labels.toList ++ given) } := by
  rw [Labels.ofList_toList_append, labelAll]
  induction given generalizing o with
  | nil => rfl
  | cons p given ih => exact ih (o.label p.1 p.2)

namespace Metadata

/-! ## Labels in a request -/

theorem textual_itemsDocument (l : Labels) : l.itemsDocument.Textual := by
  refine .array fun item hitem => ?_
  obtain ⟨p, -, rfl⟩ := List.mem_map.1 hitem
  refine Json.textual_ofMembers fun m hm => ?_
  simp only [List.mem_cons, List.not_mem_nil, or_false] at hm
  rcases hm with rfl | rfl <;> exact .string _

theorem CreateRequest.textual_document (r : CreateRequest) : r.document.Textual := by
  refine Json.textual_ofMembers fun m hm => ?_
  rcases List.mem_append.1 hm with hm | hm
  · simp only [List.mem_cons, List.not_mem_nil, or_false] at hm
    rcases hm with rfl | rfl | rfl
    · exact .string _
    · exact .string _
    · exact textual_itemsDocument r.labels
  · split at hm
    · obtain rfl := List.mem_singleton.1 hm
      exact .string _
    · cases hm

/-- The labels in the body of a request that opens a place, one after the other as they stand there. -/
def CreateRequest.labelsIn? (body : Bytes) : Option (List (String × String)) := do
  let document ← body.text?.bind Json.read?
  match ← document.record? ["labels"] with
  | [some labels] => (← labels.items?).mapM Labels.itemOfDocument?
  | _ => none

/-- **The labels of a request are read back from its body.** -/
theorem CreateRequest.labelsIn?_document (r : CreateRequest) :
    labelsIn? (Bytes.ofText r.document.write) = some r.labels.toList := by
  have hread : (Bytes.text? (Bytes.ofText r.document.write)).bind Json.read? = some r.document := by
    rw [Bytes.text?_ofText, Option.bind_some, r.textual_document.read?_write]
  have hrecord : r.document.record? ["labels"] = some [some r.labels.itemsDocument] := by
    unfold document
    cases r.expiresAt <;>
      simp [Json.ofMembers, Json.record?, Json.field?, Json.membersNamed]
  simp only [labelsIn?, hread, hrecord, Option.bind_eq_bind, Option.bind_some, Labels.itemsDocument,
    Json.items?, Labels.mapM_itemOfDocument?]

/-! ## Labels in an answer -/

/-- Labels in an answer, one after the other as they are given: those of an array, or none. -/
inductive LabelsGiven : Option Json → List (String × String) → Prop where
  | absent : LabelsGiven none []
  | items {items : List Json} {given : List (String × String)}
      (read : items.map Labels.itemOfDocument? = given.map some) :
      LabelsGiven (some (.array items)) given

theorem labelsGiven_iff {labels : Option Json} {l : Labels} :
    Json.fieldOr .empty Labels.ofItemsDocument? labels = some l ↔
      ∃ given, LabelsGiven labels given ∧ Collects l.toList given := by
  simp only [Labels.collects_iff]
  constructor
  · intro h
    cases labels with
    | none =>
      obtain rfl := Option.some.inj h
      exact ⟨[], .absent, rfl⟩
    | some j =>
      simp only [Json.fieldOr, Labels.ofItemsDocument?, Option.bind_eq_bind, Option.pure_def,
        Option.bind_eq_some_iff] at h
      obtain ⟨items, hitems, given, hread, hl⟩ := h
      cases j with
      | array items' =>
        obtain rfl : items' = items := Option.some.inj hitems
        exact ⟨given, .items (Json.mapM_eq_some_iff.1 hread), (Option.some.inj hl).symm⟩
      | _ => cases hitems
  · rintro ⟨given, h, rfl⟩
    cases h with
    | absent => rfl
    | items read =>
      simp [Json.fieldOr, Labels.ofItemsDocument?, Json.items?, Json.mapM_eq_some_iff.2 read]

/-- A document tells of an artifact: its place, its instant, and its labels one after the other. -/
def Tells (j : Json) (given : List (String × String)) (space path : String)
    (createdAt : Time.Instant) : Prop :=
  ∃ s p t labels, j.record? ["namespace", "path", "createdAt", "labels"] =
      some [some s, some p, some t, labels] ∧
    s.text? = some space ∧ p.text? = some path ∧ Time.Instant.ofDocument? t = some createdAt ∧
    LabelsGiven labels given

/-- An artifact that has the last value of each name in a document that tells of it, also of the name of its
digest. -/
structure Describes (j : Json) (given : List (String × String)) (a : Artifact) : Prop where
  told : Tells j given a.space a.path a.createdAt
  labels : Collects a.labels.toList given
  digest : ∀ value, a.digest = some value ↔ GivenLast given digestLabel value
  undigested : a.digest = none ↔ digestLabel ∉ given.map Prod.fst

/-- The digest is one of the labels. -/
theorem describes_of_collects {j : Json} {given : List (String × String)} {a : Artifact}
    (told : Tells j given a.space a.path a.createdAt) (h : Collects a.labels.toList given) :
    Describes j given a := by
  have hdigest (value : String) : a.digest = some value ↔ GivenLast given digestLabel value :=
    Labels.mem_toList_iff.symm.trans (h.last digestLabel value)
  refine ⟨told, h, hdigest, ?_⟩
  rw [← exists_givenLast_iff, Option.eq_none_iff_forall_ne_some]
  simp only [← hdigest, not_exists, ne_eq]

/-- **An artifact is read from the documents that describe it.** -/
theorem artifactOfDocument?_eq_some_iff {j : Json} {a : Artifact} :
    artifactOfDocument? j = some a ↔ ∃ given, Describes j given a := by
  constructor
  · intro h
    unfold artifactOfDocument? at h
    simp only [Option.bind_eq_bind, Option.bind_eq_some_iff] at h
    obtain ⟨fields, hfields, h⟩ := h
    split at h
    · next s p t labels =>
      simp only [Option.bind_eq_some_iff, Option.pure_def, Option.some.injEq] at h
      obtain ⟨space, hspace, path, hpath, createdAt, hcreated, l, hl, rfl⟩ := h
      obtain ⟨given, hgiven, hcollects⟩ := labelsGiven_iff.1 hl
      exact ⟨given, describes_of_collects
        ⟨s, p, t, labels, hfields, hspace, hpath, hcreated, hgiven⟩ hcollects⟩
    · cases h
  · rintro ⟨given, ⟨s, p, t, labels, hfields, hspace, hpath, hcreated, hgiven⟩, hcollects, -, -⟩
    simp [artifactOfDocument?, hfields, hspace, hpath, hcreated,
      labelsGiven_iff.2 ⟨given, hgiven, hcollects⟩]

/-- **What a document tells of an artifact is read**, whatever labels it gives. -/
theorem Tells.isRead {j : Json} {given : List (String × String)} {space path : String}
    {createdAt : Time.Instant} (h : Tells j given space path createdAt) :
    ∃ a, artifactOfDocument? j = some a ∧ Describes j given a := by
  have describes : Describes j given ⟨space, path, createdAt, Labels.ofList given⟩ :=
    describes_of_collects h (Labels.collects_ofList given)
  exact ⟨_, artifactOfDocument?_eq_some_iff.2 ⟨given, describes⟩, describes⟩

/-- The artifacts in what a method answers. -/
def Method.artifacts : (method : Method) → method.Result → List Artifact
  | .createArtifact, _ => []
  | .finalizeArtifact, sealed => [sealed]
  | .resolveArtifact, location => [location.artifact]
  | .listArtifacts, listed => listed

/-- The documents of artifacts in the document of an answer. -/
def Method.artifactDocuments? : Method → Json → Option (List Json)
  | .createArtifact, _ => some []
  | .finalizeArtifact, j => do
    match ← j.record? ["artifact"] with
    | [some artifact] => pure [artifact]
    | _ => none
  | .resolveArtifact, j => do
    match ← j.record? ["signedDownloadUrl", "artifact"] with
    | [_, some artifact] => pure [artifact]
    | _ => none
  | .listArtifacts, j => do
    match ← j.record? ["artifacts"] with
    | [artifacts] => Json.fieldOr [] Json.items? artifacts
    | _ => none

/-- The artifacts are read from the documents in an answer, one from each. -/
def Method.Reads (method : Method) (j : Json) (artifacts : List Artifact) : Prop :=
  ∃ documents, method.artifactDocuments? j = some documents ∧
    documents.map artifactOfDocument? = artifacts.map some

theorem sealedOfDocument?_reads {j : Json} {a : Artifact} (h : sealedOfDocument? j = some a) :
    Method.finalizeArtifact.Reads j [a] := by
  simp only [sealedOfDocument?, Option.bind_eq_bind, Option.bind_eq_some_iff] at h
  obtain ⟨fields, hfields, h⟩ := h
  split at h
  · next artifact => exact ⟨[artifact], by simp [Method.artifactDocuments?, hfields], by simp [h]⟩
  · cases h

theorem readLocation_reads {j : Json} {location : ReadLocation}
    (h : ReadLocation.ofDocument? j = some location) :
    Method.resolveArtifact.Reads j [location.artifact] := by
  simp only [ReadLocation.ofDocument?, Option.bind_eq_bind, Option.bind_eq_some_iff] at h
  obtain ⟨fields, hfields, h⟩ := h
  split at h
  · next url artifact =>
    simp only [Option.bind_eq_some_iff, Option.pure_def, Option.some.injEq] at h
    obtain ⟨u, -, a, ha, rfl⟩ := h
    exact ⟨[artifact], by simp [Method.artifactDocuments?, hfields], by simp [ha]⟩
  · cases h

theorem listedOfDocument?_reads {j : Json} {listed : List Artifact}
    (h : listedOfDocument? j = some listed) : Method.listArtifacts.Reads j listed := by
  simp only [listedOfDocument?, Option.bind_eq_bind, Option.bind_eq_some_iff] at h
  obtain ⟨fields, hfields, h⟩ := h
  split at h
  · next field =>
    cases field with
    | none =>
      obtain rfl := Option.some.inj h
      exact ⟨[], by simp [Method.artifactDocuments?, hfields, Json.fieldOr], rfl⟩
    | some array =>
      simp only [Json.fieldOr, Option.bind_eq_some_iff] at h
      obtain ⟨items, hitems, hread⟩ := h
      exact ⟨items, by simp [Method.artifactDocuments?, hfields, Json.fieldOr, hitems],
        Json.mapM_eq_some_iff.1 hread⟩
  · cases h

theorem Method.reads_of_decode {method : Method} {j : Json} {r : method.Result}
    (h : method.decode j = some r) : method.Reads j (method.artifacts r) := by
  cases method with
  | createArtifact => exact ⟨[], rfl, rfl⟩
  | finalizeArtifact => exact sealedOfDocument?_reads h
  | resolveArtifact => exact readLocation_reads h
  | listArtifacts => exact listedOfDocument?_reads h

namespace Client

/-- What a call learns of artifacts: each is described by the document that its last answer has for it. -/
def Learns (method : Method) (es : List Exchange) (a : method.Result) : Prop :=
  ∃ front e after reply document documents, es = front ++ [e] ∧ e.answer = .reply after reply ∧
    document? (Http.Reply.response reply) = some document ∧
    method.artifactDocuments? document = some documents ∧
    List.Forall₂ (fun d artifact => ∃ given, Describes d given artifact) documents (method.artifacts a)

theorem Answers.learns {method : Method} {es : List Exchange} {a : method.Result}
    (h : Answers method method.decode es a) : Learns method es a := by
  obtain ⟨front, e, after, reply, rfl, he, haccept⟩ := h
  obtain ⟨-, hdecode⟩ := accept_eq_ok haccept
  obtain ⟨document, hdocument, hr⟩ := Option.bind_eq_some_iff.1 hdecode
  obtain ⟨documents, hdocuments, hread⟩ := Method.reads_of_decode hr
  refine ⟨front, e, after, reply, document, documents, rfl, he, hdocument, hdocuments, ?_⟩
  rw [← List.forall₂_eq_eq_eq, List.forall₂_map_left_iff, List.forall₂_map_right_iff] at hread
  exact hread.imp fun d artifact h => artifactOfDocument?_eq_some_iff.1 h

end Client

end Metadata

/-! ## Labels of stored content -/

/-- **Labels are carried both ways.** Every request that opens a place holds what counts of the labels that
were given one after the other, behind those that there were; a set of labels comes back from its list; a
document that tells of an artifact is read, whatever labels it gives; and the artifacts that a call learns of
have what counts of the labels in their documents, so that their digest is the last one there. -/
theorem labels_carried :
    (∀ (s : Store) (w : World) (j : Journal) (space path : String) (content : Source)
        (o : UploadOptions) (given : List (String × String)), ∃ sent,
      (s.upload space path content (o.labelAll given) w j).2.exchanges = j.exchanges ++ sent ∧
      ∀ e ∈ sent, e.purpose = .call .createArtifact → e.request.method = .post →
        ∃ kept, Metadata.CreateRequest.labelsIn? e.request.body = some kept ∧
          Collects kept (o.labels.toList ++ given)) ∧
    (∀ l : Labels, Labels.ofItemsDocument? l.itemsDocument = some l) ∧
    (∀ document artifact, Metadata.artifactOfDocument? document = some artifact ↔
      ∃ given, Metadata.Describes document given artifact) ∧
    (∀ document given space path createdAt, Metadata.Tells document given space path createdAt →
      ∃ artifact, Metadata.artifactOfDocument? document = some artifact ∧
        Metadata.Describes document given artifact) ∧
    ∀ (c : Metadata.Client) (w : World) (j k : Journal) (method : Metadata.Method) (request : Json) a,
      c.call method request method.decode w j = (.ok a, k) →
        ∃ es, k.exchanges = j.exchanges ++ es ∧ Metadata.Client.Learns method es a := by
  refine ⟨?_, Labels.ofItems_items, fun _ _ => Metadata.artifactOfDocument?_eq_some_iff,
    fun _ _ _ _ _ told => told.isRead, ?_⟩
  · intro s w j space path content o given
    obtain ⟨n, hg, -, consumed, -, storing⟩ := s.upload_quietly w space path content (o.labelAll given) j
    refine ⟨n.exchanges, hg.exchanges, fun e he hpurpose hpost => ?_⟩
    obtain ⟨opened, rest, r, hes, opening, hrest⟩ := storing.opened
    rw [hes] at he
    rcases List.mem_append.1 he with he | he
    · refine ⟨(o.labelAll given).labels.toList, ?_, ?_⟩
      · rw [opening.carries e he hpost, Metadata.CreateRequest.labelsIn?_document]
      · rw [o.labelAll_eq given]
        exact Labels.collects_ofList _
    · exact absurd hpurpose (hrest e he)
  · intro c w j k method request a hcall
    obtain ⟨n, hg, -, calling⟩ := c.call_quietly w method request method.decode j
    rw [hcall] at hg calling
    exact ⟨n.exchanges, hg.exchanges, calling.answers.learns⟩

/-- Labels of two names, and one of these a second time. -/
def labelsWithRepeat : List (String × String) := [("b", "1"), ("a", "2"), ("b", "3")]

/-- Two digests, and a label between them. -/
def digestsWithRepeat : List (String × String) :=
  [("stowage.dev/digest", "old"), ("a", "1"), ("stowage.dev/digest", "new")]

/-- An artifact whose digest is told twice. -/
def twiceDigested : Json :=
  .ofMembers [("namespace", .ofText "n"), ("path", .ofText "p"),
    ("createdAt", .ofText "2024-01-01T00:00:00Z"),
    ("labels", .array (digestsWithRepeat.map fun p =>
      .ofMembers [("name", .ofText p.1), ("value", .ofText p.2)]))]

/-- What has been sent is sealed, and the artifact is told. -/
def twiceDigestedWorld : World where
  server := .ofAnswers [Cache.said (Json.ofMembers [("artifact", twiceDigested)]).write]

/-- A label that is given twice is sent once, and of a digest that is told twice the second one counts. -/
theorem labels_carried_repeated :
    (∃ e ∈ (Cache.usual.store.upload "n" "p" (.ofBytes [104]) (.labelAll {} labelsWithRepeat)
        acceptingWorld {}).2.exchanges,
      e.purpose = .call .createArtifact ∧ e.request.method = .post ∧
        Metadata.CreateRequest.labelsIn? e.request.body = some [("a", "2"), ("b", "3")] ∧
        Collects [("a", "2"), ("b", "3")] labelsWithRepeat) ∧
    (Metadata.Tells twiceDigested digestsWithRepeat "n" "p" Cache.newYear ∧
      ∃ artifact, Metadata.artifactOfDocument? twiceDigested = some artifact ∧
        Metadata.Describes twiceDigested digestsWithRepeat artifact) ∧
    ∃ (a : Artifact) (k : Journal), a.digest = some "new" ∧
      Cache.usual.store.metadata.call .finalizeArtifact (.ofText "")
        (Metadata.Method.decode .finalizeArtifact) twiceDigestedWorld {} = (.ok a, k) ∧
      ∃ es, k.exchanges = [] ++ es ∧ Metadata.Client.Learns .finalizeArtifact es a := by
  refine ⟨?_, ?_, ?_⟩
  · obtain ⟨sent, hsent, hlabels⟩ := labels_carried.1 Cache.usual.store acceptingWorld {} "n" "p"
      (.ofBytes [104]) {} labelsWithRepeat
    have hfirst : ((Cache.usual.store.upload "n" "p" (.ofBytes [104]) (.labelAll {} labelsWithRepeat)
        acceptingWorld {}).2.exchanges.head?.map fun e =>
          (e.purpose, e.request.method, Metadata.CreateRequest.labelsIn? e.request.body)) =
        some (.call .createArtifact, .post, some [("a", "2"), ("b", "3")]) := by decide +kernel
    obtain ⟨e, he, hfields⟩ := Option.map_eq_some_iff.1 hfirst
    obtain ⟨hpurpose, hmethod, hread⟩ : _ ∧ _ ∧ _ := by simpa only [Prod.mk.injEq] using hfields
    have hmem := List.mem_of_head? he
    obtain ⟨kept, hkept, collects⟩ := hlabels e (by rwa [hsent] at hmem) hpurpose hmethod
    obtain rfl := Option.some.inj (hread.symm.trans hkept)
    exact ⟨e, hmem, hpurpose, hmethod, hread, collects⟩
  · have hcreated : Time.Instant.ofDocument? (.ofText "2024-01-01T00:00:00Z") = some Cache.newYear := by
      decide +kernel
    have told : Metadata.Tells twiceDigested digestsWithRepeat "n" "p" Cache.newYear :=
      ⟨_, _, _, _, rfl, rfl, rfl, hcreated, .items rfl⟩
    exact ⟨told, labels_carried.2.2.2.1 _ _ _ _ _ told⟩
  · have hdigest : ((Cache.usual.store.metadata.call .finalizeArtifact (.ofText "")
        (Metadata.Method.decode .finalizeArtifact) twiceDigestedWorld {}).1.toOption.map
          Artifact.digest) = some (some "new") := by decide +kernel
    obtain ⟨a, ha, hnew⟩ := Option.map_eq_some_iff.1 hdigest
    have hcall := eq_of_toOption ha
    exact ⟨a, _, hnew, hcall, labels_carried.2.2.2.2 _ _ {} _ .finalizeArtifact _ a hcall⟩

end ContentCache
