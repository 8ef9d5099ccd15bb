import ContentCache.Proofs.Cache.Carrying
import ContentCache.Proofs.Newest

/-!
# What an expected digest promises

A caller who expects a digest gets a new copy only when the digest that is told of it is the expected
one. That digest is the one that the metadata service gives when it seals the copy, and the digest of
the bytes when it gives none. So the bytes have the expected digest unless the service contradicts the
label that they were sealed with. For a stored copy the expected digest is a condition of the listing; what
is told of the copy afterwards is not compared with it.

Main statements: `copy_expected_digest`, and `copy_digest_unchecked` (what is told of a stored copy is
believed).
-/

namespace ContentCache.Cache

open Metadata.Client (Posts Answers)

variable {c : Cache} {w : World} {source : String} {url : Url} {o : CacheOptions}
  {es : List Exchange} {steps : List CacheEvent} {k : Counters → Counters} {x : Copy} {d : String}

/-- A new copy has the expected digest. -/
theorem Populating.digest (h : c.Populating w source url o es steps k (.ok x))
    (hd : o.expectedDigest = some d) : x.info.digest.getD "" = Digest.plain d := by
  obtain ⟨_, _, _, _, _, _, _, _, info, _, _, _, _, _, _, _, hchecked, hx⟩ := h.ok
  rw [hx]
  simp only [checkDigest, expected, hd, Option.map_some] at hchecked
  split at hchecked
  · next heq => exact heq
  · cases hchecked

/-- A copy from the store is the newest one of those that were listed, with the digest that is told
where it is found. -/
theorem Proceeding.stored {listed : List Artifact}
    (h : c.Proceeding w source url o listed es steps k (.ok x)) (hold : x.info.fromCache = true) :
    ∃ latest found got location, es = found ++ got ∧ IsNewest listed latest ∧
      x.info.path = latest.path ∧
      Posts .resolveArtifact (Metadata.ResolveRequest.document ⟨cacheNamespace, latest.path⟩) found ∧
      Answers .resolveArtifact Metadata.ReadLocation.ofDocument? found location ∧
      x.info.digest = location.artifact.digest := by
  cases h with
  | hit newest _ serving =>
    cases serving with
    | served opening =>
      obtain ⟨found, got, location, sent, rfl, finding, -, -, rfl⟩ := opening.ok
      exact ⟨_, found, got, location, rfl, newest?_eq_some_iff.1 newest, rfl, finding.posts,
        finding.answers, rfl⟩
  | missing _ populating | stale _ _ _ populating =>
    cases hold.symm.trans populating.fromCache

/-- **What an expected digest promises.** A new copy has the expected digest: that of its bytes goes into its
seal, and the bytes have it unless the answer to the sealing contradicts that. A copy from the store was
listed under the condition that it has the expected digest, and has the digest that is told of it. -/
theorem copy_expected_digest {j k : Journal} (hd : o.expectedDigest = some d)
    (h : c.copy source o w j = (.ok x, k)) :
    (x.info.fromCache = false ∧ x.info.digest = some (Digest.plain d) ∧
      ∃ uploadId artifact front closed, k.exchanges = j.exchanges ++ (front ++ closed) ∧
        Posts .finalizeArtifact (Metadata.FinalizeRequest.document ⟨cacheNamespace, x.info.path, uploadId,
          .ofList [(digestLabel, Sha256.hexDigest x.body.bytes)]⟩) closed ∧
        Answers .finalizeArtifact Metadata.sealedOfDocument? closed artifact ∧
        x.info.digest = some (artifact.digest.getD (Sha256.hexDigest x.body.bytes)) ∧
        (artifact.digest = none ∨ artifact.digest = some (Sha256.hexDigest x.body.bytes) →
          Sha256.hexDigest x.body.bytes = Digest.plain d)) ∨
    (x.info.fromCache = true ∧
      ∃ asked listed latest found got location, k.exchanges = j.exchanges ++ (asked ++ (found ++ got)) ∧
        Posts .listArtifacts (Metadata.ListRequest.document
          ⟨[cacheNamespace], [⟨sourceLabel, source⟩, ⟨digestLabel, Digest.plain d⟩]⟩) asked ∧
        Answers .listArtifacts Metadata.listedOfDocument? asked listed ∧ IsNewest listed latest ∧
        x.info.path = latest.path ∧
        Posts .resolveArtifact (Metadata.ResolveRequest.document ⟨cacheNamespace, latest.path⟩) found ∧
        Answers .resolveArtifact Metadata.ReadLocation.ofDocument? found location ∧
        x.info.digest = location.artifact.digest) := by
  obtain ⟨url, es, steps, counts, -, hes, -, looking⟩ := copy_ok h
  cases hcache : x.info.fromCache with
  | false =>
    obtain ⟨b, location, artifact, listed, fetched, opened, sent, closed, rfl, carried⟩ :=
      looking.carried hcache
    obtain ⟨asked, rest, artifacts, steps, -, -, proceeding⟩ := looking.ok
    obtain ⟨steps, counts, populating⟩ := proceeding.new hcache
    have hdigest := populating.digest hd
    rw [carried.told.2, Option.getD_some] at hdigest
    have hsealing := carried.sealing
    have htold := carried.told.2
    rw [← carried.returned.1] at hsealing hdigest htold
    refine .inl ⟨rfl, by rw [htold, hdigest], location.uploadId, artifact,
      listed ++ (fetched ++ (opened ++ sent)), closed, by simp [hes], hsealing, carried.sealed, htold, ?_⟩
    rintro (hnone | hsame)
    · rwa [hnone] at hdigest
    · rwa [hsame] at hdigest
  | true =>
    obtain ⟨asked, rest, listed, steps, rfl, listing, proceeding⟩ := looking.ok
    obtain ⟨latest, found, got, location, rfl, hnewest, hpath, hfound, hlocation, hdigest⟩ :=
      proceeding.stored hcache
    have hposts := listing.posts
    simp only [filterFor, expected, hd, Option.map_some, Option.toList_some] at hposts
    exact .inr ⟨rfl, asked, listed, latest, found, got, location, hes, hposts, listing.answers, hnewest,
      hpath, hfound, hlocation, hdigest⟩

/-- The expected digest is that of the three bytes, in another spelling. -/
def expectsThree : CacheOptions :=
  { expectedDigest := some " SHA256:C0DDD62C7717180E7FFB8A15BB9674D3EC92592E0B7AC7D1D5289836B4553BE2" }

set_option maxRecDepth 10000 in
/-- The bytes have the expected digest, since the seal is not contradicted. -/
theorem copy_expected_digest_three :
    ∃ x, (usual.copy "http://o/" expectsThree chunkedWorld {}).1 = .ok x ∧
      x.info.digest = some (Digest.plain (expectsThree.expectedDigest.getD "")) ∧
      Sha256.hexDigest x.body.bytes = Digest.plain (expectsThree.expectedDigest.getD "") := by
  have h : (usual.copy "http://o/" expectsThree chunkedWorld {}).1.toOption =
      some ⟨[.chunk [104, 105, 33]], ⟨newYear, "o/19700101T000000.000000000Z/index",
        some (Sha256.hexDigest [104, 105, 33]), false⟩⟩ := by
    decide +kernel
  have h := eq_ok_of_toOption h
  obtain ⟨-, hdigest, uploadId, artifact, front, closed, -, -, -, htold, hbytes⟩ | ⟨hcache, -⟩ :=
    copy_expected_digest rfl (Prod.ext h rfl)
  · refine ⟨_, h, hdigest, hbytes ?_⟩
    cases hseal : artifact.digest with
    | none => exact .inl rfl
    | some told =>
      rw [hseal] at htold
      exact .inr htold.symm
  · cases hcache

/-! ## A stored copy -/

/-- The caller expects a digest. -/
def expectsAb : CacheOptions := { expectedDigest := some "ab" }

/-- A copy is listed, and nothing is told of its digest where it is found. -/
def unlabelledWorld : World where
  server := .ofAnswers [
    said ("\x7b\"artifacts\":[\x7b\"namespace\":\"n\",\"path\":\"p\"," ++
      "\"createdAt\":\"2024-01-01T00:00:00Z\"\x7d]\x7d"),
    said ("\x7b\"signedDownloadUrl\":\"http://s/?k\",\"artifact\":" ++
      "\x7b\"namespace\":\"n\",\"path\":\"p\",\"createdAt\":\"2024-01-01T00:00:00Z\"\x7d\x7d"),
    said "hi!"]

set_option maxRecDepth 10000 in
/-- **What is told of a stored copy is believed**: one that was listed for its digest may turn out to have
none. -/
theorem copy_digest_unchecked :
    ∃ x, (usual.copy "http://o/" expectsAb unlabelledWorld {}).1 = .ok x ∧
      x.info.fromCache = true ∧ x.info.digest ≠ some (Digest.plain "ab") := by
  have hold : (usual.copy "http://o/" expectsAb unlabelledWorld {}).1.toOption =
      some ⟨[.chunk [104, 105, 33]], ⟨newYear, "p", none, true⟩⟩ := by decide +kernel
  exact ⟨_, eq_ok_of_toOption hold, rfl, by decide⟩

end ContentCache.Cache
