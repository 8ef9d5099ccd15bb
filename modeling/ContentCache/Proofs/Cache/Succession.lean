import ContentCache.Proofs.Cache.Carrying
import ContentCache.Proofs.Cache.Segmenting
import ContentCache.Proofs.Time.Collating

/-!
# Copies of one source after each other

The paths of copies of one source differ in their stamps only, and these are ordered like the instants at
which the copies are stored. So a later copy has a later path, and no copy takes the place of another one.

Main statements: `CachePath.ofSource_lt` (a later copy has a later path) and `CachePath.ofSource_ordered`.
-/

namespace ContentCache.CachePath

variable {url : Url} {now later : Time.Instant}

theorem stamp_length (hyear : 0 ≤ now.date.year ∧ now.date.year ≤ 9999) :
    now.stamp.toList.length = 26 := by
  rw [Time.Instant.stamp_toList hyear]
  simp [Text.fixedChars_length]

/-- **A later copy has a later path.** -/
theorem ofSource_lt (hnow : 0 ≤ now.date.year ∧ now.date.year ≤ 9999)
    (hlater : 0 ≤ later.date.year ∧ later.date.year ≤ 9999) (h : now.isBefore later = true) :
    ofSource url now < ofSource url later := by
  rw [String.lt_iff, ofSource_toList, ofSource_toList]
  refine List.append_left_lt (List.cons_lt_cons_iff.2 (.inr ⟨rfl, ?_⟩))
  refine Text.append_lt_append ?_ (Time.Instant.stamp_lt hnow hlater h) _ _
  rw [stamp_length hnow, stamp_length hlater]

/-- **Copies of one source** have paths in the order of the instants at which they are stored, and different
ones at different instants: storing a copy names no other path than the one that belongs to the instant at
which it begins. -/
theorem ofSource_ordered (hnow : 0 ≤ now.date.year ∧ now.date.year ≤ 9999)
    (hlater : 0 ≤ later.date.year ∧ later.date.year ≤ 9999) :
    (ofSource url now < ofSource url later ↔ now.isBefore later = true) ∧
      (ofSource url now = ofSource url later ↔ now = later) ∧
      ∀ (c d : Cache) (source other : String) (o p : CacheOptions) (w v : World) (j k : Journal),
        w.now j = now → v.now k = later → ∃ es fs,
          (c.populate source url o w j).2.exchanges = j.exchanges ++ es ∧
          (d.populate other url p v k).2.exchanges = k.exchanges ++ fs ∧
          c.Dated source url o now es ∧ d.Dated other url p later fs := by
  refine ⟨⟨fun h => ?_, ofSource_lt hnow hlater⟩, ⟨fun h => ?_, fun h => h ▸ rfl⟩, ?_⟩
  · by_cases hsame : now = later
    · exact absurd (hsame ▸ h) (String.lt_irrefl _)
    · refine (Time.Instant.isBefore_total hsame).resolve_right fun hafter => ?_
      exact String.lt_asymm h (ofSource_lt hlater hnow hafter)
  · refine Decidable.byContradiction fun hne => ?_
    rcases Time.Instant.isBefore_total hne with hbefore | hafter
    · have hlt : ofSource url now < ofSource url later := ofSource_lt hnow hlater hbefore
      exact String.lt_irrefl _ (h ▸ hlt)
    · have hlt : ofSource url later < ofSource url now := ofSource_lt hlater hnow hafter
      exact String.lt_irrefl _ (h ▸ hlt)
  · rintro c d source other o p w v j k rfl rfl
    obtain ⟨es, hes, dated, -⟩ := c.populate_dated source url o w j
    obtain ⟨fs, hfs, dated', -⟩ := d.populate_dated other url p v k
    exact ⟨es, fs, hes, hfs, dated, dated'⟩

/-- A leap second has a stamp of its own. -/
example : ofSource portedUrl ⟨1483228799, 1500000000, by decide⟩ =
    "_1__8080/20161231T235960.500000000Z/a_20b/c_q_2F" := by decide +kernel

/-- The origin gives its content and everything that follows goes well, at a given instant. -/
def storingWorld (clock : Time.Instant) : World where
  server := .ofAnswers [.reply .zero { pieces := [[104, 105, 33]] },
    Cache.said "\x7b\"signedUploadUrl\":\"http://s/?k\",\"uploadId\":\"u\"\x7d", Cache.said "",
    Cache.said ("\x7b\"artifact\":\x7b\"namespace\":\"n\",\"path\":\"p\"," ++
      "\"createdAt\":\"2024-01-01T00:00:00Z\"\x7d\x7d")]
  clock := clock

/-- One nanosecond after the first second of 2024 has begun. -/
def newYearLater : Time.Instant := ⟨1704067200, 1, by decide⟩

set_option maxRecDepth 10000 in
/-- A nanosecond is enough for another path. -/
theorem ofSource_ordered_nanosecond :
    (0 ≤ Cache.newYear.date.year ∧ Cache.newYear.date.year ≤ 9999) ∧
      (0 ≤ newYearLater.date.year ∧ newYearLater.date.year ≤ 9999) ∧
      ofSource portedUrl Cache.newYear < ofSource portedUrl newYearLater ∧
      ∃ es fs, (Cache.usual.populate "http://o/" portedUrl {} (storingWorld Cache.newYear) {}).2.exchanges =
          [] ++ es ∧
        (Cache.usual.populate "http://o/" portedUrl {} (storingWorld newYearLater) {}).2.exchanges =
          [] ++ fs ∧
        Cache.usual.Dated "http://o/" portedUrl {} Cache.newYear es ∧
        Cache.usual.Dated "http://o/" portedUrl {} newYearLater fs ∧
        es.map Exchange.purpose = [.origin, .call .createArtifact, .upload, .call .finalizeArtifact] ∧
        fs.map Exchange.purpose = [.origin, .call .createArtifact, .upload, .call .finalizeArtifact] := by
  have hyear : 0 ≤ Cache.newYear.date.year ∧ Cache.newYear.date.year ≤ 9999 := by decide
  have hyear' : 0 ≤ newYearLater.date.year ∧ newYearLater.date.year ≤ 9999 := by decide
  obtain ⟨hlt, -, hstore⟩ := @ofSource_ordered portedUrl Cache.newYear newYearLater hyear hyear'
  obtain ⟨es, fs, hes, hfs, dated, dated'⟩ := hstore Cache.usual Cache.usual "http://o/" "http://o/" {} {}
    (storingWorld Cache.newYear) (storingWorld newYearLater) {} {} (by decide) (by decide)
  refine ⟨hyear, hyear', hlt.2 (by decide), es, fs, hes, hfs, dated, dated', ?_, ?_⟩
  · rw [← List.nil_append es, ← hes]
    decide +kernel
  · rw [← List.nil_append fs, ← hfs]
    decide +kernel

end ContentCache.CachePath
