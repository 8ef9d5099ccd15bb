import ContentCache.Proofs.Cache.Succession
import ContentCache.Proofs.CommandLine
import ContentCache.Proofs.CommandLine.Offering

/-!
# Ends of life and ages at their limits

The end of the life of a copy and the oldest instant that an age allows are counted from the clock. Both are
exact or they are missing: a life that leads past the last instant gives a copy without an end, even where the
usual life would not, and an age that leads before the first instant ends the run.

Main statements: `Cache.expiry_eq_some_iff`, `CommandLine.oldest_eq_ok_iff`, `CommandLine.fetch_of_age` (a run
with an age uses it as it is, or fails) and `CommandLine.instants_exact`.
-/

namespace ContentCache

open Time

/-- **The end of the life** of a copy is the instant that lies its life after the one at which it is stored:
the life that the caller wants, or else the usual one. -/
theorem Cache.expiry_eq_some_iff {c : Cache} {o : CacheOptions} {now t : Instant} :
    c.expiry o now = some t ↔
      ∃ life, (o.expiresIn = some life ∨ o.expiresIn = none ∧ c.life = some life) ∧ t.IsLater now life := by
  have hlife (life : Span) : (o.expiresIn.orElse fun _ => c.life) = some life ↔
      o.expiresIn = some life ∨ o.expiresIn = none ∧ c.life = some life := by
    cases o.expiresIn <;> simp
  unfold Cache.expiry
  rw [Option.bind_eq_some_iff]
  exact exists_congr fun life => and_congr (hlife life) Instant.shiftLater?_eq_some_iff

namespace CommandLine

variable {a : Arguments} {w : World} {j : Journal} {now t : Instant} {seconds : Nat}

/-! ## Ages -/

theorem oldest_eq_ok_iff : oldest now seconds = .ok t ↔ t.IsEarlier now seconds := by
  rw [← Instant.secondsEarlier?_eq_some_iff, oldest_eq]
  cases now.secondsEarlier? seconds <;> simp

/-- An age that leads before the first instant is refused. -/
theorem oldest_eq_error_iff (hnow : now.nanos < 1000000000) :
    oldest now seconds = .error (.ageOutOfRange seconds) ↔
      now.nanosecondsSinceEpoch - seconds * 1000000000 < Instant.earliest.nanosecondsSinceEpoch := by
  have hnone : oldest now seconds = .error (.ageOutOfRange seconds) ↔
      now.secondsEarlier? seconds = none := by
    rw [oldest_eq]
    cases now.secondsEarlier? seconds <;> simp
  rw [hnone, Instant.secondsEarlier?_eq_none_iff, ← not_exists, Instant.exists_isEarlier_iff hnow,
    Int.not_le]

/-- **A run with an age** makes its call with the instant that lies so many seconds before now, or it fails
before anything happens. -/
theorem fetch_of_age (hage : a.maxAge = some seconds) :
    (∃ c tokens o t, Prepared a w j c tokens o ∧ o.freshAfter = some t ∧ t.IsEarlier (w.now j) seconds ∧
        fetch a w j =
          (concluded ((Cache.ofConfig c tokens).copyRetrying a.url o (.doubling a.retries) w j).1,
            ((Cache.ofConfig c tokens).copyRetrying a.url o (.doubling a.retries) w j).2)) ∨
      ∃ e, fetch a w j = (⟨[], .failure e⟩, j) := by
  obtain ⟨e, -, hprepare⟩ | ⟨c, tokens, o, prepared, hprepare⟩ := prepare_cases a w j
  · exact .inr ⟨e, fetch_of_unprepared hprepare⟩
  · obtain ⟨t, hfresh, hearlier⟩ := prepared.aged seconds hage
    exact .inl ⟨c, tokens, o, t, prepared, hfresh, hearlier, fetch_of_prepared hprepare⟩

/-- **Instants at their limits**, counted from one that is no leap second. Counting a span on gives the exact
sum when the span is no longer than a shift and the sum is no later than the last instant, and nothing
otherwise. So the requests that store a copy tell the exact end of its life, and none when there is none: a
life that is wanted goes before the usual one, also where it leads too far. An age gives the exact difference
when that is an instant. The age of a run is the number that its arguments offer, in full, and is counted back
exactly, or the run fails before anything happens. -/
theorem instants_exact (hnow : now.nanos < 1000000000) :
    (∀ life : Span,
      ((∃ t, now.shiftLater? life = some t) ↔
        life.nanoseconds ≤ Span.longestShift.nanoseconds ∧
          now.nanosecondsSinceEpoch + life.nanoseconds ≤ Instant.latest.nanosecondsSinceEpoch) ∧
      ∀ t, now.shiftLater? life = some t →
        t.IsLater now life ∧ (now.isBefore t = true ↔ 0 < life.nanoseconds)) ∧
      (∀ (c : Cache) (source : String) (url : Url) (o : CacheOptions) (w : World) (j : Journal),
        w.now j = now → ∃ es expiresAt,
          (c.populate source url o w j).2.exchanges = j.exchanges ++ es ∧
          Store.Names cacheNamespace (CachePath.ofSource url now) (.ofList [(sourceLabel, source)])
            expiresAt es ∧
          (∀ copy, (c.populate source url o w j).1 = .ok copy →
            ∃ e ∈ es, e.purpose = .call .createArtifact ∧ e.hop = 0) ∧
          ∀ t, expiresAt = some t ↔
            ∃ life, (o.expiresIn = some life ∨ o.expiresIn = none ∧ c.life = some life) ∧
              t.IsLater now life) ∧
      (∀ seconds : Nat,
        (∀ t, oldest now seconds = .ok t ↔ t.IsEarlier now seconds) ∧
          (oldest now seconds = .error (.ageOutOfRange seconds) ↔
            now.nanosecondsSinceEpoch - seconds * 1000000000 <
              Instant.earliest.nanosecondsSinceEpoch)) ∧
      ∀ (arguments : List String) (envToken : Option String) (a : Arguments) (value : String) (w : World)
        (j : Journal), Request.ofArguments arguments envToken = .ok (.fetch a) →
        Offers arguments .maxAge value → w.now j = now →
        ∃ n ≤ 18446744073709551615, Text.Denotes value.toList n ∧ a.maxAge = some n ∧
          ((∃ c tokens o t, Prepared a w j c tokens o ∧ o.freshAfter = some t ∧ t.IsEarlier now n ∧
              run arguments envToken w j =
                (concluded ((Cache.ofConfig c tokens).copyRetrying a.url o (.doubling a.retries) w j).1,
                  ((Cache.ofConfig c tokens).copyRetrying a.url o (.doubling a.retries) w j).2)) ∨
            ∃ e, run arguments envToken w j = (⟨[], .failure e⟩, j)) := by
  refine ⟨fun life => ⟨?_, fun t ht => ?_⟩, ?_, fun seconds => ⟨fun t => oldest_eq_ok_iff, ?_⟩, ?_⟩
  · rw [← Instant.exists_isLater_iff]
    constructor
    · rintro ⟨t, ht⟩
      have hlater : t.IsLater now life := Instant.shiftLater?_eq_some_iff.1 ht
      exact ⟨hlater.le_longestShift, t, hlater⟩
    · rintro ⟨-, t, hlater⟩
      exact ⟨t, Instant.shiftLater?_eq_some_iff.2 hlater⟩
  · have hlater : t.IsLater now life := Instant.shiftLater?_eq_some_iff.1 ht
    exact ⟨hlater, hlater.isBefore_iff hnow⟩
  · rintro c source url o w j rfl
    obtain ⟨es, hes, dated, opened⟩ := c.populate_dated source url o w j
    exact ⟨es, _, hes, dated, opened, fun t => Cache.expiry_eq_some_iff⟩
  · exact oldest_eq_error_iff hnow
  · rintro arguments envToken a value w j parsed offered rfl
    obtain ⟨n, hfits, hdenotes, hage⟩ := count?_of_offers (.inl rfl) offered parsed
    refine ⟨n, hfits, hdenotes, hage, ?_⟩
    rw [run, parsed]
    exact fetch_of_age hage

/-- The span from the first second of 2024 to the last instant. -/
def furthest : Span := ⟨8208562809599999999999⟩

/-- A cache whose copies live for a minute. -/
def shortLived : Cache := { Cache.usual with life := some (.ofSeconds 60) }

/-- A life of a nanosecond more than there is. -/
def overlong : CacheOptions := { expiresIn := some (furthest.plus ⟨1⟩) }

set_option maxRecDepth 10000 in
/-- An overlong life leaves a copy without an end, and the largest number is no age. -/
theorem instants_exact_newYear :
    Cache.newYear.nanos < 1000000000 ∧
      (∃ t, Cache.newYear.shiftLater? furthest = some t ∧ t.IsLater Cache.newYear furthest) ∧
      (¬ ∃ t, Cache.newYear.shiftLater? (furthest.plus ⟨1⟩) = some t) ∧
      (∃ es, (shortLived.populate "http://o/" CachePath.portedUrl overlong
            (CachePath.storingWorld Cache.newYear) {}).2.exchanges = [] ++ es ∧
          Store.Names cacheNamespace (CachePath.ofSource CachePath.portedUrl Cache.newYear)
            (.ofList [(sourceLabel, "http://o/")]) none es ∧
          ∃ e ∈ es, e.purpose = .call .createArtifact ∧ e.hop = 0) ∧
      oldest Cache.newYear 18446744073709551615 = .error (.ageOutOfRange 18446744073709551615) ∧
      Request.ofArguments ["c", "http://o/", "--max-age", "18446744073709551615"] (some "t") =
        .ok (.fetch { config := "c", url := "http://o/", maxAge := some 18446744073709551615,
                      token := some "t" }) ∧
      Offers ["c", "http://o/", "--max-age", "18446744073709551615"] .maxAge "18446744073709551615" ∧
      ∃ e, run ["c", "http://o/", "--max-age", "18446744073709551615"] (some "t") brokenWorld {} =
        (⟨[], .failure e⟩, {}) := by
  have hnow : Cache.newYear.nanos < 1000000000 := by decide
  obtain ⟨later, stored, ages, runs⟩ := instants_exact hnow
  have hfurther : ¬ ∃ t, Cache.newYear.shiftLater? (furthest.plus ⟨1⟩) = some t := by
    rw [(later _).1]
    decide
  refine ⟨hnow, ?_, hfurther, ?_, (ages _).2.2 (by decide), ?_⟩
  · obtain ⟨t, ht⟩ := (later furthest).1.2 (by decide)
    exact ⟨t, ht, ((later furthest).2 t ht).1⟩
  · obtain ⟨es, expiresAt, hes, names, opened, hexpiry⟩ := stored shortLived "http://o/" CachePath.portedUrl
      overlong (CachePath.storingWorld Cache.newYear) {} (by decide)
    have hnone : expiresAt = none := by
      refine Option.eq_none_iff_forall_ne_some.2 fun t ht => hfurther ⟨t, ?_⟩
      obtain ⟨life, hlife | ⟨hlife, -⟩, hlater⟩ := (hexpiry t).1 ht
      · obtain rfl := Option.some.inj hlife
        exact Instant.shiftLater?_eq_some_iff.2 hlater
      · cases hlife
    have hhalt : Cache.haltOf (shortLived.populate "http://o/" CachePath.portedUrl overlong
        (CachePath.storingWorld Cache.newYear) {}).1 = none := by
      decide +kernel
    cases hr : (shortLived.populate "http://o/" CachePath.portedUrl overlong
        (CachePath.storingWorld Cache.newYear) {}).1 with
    | error h =>
      rw [hr] at hhalt
      cases hhalt
    | ok copy => exact ⟨es, hes, hnone ▸ names, opened copy hr⟩
  · have parsed : Request.ofArguments ["c", "http://o/", "--max-age", "18446744073709551615"] (some "t") =
        .ok (.fetch { config := "c", url := "http://o/", maxAge := some 18446744073709551615,
                      token := some "t" }) := by rfl
    have offered : Offers ["c", "http://o/", "--max-age", "18446744073709551615"] .maxAge
        "18446744073709551615" :=
      @Offers.apart ["c", "http://o/"] [] "max-age" .maxAge _ (by decide) rfl
    obtain ⟨n, -, -, hage, hrun⟩ := runs _ _ _ _ brokenWorld {} parsed offered (by decide)
    obtain rfl := Option.some.inj hage
    refine ⟨parsed, offered, hrun.resolve_left ?_⟩
    rintro ⟨c, tokens, o, t, -, -, hearlier, -⟩
    exact absurd ((Instant.exists_isEarlier_iff hnow).1 ⟨t, hearlier⟩) (by decide)

end CommandLine

end ContentCache
