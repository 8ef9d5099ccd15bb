import ContentCache.Cache.Path
import ContentCache.Cache.Source
import ContentCache.Proofs.Entries
import ContentCache.Proofs.Time.Stamping

/-!
# The segments of a cache path

A cache path falls into the segment of the host, the stamp and the segments that are kept of path and
query. All of them are well formed, but for a host that is itself one or two points: only path and query
go through the filter that drops such segments.

* `IsFit`: a segment that is not empty and has allowed characters only.

Main statements: `segments_append_slash` and `segments_joinSegments` (how texts fall into segments),
`segments_sanitizeChars` (what is kept of a path) and `ofSource_laidOut` (a cache path as a whole).
-/

namespace ContentCache.CachePath

/-! ## Falling into segments -/

theorem segments_ne_nil (cs : List Char) : segments cs ≠ [] := by
  cases cs with
  | nil => simp [segments]
  | cons c rest =>
    unfold segments
    split
    · simp
    · split <;> simp

/-- A slash ends a segment, whatever stands around it. -/
theorem segments_append_slash (a b : List Char) :
    segments (a ++ '/' :: b) = segments a ++ segments b := by
  induction a with
  | nil => rfl
  | cons c a ih =>
    by_cases hc : c = '/'
    · simp [segments, hc, ih]
    · obtain ⟨s, more, hs⟩ := List.exists_cons_of_ne_nil (segments_ne_nil a)
      simp [segments, hc, ih, hs]

theorem segments_of_noSlash {s : List Char} (h : '/' ∉ s) : segments s = [s] := by
  induction s with
  | nil => rfl
  | cons c s ih =>
    obtain ⟨hc, hs⟩ := not_or.1 (mt List.mem_cons.2 h)
    simp [segments, Ne.symm hc, ih hs]

/-- Segments that are joined come back. -/
theorem segments_joinSegments {parts : List (List Char)} (hne : parts ≠ [])
    (h : ∀ s ∈ parts, '/' ∉ s) : segments (joinSegments parts) = parts := by
  fun_induction joinSegments parts with
  | case1 => exact absurd rfl hne
  | case2 s => exact segments_of_noSlash (h s (by simp))
  | case3 s more hmore ih =>
    rw [segments_append_slash, segments_of_noSlash (h s (by simp)),
      ih hmore fun t ht => h t (List.mem_cons_of_mem _ ht)]
    rfl

/-! ## Well-formed segments -/

/-- A segment that is not empty and has allowed characters only. -/
structure IsFit (s : List Char) : Prop where
  nonempty : s ≠ []
  allowed : ∀ c ∈ s, isAllowed c = true

theorem noSlash_of_allowed {s : List Char} (h : ∀ c ∈ s, isAllowed c = true) : '/' ∉ s :=
  fun hs => absurd (h '/' hs) (by decide)

theorem ne_nil_of_isDropped {s : List Char} (h : isDropped s = false) : s ≠ [] := by
  rintro rfl
  cases h

/-- The segments that are kept are well formed, and none of them is one or two points. -/
theorem keptSegments_fit (path : List Char) :
    ∀ s ∈ keptSegments path, isDropped s = false ∧ IsFit s := by
  intro s hs
  obtain ⟨hmem, hdropped⟩ := List.mem_filter.1 hs
  obtain ⟨t, -, rfl⟩ := List.mem_map.1 hmem
  have hd : isDropped (sanitizeSegment t) = false := by simpa using hdropped
  exact ⟨hd, ne_nil_of_isDropped hd, sanitizeSegment_allowed t⟩

theorem indexName_fit : isDropped indexName = false ∧ IsFit indexName :=
  ⟨by decide, by decide, List.all_eq_true.1 (by decide)⟩

/-- **What is kept of a path** comes in the segments that are kept, or in a name that stands for none. -/
theorem segments_sanitizeChars (path : List Char) :
    segments (sanitizeChars path) =
      if keptSegments path = [] then [indexName] else keptSegments path := by
  unfold sanitizeChars
  split
  · next h => rw [if_pos h, segments_of_noSlash (noSlash_of_allowed indexName_fit.2.allowed)]
  · next h =>
    rw [if_neg h]
    exact segments_joinSegments h fun s hs => noSlash_of_allowed (keptSegments_fit path s hs).2.allowed

theorem segments_sanitizeChars_fit (path : List Char) :
    ∀ s ∈ segments (sanitizeChars path), isDropped s = false ∧ IsFit s := by
  rw [segments_sanitizeChars]
  split
  · simpa using indexName_fit
  · exact keptSegments_fit path

/-! ## The segment of the host -/

theorem reduce_ne_nil {s : List Char} (h : s ≠ []) : sanitizeSegment s ≠ [] := by
  obtain ⟨c, rest, rfl⟩ := List.exists_cons_of_ne_nil h
  unfold sanitizeSegment reduce
  split
  · simp
  · simp

/-- Without an underscore afterwards nothing has been replaced. -/
theorem reduce_eq_self_of_not_mem {s : List Char} (h : '_' ∉ sanitizeSegment s) :
    sanitizeSegment s = s := by
  refine sanitizeSegment_eq_self ?_
  unfold sanitizeSegment at h
  induction s with
  | nil => simp
  | cons c s ih =>
    unfold reduce at h
    split at h
    · next hc =>
      intro d hd
      rcases List.mem_cons.1 hd with rfl | hd
      · exact hc
      · exact ih (fun hs => h (List.mem_cons_of_mem _ hs)) d hd
    · simp at h

theorem isDropped_iff {s : List Char} :
    isDropped s = true ↔ s = [] ∨ s = ['.'] ∨ s = ['.', '.'] := by
  simp [isDropped, or_assoc]

theorem allowed_of_isDropped {s : List Char} (h : isDropped s = true) :
    (∀ c ∈ s, isAllowed c = true) ∧ '_' ∉ s := by
  obtain rfl | rfl | rfl := isDropped_iff.1 h <;>
    exact ⟨List.all_eq_true.1 (by decide), by decide⟩

/-- A segment is left out just when it was one that is left out before it was reduced. -/
theorem isDropped_sanitizeSegment (s : List Char) : isDropped (sanitizeSegment s) = isDropped s := by
  rw [Bool.eq_iff_iff]
  constructor
  · intro h
    rwa [reduce_eq_self_of_not_mem (allowed_of_isDropped h).2] at h
  · intro h
    rwa [sanitizeSegment_eq_self (allowed_of_isDropped h).1]

theorem hostSegment_fit {u : Url} (h : (u.hostText.getD "").isEmpty = false) :
    IsFit (hostSegment u) := by
  have hne : (u.hostText.getD "").toList ≠ [] := by simpa using h
  unfold hostSegment
  split
  · exact ⟨reduce_ne_nil hne, sanitizeSegment_allowed _⟩
  · exact ⟨reduce_ne_nil (by simp), sanitizeSegment_allowed _⟩

/-- **The segment of the host is one or two points** only for a host that is that, without a port. -/
theorem isDropped_hostSegment {u : Url} (h : (u.hostText.getD "").isEmpty = false) :
    isDropped (hostSegment u) = true ↔
      u.port = none ∧ (u.hostText = some "." ∨ u.hostText = some "..") := by
  cases hhost : u.hostText with
  | none => simp [hhost] at h
  | some host =>
    simp only [hhost, Option.getD_some, Option.some.injEq] at h ⊢
    have hpoints : isDropped host.toList = true ↔ host = "." ∨ host = ".." := by
      rw [isDropped_iff]
      have hne : host.toList ≠ [] := by simpa using h
      simp only [hne, false_or, ← String.toList_inj]
      rfl
    unfold hostSegment
    cases hport : u.port with
    | none =>
      simp only [hhost, Option.getD_some, isDropped_sanitizeSegment, hpoints, true_and]
    | some port =>
      simp only [hhost, Option.getD_some, isDropped_sanitizeSegment, reduceCtorEq, false_and, iff_false]
      exact fun hd => (allowed_of_isDropped hd).2 (by simp)

/-! ## The path as a whole -/

theorem isAllowed_of_isDigit {c : Char} (h : c.isDigit = true) : isAllowed c = true := by
  simp [isAllowed, Char.isAlphanum, h]

/-- A stamp is a segment of its own, and no point or two. -/
theorem stamp_fit {now : Time.Instant} {stamp : List Char} (h : now.IsStamp stamp) :
    isDropped stamp = false ∧ IsFit stamp := by
  obtain ⟨year, month, day, hour, minute, second, fraction, rfl, hy, hmo, hd, hh, hmi, hs, hf⟩ := h
  have hallowed : ∀ c ∈ year ++ month ++ day ++ 'T' :: (hour ++ minute ++ second) ++
      '.' :: (fraction ++ ['Z']), isAllowed c = true := by
    intro c hc
    have digit {width n : Nat} {cs : List Char} (shows : Text.Shows width n cs) (hc : c ∈ cs) :
        isAllowed c = true := isAllowed_of_isDigit (shows.digits c hc)
    simp only [List.mem_append, List.mem_cons, List.not_mem_nil, or_false] at hc
    obtain ((((hc | hc) | hc) | rfl | (hc | hc) | hc) | rfl | hc | rfl) := hc
    · exact digit hy hc
    · exact digit hmo hc
    · exact digit hd hc
    · decide
    · exact digit hh hc
    · exact digit hmi hc
    · exact digit hs hc
    · decide
    · exact digit hf hc
    · decide
  have hkept : isDropped (year ++ month ++ day ++ 'T' :: (hour ++ minute ++ second) ++
      '.' :: (fraction ++ ['Z'])) = false := by
    rw [← Bool.not_eq_true, isDropped_iff]
    rintro (h | h | h) <;> have := congrArg List.length h <;> simp [hy.length] at this <;> omega
  exact ⟨hkept, ne_nil_of_isDropped hkept, hallowed⟩

theorem ofSource_toList (u : Url) (now : Time.Instant) :
    (ofSource u now).toList = hostSegment u ++ '/' :: (now.stamp.toList ++ '/' ::
      sanitizeChars (pathAndQuery u).toList) := by
  simp [ofSource, sanitize]

/-- The segments of a cache path, and what they are like. -/
structure IsLaidOut (url : Url) (now : Time.Instant) : Prop where
  /-- There is one segment for the host and one for the time, and the others are kept of path and query. -/
  segments_eq : segments (ofSource url now).toList =
    hostSegment url :: now.stamp.toList :: segments (sanitizeChars (pathAndQuery url).toList)
  atLeastThree : 3 ≤ (segments (ofSource url now).toList).length
  stamp : now.IsStamp now.stamp.toList
  fit : ∀ s ∈ segments (ofSource url now).toList, IsFit s
  /-- No segment after the first is one or two points. -/
  noPoints : ∀ s ∈ (segments (ofSource url now).toList).drop 1, s ≠ ['.'] ∧ s ≠ ['.', '.']
  /-- The first one is only when the host is, and has no port. -/
  points_iff : hostSegment url = ['.'] ∨ hostSegment url = ['.', '.'] ↔
    url.port = none ∧ (url.hostText = some "." ∨ url.hostText = some "..")

/-- **The cache path of an accepted source** falls into well-formed segments, and none is one or two
points but that of a host which is that itself. -/
theorem ofSource_laidOut {source : String} {url : Url} {now : Time.Instant}
    (h : readSource source = .ok url) (hyear : 0 ≤ now.date.year ∧ now.date.year ≤ 9999) :
    IsLaidOut url now := by
  have hhost := (readSource_scheme h).2
  have hstamp := Time.Instant.isStamp_stamp hyear
  have hfit := hostSegment_fit hhost
  have hrest : ∀ s ∈ now.stamp.toList :: segments (sanitizeChars (pathAndQuery url).toList),
      isDropped s = false ∧ IsFit s := by
    simpa using ⟨stamp_fit hstamp, segments_sanitizeChars_fit (pathAndQuery url).toList⟩
  have hsegments : segments (ofSource url now).toList =
      hostSegment url :: now.stamp.toList :: segments (sanitizeChars (pathAndQuery url).toList) := by
    rw [ofSource_toList, segments_append_slash, segments_of_noSlash (noSlash_of_allowed hfit.allowed),
      segments_append_slash, segments_of_noSlash (noSlash_of_allowed (stamp_fit hstamp).2.allowed)]
    rfl
  refine { segments_eq := hsegments, atLeastThree := ?_, stamp := hstamp, fit := ?_, noPoints := ?_,
           points_iff := ?_ }
  · rw [hsegments]
    have := List.length_pos_iff.2 (segments_ne_nil (sanitizeChars (pathAndQuery url).toList))
    simp only [List.length_cons]
    omega
  · rw [hsegments]
    intro s hs
    rcases List.mem_cons.1 hs with rfl | hs
    · exact hfit
    · exact (hrest s hs).2
  · rw [hsegments]
    intro s hs
    have hno : ¬ (s = [] ∨ s = ['.'] ∨ s = ['.', '.']) := by
      rw [← isDropped_iff, (hrest s hs).1]
      exact Bool.false_ne_true
    exact ⟨fun hp => hno (.inr (.inl hp)), fun hp => hno (.inr (.inr hp))⟩
  · rw [← isDropped_hostSegment hhost, isDropped_iff, or_iff_right hfit.nonempty]

/-- The URL of a source whose host is an address, with a port, a path that climbs, and a query. -/
def portedUrl : Url where
  scheme := "http"
  authority := some { host := some (.eight [0, 0, 0, 0, 0, 0, 0, 1]), port := some 8080 }
  path := .segments ["a%20b", "", "c"]
  query := some "q=%2F"

theorem ofSource_laidOut_ported :
    readSource "http://[::1]:8080/../a b//c?q=%2F" = .ok portedUrl ∧
      (0 ≤ Time.Instant.epoch.date.year ∧ Time.Instant.epoch.date.year ≤ 9999) ∧
      IsLaidOut portedUrl .epoch := by
  have hs : (readSource "http://[::1]:8080/../a b//c?q=%2F").toOption = some portedUrl := by
    decide +kernel
  have hyear : 0 ≤ Time.Instant.epoch.date.year ∧ Time.Instant.epoch.date.year ≤ 9999 := by decide
  exact ⟨eq_ok_of_toOption hs, hyear, ofSource_laidOut (eq_ok_of_toOption hs) hyear⟩

example : ofSource portedUrl .epoch = "_1__8080/19700101T000000.000000000Z/a_20b/c_q_2F" := by
  decide +kernel

/-- The URL of a source whose host is one point. -/
def pointUrl : Url where
  scheme := "http"
  authority := some { host := some (.name ".") }
  path := .segments [""]

theorem ofSource_point :
    readSource "http://./" = .ok pointUrl ∧
      (0 ≤ Time.Instant.epoch.date.year ∧ Time.Instant.epoch.date.year ≤ 9999) ∧
      ['.'] ∈ segments (ofSource pointUrl .epoch).toList := by
  have hs : (readSource "http://./").toOption = some pointUrl := by decide +kernel
  exact ⟨eq_ok_of_toOption hs, by decide, by decide +kernel⟩

end ContentCache.CachePath
