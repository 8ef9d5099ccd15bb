import ContentCache.Proofs.Cache.Segmenting
import Mathlib.Data.List.Forall2

/-!
# What sanitizing makes of a path

A path is sanitized segment by segment. A segment keeps its allowed characters, and each of its runs of
other characters becomes one underscore; segments that are nothing or one or two points are left out. The
paths that come out are the well-formed ones, and these stay as they are.

* `Reduces`: one text is another one with an underscore for each run of characters that are not allowed.
* `Sanitizes`: one path is what is left of another one.
* `IsWellFormed`: a path of allowed characters and slashes with no segment that is left out.

Main statements: `reduces_iff` (the flag of the reduction tells runs apart), `sanitizes_iff` and
`sanitize_fixes`.
-/

namespace ContentCache.CachePath

/-! ## Segments and their join -/

theorem segments_eq_splitOn (cs : List Char) : segments cs = cs.splitOn '/' := by
  induction cs with
  | nil => rfl
  | cons c rest ih =>
    rw [List.splitOn, List.splitOnP_cons_eq_if_modifyHead, ← List.splitOn_eq_splitOnP, ← ih]
    by_cases hc : c = '/'
    · simp [segments, hc]
    · obtain ⟨s, more, hs⟩ := List.exists_cons_of_ne_nil (segments_ne_nil rest)
      simp [segments, hc, hs]

theorem joinSegments_eq_intercalate (parts : List (List Char)) :
    joinSegments parts = ['/'].intercalate parts := by
  fun_induction joinSegments parts with
  | case1 => rfl
  | case2 s => simp [List.intercalate]
  | case3 s more hmore ih =>
    obtain ⟨t, more, rfl⟩ := List.exists_cons_of_ne_nil hmore
    rw [ih]
    simp [List.intercalate]

/-- The segments of a text make up the text. -/
theorem joinSegments_segments (cs : List Char) : joinSegments (segments cs) = cs := by
  rw [segments_eq_splitOn, joinSegments_eq_intercalate, List.intercalate_splitOn]

/-! ## Runs -/

/-- The second text is the first one with every maximal run of characters that are not allowed replaced by
one underscore, and every other character kept in its place. -/
inductive Reduces : List Char → List Char → Prop where
  | nil : Reduces [] []
  | keep {c : Char} {s t : List Char} (allowed : isAllowed c = true) (rest : Reduces s t) :
      Reduces (c :: s) (c :: t)
  | replace {run s t : List Char} (nonempty : run ≠ []) (foreign : ∀ c ∈ run, isAllowed c = false)
      (maximal : ∀ c ∈ s.head?, isAllowed c = true) (rest : Reduces s t) :
      Reduces (run ++ s) ('_' :: t)

/-- Within a run nothing is written until it ends. -/
theorem reduce_run {run s : List Char} (foreign : ∀ c ∈ run, isAllowed c = false)
    (maximal : ∀ c ∈ s.head?, isAllowed c = true) : reduce true (run ++ s) = reduce false s := by
  induction run with
  | nil =>
    cases s with
    | nil => rfl
    | cons c s => simp [reduce, maximal c rfl]
  | cons c run ih =>
    simpa [reduce, foreign c (by simp)] using ih fun d hd => foreign d (List.mem_cons_of_mem _ hd)

theorem Reduces.eq {s t : List Char} (h : Reduces s t) : sanitizeSegment s = t := by
  unfold sanitizeSegment
  induction h with
  | nil => rfl
  | keep allowed _ ih => simp [reduce, allowed, ih]
  | @replace run s t nonempty foreign maximal _ ih =>
    obtain ⟨c, run, rfl⟩ := List.exists_cons_of_ne_nil nonempty
    have hrun := reduce_run (fun d hd => foreign d (List.mem_cons_of_mem _ hd)) maximal
    simp [reduce, foreign c (by simp), hrun, ih]

/-- The induction takes both states of the flag at once: outside of a run, and behind one that has begun
and may go on. -/
theorem reduce_reduces (s : List Char) :
    Reduces s (reduce false s) ∧
      ∀ run, run ≠ [] → (∀ c ∈ run, isAllowed c = false) → Reduces (run ++ s) ('_' :: reduce true s) := by
  induction s with
  | nil => exact ⟨.nil, fun run hne hrun => .replace hne hrun (by simp) .nil⟩
  | cons c s ih =>
    obtain ⟨outside, within⟩ := ih
    cases hc : isAllowed c with
    | true =>
      have kept : Reduces (c :: s) (c :: reduce false s) := .keep hc outside
      refine ⟨by simpa [reduce, hc] using kept, fun run hne hrun => ?_⟩
      simpa [reduce, hc] using kept.replace hne hrun (by simpa using hc)
    | false =>
      refine ⟨by simpa [reduce, hc] using within [c] (by simp) (by simpa using hc), ?_⟩
      intro run hne hrun
      have longer : ∀ d ∈ run ++ [c], isAllowed d = false := by
        simpa [or_imp, forall_and] using ⟨hrun, hc⟩
      simpa [reduce, hc] using within (run ++ [c]) (by simp) longer

/-- **A sanitized segment** has an underscore for each run of characters that are not allowed. -/
theorem reduces_iff {s t : List Char} : Reduces s t ↔ sanitizeSegment s = t :=
  ⟨Reduces.eq, fun h => h ▸ (reduce_reduces s).1⟩

theorem forall₂_reduces_iff {parts reduced : List (List Char)} :
    List.Forall₂ Reduces parts reduced ↔ parts.map sanitizeSegment = reduced := by
  have h : Reduces = fun s t => sanitizeSegment s = t := by
    ext s t
    exact reduces_iff
  rw [h, ← List.forall₂_map_left_iff (R := Eq), List.forall₂_eq_eq_eq]

/-! ## Paths -/

/-- The second path is what is left of the first one: the segments that are not left out, each with an
underscore for each of its runs, or a name that stands for none. -/
inductive Sanitizes (p : String) : String → Prop where
  | index (dropped : ∀ s ∈ p.toList.splitOn '/', isDropped s = true) : Sanitizes p "index"
  | join {reduced : List (List Char)}
      (nonempty : (p.toList.splitOn '/').filter (!isDropped ·) ≠ [])
      (reduces : List.Forall₂ Reduces ((p.toList.splitOn '/').filter (!isDropped ·)) reduced) :
      Sanitizes p (String.ofList (['/'].intercalate reduced))

/-- A path of allowed characters and slashes that is not empty, and none of whose segments is nothing or
one or two points. -/
structure IsWellFormed (path : String) : Prop where
  nonempty : path ≠ ""
  allowed : ∀ c ∈ path.toList, isAllowed c = true ∨ c = '/'
  segments : ∀ s ∈ path.toList.splitOn '/', s ≠ [] ∧ s ≠ ['.'] ∧ s ≠ ['.', '.']

/-- Which segments are left out can be told before they are reduced. -/
theorem keptSegments_eq (path : List Char) :
    keptSegments path = ((path.splitOn '/').filter (!isDropped ·)).map sanitizeSegment := by
  rw [keptSegments, segments_eq_splitOn, List.filter_map]
  simp only [Function.comp_def, isDropped_sanitizeSegment]

/-- What is left of a path is empty or made of the segments that are kept. -/
theorem sanitizeChars_of_kept {path : List Char} (h : keptSegments path ≠ []) :
    sanitizeChars path = joinSegments (keptSegments path) := by
  unfold sanitizeChars
  split
  · next hnone => exact absurd hnone h
  · rfl

/-- **What sanitizing leaves of a path** is told by its segments. -/
theorem sanitizes_iff {p q : String} : Sanitizes p q ↔ sanitize p = q := by
  have hkept := keptSegments_eq p.toList
  constructor
  · intro h
    cases h with
    | index dropped =>
      have hnone : keptSegments p.toList = [] := by
        rw [hkept, List.map_eq_nil_iff, List.filter_eq_nil_iff]
        simpa using dropped
      rw [sanitize, sanitizeChars, hnone]
      rfl
    | join nonempty reduces =>
      rw [forall₂_reduces_iff, ← hkept] at reduces
      rw [sanitize, sanitizeChars_of_kept, reduces, joinSegments_eq_intercalate]
      rwa [hkept, ne_eq, List.map_eq_nil_iff]
  · rintro rfl
    by_cases hnone : (p.toList.splitOn '/').filter (!isDropped ·) = []
    · rw [hnone, List.map_nil] at hkept
      rw [sanitize, sanitizeChars, hkept]
      exact .index (by simpa [List.filter_eq_nil_iff] using hnone)
    · rw [sanitize, sanitizeChars_of_kept (by rwa [hkept, ne_eq, List.map_eq_nil_iff]),
        joinSegments_eq_intercalate]
      exact .join hnone (forall₂_reduces_iff.2 hkept.symm)

/-! ## Well-formed paths -/

/-- The segments of a text have its characters but the slashes. -/
theorem exists_mem_segments_iff {c : Char} {cs : List Char} :
    (∃ s ∈ segments cs, c ∈ s) ↔ c ∈ cs ∧ c ≠ '/' := by
  induction cs with
  | nil => simp [segments]
  | cons d rest ih =>
    by_cases hd : d = '/'
    · subst hd
      simp only [segments, if_true, List.mem_cons, exists_eq_or_imp, List.not_mem_nil, false_or, ih]
      grind
    · obtain ⟨s, more, hs⟩ := List.exists_cons_of_ne_nil (segments_ne_nil rest)
      rw [hs] at ih
      simp only [segments, if_neg hd, hs, List.mem_cons, exists_eq_or_imp] at ih ⊢
      grind

/-- A path is well formed when all its segments are, and none of them is left out. -/
theorem isWellFormed_iff {p : String} :
    IsWellFormed p ↔ ∀ s ∈ segments p.toList, isDropped s = false ∧ IsFit s := by
  have hsplit := segments_eq_splitOn p.toList
  constructor
  · intro h s hs
    have hparts := h.segments s (hsplit ▸ hs)
    refine ⟨by simpa [isDropped, and_assoc] using hparts, hparts.1, fun c hc => ?_⟩
    obtain ⟨hmem, hne⟩ := exists_mem_segments_iff.1 ⟨s, hs, hc⟩
    exact (h.allowed c hmem).resolve_right hne
  · intro h
    refine ⟨?_, fun c hc => ?_, fun s hs => ?_⟩
    · rintro rfl
      exact (h [] (by simp [segments])).2.nonempty rfl
    · by_cases hne : c = '/'
      · exact .inr hne
      · obtain ⟨s, hs, hcs⟩ := exists_mem_segments_iff.2 ⟨hc, hne⟩
        exact .inl ((h s hs).2.allowed c hcs)
    · simpa [isDropped, and_assoc] using (h s (hsplit ▸ hs)).1

theorem sanitize_wellFormed (p : String) : IsWellFormed (sanitize p) := by
  rw [isWellFormed_iff, sanitize, String.toList_ofList]
  exact segments_sanitizeChars_fit p.toList

/-- **The paths that stay as they are** are the well-formed ones. -/
theorem sanitize_eq_self_iff {p : String} : sanitize p = p ↔ IsWellFormed p := by
  refine ⟨fun h => h ▸ sanitize_wellFormed p, fun h => ?_⟩
  rw [isWellFormed_iff] at h
  have hkept : keptSegments p.toList = segments p.toList := by
    rw [keptSegments, List.map_congr_left fun s hs => sanitizeSegment_eq_self (h s hs).2.allowed,
      List.map_id', List.filter_eq_self]
    exact fun s hs => by simp [(h s hs).1]
  rw [sanitize, sanitizeChars_of_kept (hkept ▸ segments_ne_nil _), hkept, joinSegments_segments,
    String.ofList_toList]

/-- **Sanitizing** leads to the well-formed paths and leaves them as they are, so doing it again changes
nothing. It keeps the segments of a path in order, each with an underscore for each of its runs of
characters that are not allowed, and leaves out those that are nothing or one or two points. -/
theorem sanitize_fixes (p : String) :
    IsWellFormed (sanitize p) ∧ (sanitize p = p ↔ IsWellFormed p) ∧ sanitize (sanitize p) = sanitize p ∧
      ∀ q, Sanitizes p q ↔ sanitize p = q :=
  ⟨sanitize_wellFormed p, sanitize_eq_self_iff, sanitize_eq_self_iff.2 (sanitize_wellFormed p),
    fun _ => sanitizes_iff⟩

example : sanitize "//a b/../_é?/..." = "a_b/__/..." := by decide +kernel

end ContentCache.CachePath
