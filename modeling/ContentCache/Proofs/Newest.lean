import ContentCache.Artifact

/-!
# The newest artifact of a list

The newest artifact is found by one pass over a list. Here it is described by its place: nothing before
it is newer, and everything behind it is older. So the question whether any artifact is fresh is
answered by looking at the newest one, and artifacts that are older than another one do not matter.

* `IsNewest`: the place of the newest artifact.
* `hasFresh`: whether any artifact of a list is fresh.

Main statements: `newest?_eq_some_iff`, `hasFresh_iff` (one artifact answers for all),
`newest?_perm` and `newest?_insert_older` (what makes no difference).
-/

namespace ContentCache

/-- An artifact of a list such that nothing before it is newer and everything behind it is older. -/
def IsNewest (artifacts : List Artifact) (a : Artifact) : Prop :=
  ∃ front back, artifacts = front ++ a :: back ∧
    (∀ b ∈ front, a.createdAt.isBefore b.createdAt = false) ∧
    ∀ b ∈ back, b.createdAt.isBefore a.createdAt = true

namespace Time.Instant

theorem not_isBefore_of_isBefore {a b : Instant} (h : a.isBefore b = true) : b.isBefore a = false := by
  rw [Bool.eq_false_iff, ne_eq, isBefore_iff]
  rw [isBefore_iff] at h
  omega

theorem not_isBefore_trans {a b c : Instant} (hab : a.isBefore b = false) (hbc : b.isBefore c = false) :
    a.isBefore c = false := by
  rw [Bool.eq_false_iff, ne_eq, isBefore_iff] at *
  omega

theorem isBefore_of_isBefore_of_not {a b c : Instant} (hab : a.isBefore b = true)
    (hcb : c.isBefore b = false) : a.isBefore c = true := by
  rw [Bool.eq_false_iff, ne_eq, isBefore_iff] at hcb
  rw [isBefore_iff] at *
  omega

end Time.Instant

open Time.Instant

namespace IsNewest

variable {artifacts : List Artifact} {a : Artifact}

theorem mem (h : IsNewest artifacts a) : a ∈ artifacts := by
  obtain ⟨front, back, rfl, -, -⟩ := h
  simp

/-- Nothing is newer than the newest artifact. -/
theorem not_isBefore (h : IsNewest artifacts a) : ∀ b ∈ artifacts,
    a.createdAt.isBefore b.createdAt = false := by
  obtain ⟨front, back, rfl, hfront, hback⟩ := h
  intro b hb
  rcases List.mem_append.1 hb with hb | hb
  · exact hfront b hb
  · rcases List.mem_cons.1 hb with rfl | hb
    · exact isBefore_irrefl _
    · exact not_isBefore_of_isBefore (hback b hb)

/-- An artifact that is older than some artifact is older than the newest one. -/
theorem isBefore_of_isBefore (h : IsNewest artifacts a) {b c : Artifact} (hc : c ∈ artifacts)
    (hbc : b.createdAt.isBefore c.createdAt = true) : b.createdAt.isBefore a.createdAt = true :=
  isBefore_of_isBefore_of_not hbc (h.not_isBefore c hc)

end IsNewest

theorem newer_of_isBefore {a b : Artifact} (h : b.createdAt.isBefore a.createdAt = true) :
    newer (some a) b = some a := by
  simp [newer, h]

theorem newer_of_not_isBefore {best : Option Artifact} {a : Artifact}
    (h : ∀ b, best = some b → a.createdAt.isBefore b.createdAt = false) : newer best a = some a := by
  cases best with
  | none => rfl
  | some b => simp [newer, h b rfl]

/-- Older artifacts do not take the place of a newer one. -/
theorem foldl_newer_of_isBefore {a : Artifact} {artifacts : List Artifact}
    (h : ∀ b ∈ artifacts, b.createdAt.isBefore a.createdAt = true) :
    artifacts.foldl newer (some a) = some a := by
  induction artifacts with
  | nil => rfl
  | cons b rest ih =>
    rw [List.foldl_cons, newer_of_isBefore (h b (by simp))]
    exact ih fun c hc => h c (List.mem_cons_of_mem _ hc)

theorem newest?_of_isNewest {artifacts : List Artifact} {a : Artifact} (h : IsNewest artifacts a) :
    newest? artifacts = some a := by
  obtain ⟨front, back, rfl, hfront, hback⟩ := h
  rw [newest?, List.foldl_append, List.foldl_cons, newer_of_not_isBefore fun b hb => ?_]
  · exact foldl_newer_of_isBefore hback
  · exact hfront b (newest?_mem hb)

/-- A list that is not empty has a newest artifact. The list is taken from its end, as the pass over it
comes to its artifacts. -/
theorem exists_isNewest {artifacts : List Artifact} (h : artifacts ≠ []) :
    ∃ a, IsNewest artifacts a := by
  induction hr : artifacts.reverse generalizing artifacts with
  | nil => exact absurd (by simpa using hr) h
  | cons x rest ih =>
    obtain rfl : artifacts = rest.reverse ++ [x] := by
      rw [← List.reverse_reverse artifacts, hr, List.reverse_cons]
    by_cases hrest : rest.reverse = []
    · exact ⟨x, [], [], by simp [hrest], by simp, by simp⟩
    obtain ⟨a, front, back, hsplit, hfront, hback⟩ := ih hrest (by simp)
    cases hx : x.createdAt.isBefore a.createdAt with
    | true =>
      refine ⟨a, front, back ++ [x], by simp [hsplit], hfront, fun b hb => ?_⟩
      rcases List.mem_append.1 hb with hb | hb
      · exact hback b hb
      · rw [List.mem_singleton.1 hb]
        exact hx
    | false =>
      have hnewest : IsNewest rest.reverse a := ⟨front, back, hsplit, hfront, hback⟩
      exact ⟨x, rest.reverse, [], rfl, fun b hb => not_isBefore_trans hx (hnewest.not_isBefore b hb),
        by simp⟩

/-- **The newest artifact is the last one of those with the latest instant.** -/
theorem newest?_eq_some_iff {artifacts : List Artifact} {a : Artifact} :
    newest? artifacts = some a ↔ IsNewest artifacts a := by
  refine ⟨fun h => ?_, newest?_of_isNewest⟩
  have hne : artifacts ≠ [] := List.ne_nil_of_mem (newest?_mem h)
  obtain ⟨b, hb⟩ := exists_isNewest hne
  rw [newest?_of_isNewest hb] at h
  exact Option.some.inj h ▸ hb

theorem newest?_eq_none_iff {artifacts : List Artifact} : newest? artifacts = none ↔ artifacts = [] := by
  rw [← Option.not_isSome_iff_eq_none, newest?_isSome_iff]
  simp

/-! ## Freshness -/

/-- Whether any artifact of a list is fresh: was not created before the threshold, when there is one. -/
def hasFresh (artifacts : List Artifact) : (threshold : Option Time.Instant) → Prop
  | none => artifacts ≠ []
  | some t => ∃ a ∈ artifacts, a.createdAt.isBefore t = false

/-- **There is a fresh artifact exactly when the newest one is fresh.** -/
theorem hasFresh_iff {artifacts : List Artifact} {a : Artifact} (h : IsNewest artifacts a)
    (threshold : Option Time.Instant) :
    hasFresh artifacts threshold ↔ isFresh a.createdAt threshold = true := by
  cases threshold with
  | none => exact iff_of_true (List.ne_nil_of_mem h.mem) rfl
  | some t =>
    rw [isFresh, Bool.not_eq_true']
    constructor
    · rintro ⟨b, hb, hbt⟩
      exact not_isBefore_trans (h.not_isBefore b hb) hbt
    · exact fun ht => ⟨a, h.mem, ht⟩

theorem not_hasFresh_nil (threshold : Option Time.Instant) : ¬ hasFresh [] threshold := by
  cases threshold with
  | none => exact fun h => h rfl
  | some t => exact fun ⟨_, h, _⟩ => nomatch h

/-! ## What makes no difference -/

/-- **The order makes no difference** when no two artifacts have the same instant. -/
theorem newest?_perm {artifacts others : List Artifact} (h : artifacts.Perm others)
    (hdistinct : artifacts.Pairwise fun a b => a.createdAt ≠ b.createdAt) :
    newest? others = newest? artifacts := by
  cases hn : newest? artifacts with
  | none => rw [newest?_eq_none_iff] at hn ⊢; exact (hn ▸ h.symm).eq_nil
  | some a =>
    rw [newest?_eq_some_iff] at hn ⊢
    obtain ⟨front, back, rfl⟩ := List.append_of_mem (h.mem_iff.1 hn.mem)
    refine ⟨front, back, rfl, fun b hb => ?_, fun b hb => ?_⟩
    · exact hn.not_isBefore b (h.mem_iff.2 (List.mem_append_left _ hb))
    · have hdistinct := h.pairwise_iff (fun h => h.symm) |>.1 hdistinct
      have hne : a.createdAt ≠ b.createdAt :=
        (List.pairwise_cons.1 (List.pairwise_append.1 hdistinct).2.1).1 b hb
      have hnot : a.createdAt.isBefore b.createdAt = false :=
        hn.not_isBefore b (h.mem_iff.2 (List.mem_append_right _ (List.mem_cons_of_mem _ hb)))
      rcases isBefore_total hne with h | h
      · rw [hnot] at h
        cases h
      · exact h

/-- **Older artifacts make no difference**, wherever they stand. -/
theorem newest?_insert_older {front added back : List Artifact}
    (h : ∀ b ∈ added, ∃ a ∈ front ++ back, b.createdAt.isBefore a.createdAt = true) :
    newest? (front ++ (added ++ back)) = newest? (front ++ back) := by
  cases hn : newest? (front ++ back) with
  | none =>
    rw [newest?_eq_none_iff] at hn ⊢
    have hadded : added = [] := List.eq_nil_iff_forall_not_mem.2 fun b hb => by
      obtain ⟨a, ha, -⟩ := h b hb
      rw [hn] at ha
      cases ha
    rw [hadded]
    exact hn
  | some a =>
    rw [newest?_eq_some_iff] at hn ⊢
    have holder : ∀ b ∈ added, b.createdAt.isBefore a.createdAt = true := fun b hb =>
      let ⟨_, hc, hbc⟩ := h b hb
      hn.isBefore_of_isBefore hc hbc
    obtain ⟨before, behind, hsplit, hbefore, hbehind⟩ := hn
    -- The newest artifact stands in one of the two parts between which the older ones are put.
    have later {mid : List Artifact} (hf : before = front ++ mid) (hb : back = mid ++ a :: behind) :
        IsNewest (front ++ (added ++ back)) a := by
      refine ⟨front ++ (added ++ mid), behind, by simp [hb], fun b h => ?_, hbehind⟩
      simp only [hf, List.mem_append] at hbefore h
      rcases h with h | h | h
      · exact hbefore b (.inl h)
      · exact not_isBefore_of_isBefore (holder b h)
      · exact hbefore b (.inr h)
    have earlier {mid : List Artifact} (hf : front = before ++ a :: mid) (hb : behind = mid ++ back) :
        IsNewest (front ++ (added ++ back)) a := by
      refine ⟨before, mid ++ (added ++ back), by simp [hf], hbefore, fun b h => ?_⟩
      simp only [hb, List.mem_append] at hbehind h
      rcases h with h | h | h
      · exact hbehind b (.inl h)
      · exact holder b h
      · exact hbehind b (.inr h)
    rcases List.append_eq_append_iff.1 hsplit with ⟨mid, hf, hb⟩ | ⟨mid, hf, hb⟩
    · exact later hf hb
    · cases mid with
      | nil =>
        have hback : back = [] ++ a :: behind := hb.symm
        exact later (by simp [hf]) hback
      | cons c mid =>
        obtain ⟨rfl, hbehind⟩ := List.cons.inj hb
        exact earlier hf hbehind

end ContentCache
