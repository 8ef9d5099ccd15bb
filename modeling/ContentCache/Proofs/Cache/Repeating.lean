import ContentCache.Proofs.Failing

/-!
# Repeated calls

A call that is repeated is a run of attempts. Every attempt is a whole call that begins where the wait
after the attempt before has ended, and the run ends with the first attempt that ends well, whose failure
is not worth a repeat, or that is the last one allowed.

* `Act.Turn`: one attempt, with the journals between which it was made.
* `Act.nthTurn`: the attempts that can be made one after the other; `Act.attempts`: those that are made.
* `RetryPolicy.Ends`: an attempt with this number and this end is not repeated.

Main statements: `retrying_from` (which attempts are made), `doubling_wait` (the doubling waits) and
`copyRetrying_attempts` (both of them, for calls).
-/

namespace ContentCache

/-! ## Policies -/

/-- Repeating the whole operation may succeed. -/
def Halt.isTransient : Halt → Bool
  | failed f => f.isTransient
  | interrupted => false

namespace RetryPolicy

variable {α : Type}

/-- The attempt with this number is not repeated: it has ended well, its failure is not worth a repeat,
or no attempt is left. -/
def Ends (p : RetryPolicy) (attempt : Nat) (r : Except Halt α) : Prop :=
  (∃ x, r = .ok x) ∨ (∃ h, r = .error h ∧ h.isTransient = false) ∨ attempt = p.maxRetries

/-- An attempt is not repeated when the policy does not allow it. -/
theorem ends_of_not_allowed {p : RetryPolicy} {attempt : Nat} {f : Failure}
    (h : p.allows attempt f = false) (hle : attempt ≤ p.maxRetries) :
    p.Ends attempt (.error (.failed f) : Except Halt α) := by
  cases htransient : f.isTransient with
  | false => exact .inr (.inl ⟨_, rfl, htransient⟩)
  | true =>
    refine .inr (.inr (Nat.le_antisymm hle (Nat.le_of_not_lt fun hlt => ?_)))
    rw [allows_iff.2 ⟨hlt, htransient⟩] at h
    cases h

theorem not_ends_of_allowed {p : RetryPolicy} {attempt : Nat} {f : Failure}
    (h : p.allows attempt f = true) : ¬ p.Ends attempt (.error (.failed f) : Except Halt α) := by
  obtain ⟨hlt, htransient⟩ := allows_iff.1 h
  rintro (⟨x, hx⟩ | ⟨halt, hhalt, hfinal⟩ | rfl)
  · cases hx
  · cases hhalt
    cases htransient.symm.trans hfinal
  · exact Nat.lt_irrefl _ hlt

/-- An attempt that is repeated has failed, and its failure is worth a repeat. -/
theorem failed_of_not_ends {p : RetryPolicy} {i : Nat} {r : Except Halt α}
    (h : ¬ p.Ends i r) : ∃ f, r = .error (.failed f) ∧ f.isTransient = true := by
  match r with
  | .ok x => exact absurd (.inl ⟨x, rfl⟩) h
  | .error .interrupted => exact absurd (.inr (.inl ⟨_, rfl, rfl⟩)) h
  | .error (.failed f) =>
    refine ⟨f, rfl, ?_⟩
    cases hf : f.isTransient with
    | true => rfl
    | false => exact absurd (.inr (.inl ⟨_, rfl, hf⟩)) h

/-! ## Waits that double -/

theorem doubling_length (n : Nat) : (doubling n).waits.length = min n 10 := by
  simp [doubling, doublings]

theorem doubling_getElem {n i : Nat} (h : i < (doubling n).waits.length) :
    (doubling n).waits[i] = 100 * Nat.pow 2 i := by
  simp [doubling]

/-- **The waits double until the table ends**, and stay the same from there on. -/
theorem doubling_wait {n : Nat} (hn : 1 ≤ n) (i : Nat) :
    (doubling n).waitMilliseconds i = 100 * Nat.pow 2 (min i (min n 10 - 1)) := by
  have hlength := doubling_length n
  by_cases hi : i < (doubling n).waits.length
  · rw [wait_of_lt hi, doubling_getElem hi, Nat.min_eq_left (by omega)]
  · have hlast : (doubling n).waits.getLast? = some (100 * Nat.pow 2 (min n 10 - 1)) := by
      rw [List.getLast?_eq_getElem?, List.getElem?_eq_getElem (by omega), doubling_getElem, hlength]
    have hmin : min i (min n 10 - 1) = min n 10 - 1 := Nat.min_eq_right (by omega)
    rw [wait_of_le (by omega), hlast, hmin]
    rfl

theorem pow_le_of_le_nine {e : Nat} (h : e ≤ 9) : Nat.pow 2 e ≤ 512 :=
  Nat.pow_le_pow_right (j := 9) (by decide) h

/-- The table has no entry past the ninth power. -/
theorem doubling_entry_le (n : Nat) : ∀ ms ∈ (doubling n).waits, ms ≤ 51200 := by
  intro ms hms
  obtain ⟨i, hi, rfl⟩ := List.mem_iff_getElem.1 hms
  have hlength := doubling_length n
  have hpow : Nat.pow 2 i ≤ 512 := pow_le_of_le_nine (by omega)
  rw [doubling_getElem hi]
  omega

/-- No wait is longer than the last entry of the longest table. -/
theorem doubling_wait_le {n : Nat} (hn : 1 ≤ n) (i : Nat) :
    (doubling n).waitMilliseconds i ≤ 51200 := by
  have hpow : Nat.pow 2 (min i (min n 10 - 1)) ≤ 512 := pow_le_of_le_nine (by omega)
  rw [doubling_wait hn]
  omega

theorem doubling_wait_mono {n : Nat} (hn : 1 ≤ n) {i k : Nat} (h : i ≤ k) :
    (doubling n).waitMilliseconds i ≤ (doubling n).waitMilliseconds k := by
  rw [doubling_wait hn, doubling_wait hn]
  exact Nat.mul_le_mul_left 100 (Nat.pow_le_pow_right (by decide) (by omega))

end RetryPolicy

/-! ## Attempts -/

namespace Act

variable {α : Type} {p : RetryPolicy} {a : Act α} {w : World}

/-- One attempt: the journal that it began with, its end, and the journal that it left. -/
structure Turn (α : Type) where
  before : Journal
  result : Except Halt α
  after : Journal

def turn (a : Act α) (w : World) (j : Journal) : Turn α := ⟨j, (a w j).1, (a w j).2⟩

/-- The attempts that can be made one after the other, with the waits of a policy between them. -/
def nthTurn (p : RetryPolicy) (a : Act α) (w : World) (j : Journal) : Nat → Turn α
  | 0 => a.turn w j
  | i + 1 => a.turn w (waited p i w (nthTurn p a w j i).after)

/-- The attempts that are made, beginning with number `attempt`. -/
def attempts (p : RetryPolicy) (a : Act α) (attempt : Nat) (w : World) (j : Journal) : List (Turn α) :=
  a.turn w j ::
    match (a w j).1 with
    | .error (.failed f) =>
      if p.allows attempt f then attempts p a (attempt + 1) w (waited p attempt w (a w j).2) else []
    | _ => []
termination_by p.maxRetries - attempt
decreasing_by
  rename_i h
  have := (RetryPolicy.allows_iff.1 h).1
  omega

/-- An attempt is one made of the act, wherever it begins. -/
theorem nthTurn_eq_turn (p : RetryPolicy) (a : Act α) (w : World) (j : Journal) (i : Nat) :
    nthTurn p a w j i = a.turn w (nthTurn p a w j i).before := by
  cases i <;> rfl

/-- A repeat begins after the wait. -/
theorem nthTurn_succ_before (p : RetryPolicy) (a : Act α) (w : World) (j : Journal) (i : Nat) :
    (nthTurn p a w j (i + 1)).before = waited p i w (nthTurn p a w j i).after := rfl

/-- An attempt is the last one, and ends the whole; or its failure may be repeated, and the others are
made after the wait. -/
theorem attempts_cases (p : RetryPolicy) (a : Act α) (i : Nat) (w : World) (j : Journal) :
    (attempts p a i w j = [a.turn w j] ∧ retrying p a i w j = a w j ∧
        (i ≤ p.maxRetries → p.Ends i (a w j).1)) ∨
      attempts p a i w j = a.turn w j :: attempts p a (i + 1) w (waited p i w (a w j).2) ∧
        retrying p a i w j = retrying p a (i + 1) w (waited p i w (a w j).2) ∧
        i < p.maxRetries ∧ ¬ p.Ends i (a w j).1 := by
  rw [attempts, retrying]
  cases hwork : a w j with
  | mk r k =>
    cases r with
    | ok x => exact .inl ⟨rfl, rfl, fun _ => .inl ⟨x, rfl⟩⟩
    | error h =>
      cases h with
      | interrupted => exact .inl ⟨rfl, rfl, fun _ => .inr (.inl ⟨_, rfl, rfl⟩)⟩
      | failed f =>
        cases hallows : p.allows i f with
        | false =>
          simp only [hallows, Bool.false_eq_true, if_false]
          exact .inl ⟨trivial, trivial, RetryPolicy.ends_of_not_allowed hallows⟩
        | true =>
          simp only [hallows, if_true]
          exact .inr ⟨trivial, trivial, (RetryPolicy.allows_iff.1 hallows).1,
            RetryPolicy.not_ends_of_allowed hallows⟩

/-- **The attempts that are made** from number `i` on go as far as the first one that is not repeated,
and that one is the end of the whole. -/
theorem retrying_from (p : RetryPolicy) (a : Act α) (w : World) (j : Journal) {i : Nat}
    (hi : i ≤ p.maxRetries) :
    ∃ n, i + n ≤ p.maxRetries ∧ p.Ends (i + n) (nthTurn p a w j (i + n)).result ∧
      (∀ m < n, ¬ p.Ends (i + m) (nthTurn p a w j (i + m)).result) ∧
      attempts p a i w (nthTurn p a w j i).before =
        (List.range' i (n + 1)).map (nthTurn p a w j) ∧
      retrying p a i w (nthTurn p a w j i).before =
        ((nthTurn p a w j (i + n)).result, (nthTurn p a w j (i + n)).after) := by
  -- On the number of attempts that are left.
  induction hleft : p.maxRetries - i using Nat.strongRecOn generalizing i with
  | ind left ih =>
    have hturn := nthTurn_eq_turn p a w j i
    obtain ⟨hattempts, hretrying, hends⟩ | ⟨hattempts, hretrying, hlt, hends⟩ :=
      attempts_cases p a i w (nthTurn p a w j i).before
    · refine ⟨0, hi, ?_, by simp, ?_, ?_⟩
      · rw [Nat.add_zero, hturn]
        exact hends hi
      · rw [hattempts, ← hturn]
        rfl
      · rw [hretrying, Nat.add_zero, hturn]
        rfl
    · obtain ⟨n, hle, hend, hbefore, hrest, hlast⟩ := ih _ (by omega) (i := i + 1) (by omega) rfl
      have hnext : waited p i w (a w (nthTurn p a w j i).before).2 =
          (nthTurn p a w j (i + 1)).before := by
        rw [nthTurn_succ_before, hturn]
        rfl
      rw [Nat.add_right_comm, Nat.add_assoc] at hle hend hlast
      refine ⟨n + 1, hle, hend, fun m hm => ?_, ?_, ?_⟩
      · cases m with
        | zero =>
          rw [Nat.add_zero, hturn]
          exact hends
        | succ m =>
          have := hbefore m (by omega)
          rwa [Nat.add_right_comm, Nat.add_assoc] at this
      · rw [hattempts, hnext, hrest, ← hturn]
        rfl
      · rw [hretrying, hnext, hlast]

end Act

/-! ## Calls -/

namespace Cache

variable {source : String} {w : World}

/-- The attempts that a repeated call can make, one after the other. -/
abbrev attempt (c : Cache) (source : String) (o : CacheOptions) (p : RetryPolicy) (w : World)
    (j : Journal) (i : Nat) : Act.Turn Copy :=
  Act.nthTurn p (c.copy source o) w j i

/-- **Every call begins with a listing of its own**: its requests come first, and nothing is sent without
them. -/
theorem copy_lists_first {url : Url} (hs : readSource source = .ok url) (c : Cache) (o : CacheOptions)
    (w : World) (j : Journal) :
    ∃ listing rest listed, (c.copy source o w j).2.exchanges = j.exchanges ++ (listing ++ rest) ∧
      c.Lists (limited o.timeout w j) source o listing listed ∧ (listing = [] → rest = []) := by
  obtain ⟨n, hg, -, steps, -, looking⟩ :=
    c.lookup_openly (limited o.timeout w j) source url o (begun j)
  have hexchanges : (c.copy source o w j).2.exchanges = j.exchanges ++ n.exchanges := by
    rw [copy_apply hs]
    exact hg.exchanges
  rw [hexchanges]
  generalize n.exchanges = es, n.counts = counts, (c.lookup source url o _ _).1 = r at looking
  cases looking with
  | @unlisted _ halt listing => exact ⟨es, [], .error halt, by simp, listing, fun _ => rfl⟩
  | @listed asked rest artifacts _ _ _ listing =>
    refine ⟨asked, rest, .ok artifacts, rfl, listing, fun hnone => ?_⟩
    obtain ⟨front, last, reply, hasked, -⟩ := listing.ok_last
    rw [hnone] at hasked
    simp at hasked

/-- A call does not wait between attempts. -/
theorem copy_waits (c : Cache) (source : String) (o : CacheOptions) (w : World) (j : Journal) :
    (c.copy source o w j).2.waits = j.waits := by
  cases hs : readSource source with
  | error f => rw [copy_of_invalid hs]
  | ok url =>
    obtain ⟨n, hg, hwaits, -⟩ := c.lookup_openly (limited o.timeout w j) source url o (begun j)
    have hgained : (c.copy source o w j).2.waits = j.waits ++ n.waits := by
      rw [copy_apply hs]
      exact hg.waits
    rw [hgained, hwaits, List.append_nil]

/-- The waits before an attempt has ended are those of the policy for the attempts before. -/
theorem attempt_waits (c : Cache) (source : String) (o : CacheOptions) (p : RetryPolicy) (w : World)
    (j : Journal) (i : Nat) :
    (c.attempt source o p w j i).after.waits = j.waits ++ (List.range i).map p.wait := by
  induction i with
  | zero =>
    show (c.copy source o w j).2.waits = j.waits ++ []
    rw [c.copy_waits, List.append_nil]
  | succ i ih =>
    calc (c.attempt source o p w j (i + 1)).after.waits
        = (c.attempt source o p w j i).after.waits ++ [p.wait i] := c.copy_waits source o w _
      _ = j.waits ++ (List.range (i + 1)).map p.wait := by rw [ih, List.range_succ]; simp

/-- **A repeated call** makes attempts up to the first one that is not repeated, and ends as that one
does. Each attempt is a whole call with a listing of its own, and begins when the wait after the one
before has ended. The wait is the entry of the policy's table, the last one past its end, and a second
without a table; the doubling policy waits 100, 200, ... milliseconds and never more than 51200. -/
theorem copyRetrying_attempts (c : Cache) (source : String) (o : CacheOptions) (p : RetryPolicy)
    (w : World) (j : Journal) :
    (∃ k ≤ p.maxRetries, p.Ends k (c.attempt source o p w j k).result ∧
      (∀ i < k, ¬ p.Ends i (c.attempt source o p w j i).result) ∧
      Act.attempts p (c.copy source o) 0 w j =
        (List.range (k + 1)).map (c.attempt source o p w j) ∧
      c.copyRetrying source o p w j =
        ((c.attempt source o p w j k).result, (c.attempt source o p w j k).after) ∧
      (c.attempt source o p w j k).after.waits = j.waits ++ (List.range k).map p.wait) ∧
    (∀ i, c.attempt source o p w j i =
        (c.copy source o).turn w (c.attempt source o p w j i).before ∧
      (c.attempt source o p w j 0).before = j ∧
      (c.attempt source o p w j (i + 1)).before =
        { (c.attempt source o p w j i).after with
          elapsed := (c.attempt source o p w j i).after.elapsed.plus (p.wait i)
          waits := (c.attempt source o p w j i).after.waits ++ [p.wait i] } ∧
      (w.deadline = none → (c.attempt source o p w j i).result ≠ .error .interrupted) ∧
      ∀ url, readSource source = .ok url → ∃ listing rest listed,
        (c.attempt source o p w j i).after.exchanges =
          (c.attempt source o p w j i).before.exchanges ++ (listing ++ rest) ∧
        c.Lists (limited o.timeout w (c.attempt source o p w j i).before) source o listing listed ∧
        (listing = [] → rest = [])) ∧
    (∀ i, p.wait i = .ofMilliseconds (p.waitMilliseconds i) ∧
      (∀ h : i < p.waits.length, p.waitMilliseconds i = p.waits[i]) ∧
      (p.waits.length ≤ i → p.waitMilliseconds i = p.waits.getLast?.getD 1000)) ∧
    ∀ n, 1 ≤ n → (∀ ms ∈ (RetryPolicy.doubling n).waits, ms ≤ 51200) ∧ ∀ i,
      (RetryPolicy.doubling n).waitMilliseconds i = 100 * Nat.pow 2 (min i (min n 10 - 1)) ∧
      (RetryPolicy.doubling n).waitMilliseconds i ≤ 51200 ∧
      ∀ m, i ≤ m → (RetryPolicy.doubling n).waitMilliseconds i ≤
        (RetryPolicy.doubling n).waitMilliseconds m := by
  refine ⟨?_, fun i => ⟨?_, rfl, rfl, ?_, ?_⟩, fun i => ⟨rfl, ?_, ?_⟩, fun n hn => ⟨?_, fun i => ?_⟩⟩
  · obtain ⟨k, hk, hends, hbefore, hattempts, hretrying⟩ :=
      Act.retrying_from p (c.copy source o) w j (Nat.zero_le _)
    simp only [Nat.zero_add, ← List.range_eq_range'] at hk hends hbefore hattempts hretrying
    exact ⟨k, hk, hends, hbefore, hattempts, hretrying, c.attempt_waits source o p w j k⟩
  · exact Act.nthTurn_eq_turn p _ w j i
  · intro hw
    rw [attempt, Act.nthTurn_eq_turn]
    exact c.copy_not_interrupted source o hw _
  · intro url hs
    rw [attempt, Act.nthTurn_eq_turn]
    exact copy_lists_first hs c o w _
  · exact fun h => RetryPolicy.wait_of_lt h
  · exact fun h => RetryPolicy.wait_of_le h
  · exact RetryPolicy.doubling_entry_le n
  · exact ⟨RetryPolicy.doubling_wait hn i, RetryPolicy.doubling_wait_le hn i,
      fun m hm => RetryPolicy.doubling_wait_mono hn hm⟩

end Cache

end ContentCache
