import ContentCache.Act
import ContentCache.Retry

/-!
# Repeating an act

An act that fails is repeated as long as a policy allows it, after a wait. Its last end is the end of
the whole.

Main statements: `retrying_of_ok` (a value ends the repeats at once), `retrying_of_final` (so does a
failure that the policy does not allow to be repeated) and `retrying_of_allowed`.
-/

namespace ContentCache.Act

variable {α : Type}

/-- The journal after the wait that follows attempt number `attempt`. -/
def waited (p : RetryPolicy) (attempt : Nat) (w : World) (j : Journal) : Journal :=
  (wait (p.wait attempt) w j).2

/-- Does an act again and again, beginning with attempt number `attempt`, as long as it fails and the
policy allows it. -/
def retrying (p : RetryPolicy) (a : Act α) (attempt : Nat) : Act α := fun w j =>
  match a w j with
  | (.error (.failed f), k) =>
    if p.allows attempt f then retrying p a (attempt + 1) w (waited p attempt w k)
    else (.error (.failed f), k)
  | (r, k) => (r, k)
termination_by p.maxRetries - attempt
decreasing_by
  rename_i h
  have := (RetryPolicy.allows_iff.1 h).1
  omega

/-- A value ends the repeats at once. -/
theorem retrying_of_ok {p : RetryPolicy} {a : Act α} {attempt : Nat} {w : World} {j k : Journal}
    {x : α} (h : a w j = (.ok x, k)) : retrying p a attempt w j = (.ok x, k) := by
  rw [retrying, h]

/-- A failure that may not be repeated ends them too. -/
theorem retrying_of_final {p : RetryPolicy} {a : Act α} {attempt : Nat} {w : World} {j k : Journal}
    {f : Failure} (h : a w j = (.error (.failed f), k)) (hf : p.allows attempt f = false) :
    retrying p a attempt w j = (.error (.failed f), k) := by
  rw [retrying, h]
  simp [hf]

/-- A failure that may be repeated is followed by a wait and the next attempt. -/
theorem retrying_of_allowed {p : RetryPolicy} {a : Act α} {attempt : Nat} {w : World}
    {j k : Journal} {f : Failure} (h : a w j = (.error (.failed f), k))
    (hf : p.allows attempt f = true) :
    retrying p a attempt w j = retrying p a (attempt + 1) w (waited p attempt w k) := by
  rw [retrying, h]
  simp [hf]

end ContentCache.Act
