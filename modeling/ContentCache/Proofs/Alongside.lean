import ContentCache.Retrying

/-!
# Two runs alongside each other

Two acts are run alongside each other, perhaps in two worlds. They begin with journals that belong together,
and they are to end with such journals again, in values that are related or in halts that belong together.
Which journals and which halts these are is left open: the rules here hold of every such likeness.

* `Likeness`: which journals and which halts belong together.
* `Likeness.Ends`: ends that belong together.
* `Act.Alongside`: acts that keep what belongs together.

Main statements: `Alongside.bind` (acts one after the other), `alongside_within` and `alongside_retrying`.
-/

namespace ContentCache

/-- Which journals and which halts of two runs belong together. What both runs note in the same way keeps
their journals together. -/
structure Likeness where
  journals : Journal → Journal → Prop
  halts : Halt → Halt → Prop
  /-- Whether listeners may be told different things. -/
  narration : Prop
  itself : ∀ h, halts h h
  /-- Both runs are interrupted, or they may be repeated together. -/
  kinds : ∀ h g, halts h g → h = .interrupted ∧ g = .interrupted ∨
    ∃ f f', h = .failed f ∧ g = .failed f' ∧ f.isTransient = f'.isTransient
  elapsed : ∀ j k, journals j k → j.elapsed = k.elapsed
  said : ∀ j k lines, journals j k →
    journals { j with log := j.log ++ lines } { k with log := k.log ++ lines }
  counted : ∀ j k (f : Counters → Counters), journals j k →
    journals { j with counters := f j.counters } { k with counters := f k.counters }
  told : ∀ j k es fs, narration ∨ es = fs → journals j k →
    journals { j with events := j.events ++ es } { k with events := k.events ++ fs }
  waited : ∀ j k s, journals j k →
    journals { j with elapsed := j.elapsed.plus s, waits := j.waits ++ [s] }
      { k with elapsed := k.elapsed.plus s, waits := k.waits ++ [s] }

variable {α β γ δ : Type} {l : Likeness}

/-- Two ends: related values, or halts that belong together. -/
inductive Likeness.Ends (l : Likeness) (R : α → β → Prop) : Except Halt α → Except Halt β → Prop
  | ok {x : α} {y : β} (related : R x y) : Ends l R (.ok x) (.ok y)
  | error {h g : Halt} (halts : l.halts h g) : Ends l R (.error h) (.error g)

theorem Likeness.Ends.refl (l : Likeness) (r : Except Halt α) : l.Ends (· = ·) r r := by
  cases r with
  | ok x => exact .ok rfl
  | error h => exact .error (l.itself h)

namespace Act

variable {w v : World} {R : α → β → Prop} {Q : γ → δ → Prop} {a : Act α} {b : Act β}

/-- Two acts that begin with journals that belong together end in ends that do, with such journals. -/
def Alongside (l : Likeness) (w v : World) (R : α → β → Prop) (a : Act α) (b : Act β) : Prop :=
  ∀ j k, l.journals j k → l.Ends R (a w j).1 (b v k).1 ∧ l.journals (a w j).2 (b v k).2

/-- **Acts alongside each other, one after the other.** -/
theorem Alongside.bind {f : α → Act γ} {g : β → Act δ} (hab : Alongside l w v R a b)
    (hfg : ∀ x y, R x y → Alongside l w v Q (f x) (g y)) : Alongside l w v Q (a >>= f) (b >>= g) := by
  intro j k hj
  obtain ⟨hends, hjournals⟩ := hab j k hj
  cases ha : a w j with
  | mk r j' =>
    cases hb : b v k with
    | mk r' k' =>
      rw [ha, hb] at hends hjournals
      cases hends with
      | ok related =>
        rw [bind_of_ok ha, bind_of_ok hb]
        exact hfg _ _ related j' k' hjournals
      | error halts =>
        rw [bind_of_halt ha, bind_of_halt hb]
        exact ⟨.error halts, hjournals⟩

/-- Acts that end in the same values go on with the same value. -/
theorem Alongside.bind_same {a b : Act α} {f : α → Act γ} {g : α → Act δ}
    (hab : Alongside l w v (· = ·) a b) (hfg : ∀ x, Alongside l w v Q (f x) (g x)) :
    Alongside l w v Q (a >>= f) (b >>= g) :=
  hab.bind fun x _ hxy => hxy ▸ hfg x

theorem alongside_conclude {r : Except Halt α} {r' : Except Halt β} (h : l.Ends R r r') :
    Alongside l w v R (conclude r) (conclude r') := fun _ _ hj => ⟨h, hj⟩

theorem alongside_pure {x : α} {y : β} (h : R x y) : Alongside l w v R (pure x) (pure y) :=
  alongside_conclude (.ok h)

theorem alongside_fail (f : Failure) : Alongside l w v R (fail f) (fail f) :=
  alongside_conclude (.error (l.itself _))

theorem alongside_ofExcept (r : Except Failure α) :
    Alongside l w v (· = ·) (ofExcept r) (ofExcept r) := by
  cases r with
  | ok x => exact alongside_pure rfl
  | error f => exact alongside_fail f

theorem alongside_ofRun {f : World → Journal → α × Journal} {g : World → Journal → β × Journal}
    (h : ∀ j k, l.journals j k → R (f w j).1 (g v k).1 ∧ l.journals (f w j).2 (g v k).2) :
    Alongside l w v R (ofRun f) (ofRun g) := fun j k hj => ⟨.ok (h j k hj).1, (h j k hj).2⟩

theorem Alongside.settle (h : Alongside l w v R a b) : Alongside l w v (l.Ends R) a.settle b.settle :=
  alongside_ofRun h

theorem alongside_look {f : World → Journal → α} {g : World → Journal → β}
    (h : ∀ j k, l.journals j k → R (f w j) (g v k)) : Alongside l w v R (look f) (look g) :=
  alongside_ofRun fun j k hj => ⟨h j k hj, hj⟩

theorem alongside_note {f g : Journal → Journal}
    (h : ∀ j k, l.journals j k → l.journals (f j) (g k)) :
    Alongside l w v (· = ·) (note f) (note g) := alongside_ofRun fun j k hj => ⟨rfl, h j k hj⟩

theorem alongside_say (level : LogLevel) (message : String) :
    Alongside l w v (· = ·) (say level message) (say level message) :=
  alongside_note fun j k hj => l.said j k _ hj

theorem alongside_count (f : Counters → Counters) :
    Alongside l w v (· = ·) (count f) (count f) :=
  alongside_note fun j k hj => l.counted j k f hj

/-- A listener is told the same, unless that may differ. -/
theorem alongside_tell {narrated narrated' : Bool} (h : l.narration ∨ narrated = narrated')
    (e : CacheEvent) : Alongside l w v (· = ·) (tell narrated e) (tell narrated' e) := by
  refine alongside_note fun j k hj => ?_
  have told (narrated : Bool) (j : Journal) :
      (if narrated then { j with events := j.events ++ [e] } else j) =
        { j with events := j.events ++ if narrated then [e] else [] } := by
    cases narrated <;> simp
  rw [told narrated j, told narrated' k]
  exact l.told j k _ _ (h.imp id fun hsame => by rw [hsame]) hj

/-- A deadline interrupts both acts or neither. -/
theorem alongside_within (limit : Option Time.Span) (hdeadline : w.deadline = v.deadline)
    (h : ∀ deadline, Alongside l { w with deadline } { v with deadline } R a b) :
    Alongside l w v R (within limit a) (within limit b) := by
  cases limit with
  | none =>
    have hwhole := h w.deadline
    rw [show ({ v with deadline := w.deadline } : World) = v by rw [hdeadline]] at hwhole
    exact hwhole
  | some limit =>
    intro j k hj
    obtain ⟨hends, hjournals⟩ := h (some (j.elapsed.plus limit)) j k hj
    simp only [within, ← l.elapsed j k hj]
    refine ⟨?_, hjournals⟩
    generalize (a { w with deadline := some (j.elapsed.plus limit) } j).1 = r,
      (b { v with deadline := some (j.elapsed.plus limit) } k).1 = r' at hends
    cases hends with
    | ok related => exact .ok related
    | error halts =>
      obtain ⟨rfl, rfl⟩ | ⟨f, g, rfl, rfl, -⟩ := l.kinds _ _ halts
      · exact .error (l.itself _)
      · exact .error halts

/-- Acts that may be repeated are repeated together. -/
theorem alongside_retrying (p : RetryPolicy) (h : Alongside l w v R a b) (attempt : Nat) :
    Alongside l w v R (retrying p a attempt) (retrying p b attempt) := by
  intro j k hj
  have hturn := h j k hj
  rw [retrying, retrying]
  generalize a w j = x, b v k = y at hturn
  obtain ⟨r, j'⟩ := x
  obtain ⟨r', k'⟩ := y
  obtain ⟨hends, hjournals⟩ := hturn
  cases hends with
  | ok related => exact ⟨.ok related, hjournals⟩
  | error halts =>
    obtain ⟨rfl, rfl⟩ | ⟨f, g, rfl, rfl, htransient⟩ := l.kinds _ _ halts
    · exact ⟨.error halts, hjournals⟩
    · have hallows : p.allows attempt f = p.allows attempt g := by
        simp only [RetryPolicy.allows, htransient]
      simp only [hallows]
      split
      · have := (RetryPolicy.allows_iff.1 ‹_›).1
        exact alongside_retrying p h (attempt + 1) _ _ (l.waited j' k' _ hjournals)
      · exact ⟨.error halts, hjournals⟩
termination_by p.maxRetries - attempt

end Act

end ContentCache
