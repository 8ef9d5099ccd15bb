import ContentCache.Act

/-!
# What acts write into the journal

The journal only grows, so an act is described by what it adds to the journal and by its end. The
description does not speak of the journal that the act began with: it holds for every one.

* `Entries`: what is added to a journal. Entries of two acts are joined by `++`.
* `Journal.Gains`: one journal is another one with more entries. The time may have moved.
* `Act.Does`: whatever the journal was, what an act adds and its end are related in a given way.
* `Act.Quietly`: an act that tells nobody, counts nothing and does not wait between attempts.
* `Act.Openly`: an act that tells a listener, when there is one, and counts.

Main statements: `Does.bind` (two acts, one after the other), with `Quietly.bind` and
`Openly.after_quietly` for the two kinds of acts.
-/

namespace ContentCache

/-- What is added to a journal. -/
structure Entries where
  exchanges : List Exchange := []
  asked : List Bool := []
  log : List LogLine := []
  events : List CacheEvent := []
  /-- What becomes of the counters. -/
  counts : Counters → Counters := id
  waits : List Time.Span := []

namespace Entries

instance : Append Entries where
  append m n :=
    { exchanges := m.exchanges ++ n.exchanges, asked := m.asked ++ n.asked, log := m.log ++ n.log,
      events := m.events ++ n.events, counts := n.counts ∘ m.counts, waits := m.waits ++ n.waits }

@[simp] theorem exchanges_append (m n : Entries) :
    (m ++ n).exchanges = m.exchanges ++ n.exchanges := rfl
@[simp] theorem events_append (m n : Entries) : (m ++ n).events = m.events ++ n.events := rfl
@[simp] theorem counts_append (m n : Entries) : (m ++ n).counts = n.counts ∘ m.counts := rfl
@[simp] theorem waits_append (m n : Entries) : (m ++ n).waits = m.waits ++ n.waits := rfl

/-- Nobody was told, nothing was counted, and there was no wait between attempts. -/
structure Quiet (n : Entries) : Prop where
  events : n.events = []
  counts : n.counts = id
  waits : n.waits = []

theorem Quiet.append {m n : Entries} (hm : m.Quiet) (hn : n.Quiet) : (m ++ n).Quiet :=
  ⟨by simp [hm.events, hn.events], by simp [hm.counts, hn.counts], by simp [hm.waits, hn.waits]⟩

end Entries

/-- A journal is another one with more entries. -/
structure Journal.Gains (j k : Journal) (n : Entries) : Prop where
  exchanges : k.exchanges = j.exchanges ++ n.exchanges
  asked : k.asked = j.asked ++ n.asked
  log : k.log = j.log ++ n.log
  events : k.events = j.events ++ n.events
  counters : k.counters = n.counts j.counters
  waits : k.waits = j.waits ++ n.waits

theorem Journal.Gains.refl (j : Journal) : j.Gains j {} := by
  constructor <;> simp

theorem Journal.Gains.trans {j k l : Journal} {m n : Entries} (h : j.Gains k m) (h' : k.Gains l n) :
    j.Gains l (m ++ n) where
  exchanges := by rw [h'.exchanges, h.exchanges]; exact List.append_assoc ..
  asked := by rw [h'.asked, h.asked]; exact List.append_assoc ..
  log := by rw [h'.log, h.log]; exact List.append_assoc ..
  events := by rw [h'.events, h.events]; exact List.append_assoc ..
  counters := by rw [h'.counters, h.counters]; rfl
  waits := by rw [h'.waits, h.waits]; exact List.append_assoc ..

/-! ## Ends that are computed -/

theorem eq_ok_of_toOption {ε α : Type} {r : Except ε α} {a : α} (h : r.toOption = some a) :
    r = .ok a := by
  cases r with
  | ok b => exact congrArg _ (Option.some.inj h)
  | error e => cases h

theorem eq_of_toOption {ε α β : Type} {x : Except ε α × β} {a : α} (h : x.1.toOption = some a) :
    x = (.ok a, x.2) :=
  Prod.ext (eq_ok_of_toOption h) rfl

namespace Act

variable {α β : Type} {w : World}

/-- What an act adds and its end are related by `P`, whatever the journal was. -/
def Does (a : Act α) (w : World) (P : Entries → Except Halt α → Prop) : Prop :=
  ∀ j, ∃ n, j.Gains (a w j).2 n ∧ P n (a w j).1

/-- The exchanges of an act and its end are related by `P`, and nothing else is seen of it. -/
def Quietly (a : Act α) (w : World) (P : List Exchange → Except Halt α → Prop) : Prop :=
  a.Does w fun n r => n.Quiet ∧ P n.exchanges r

/-! ## Single steps -/

theorem Does.mono {a : Act α} {P Q : Entries → Except Halt α → Prop} (h : a.Does w P)
    (hPQ : ∀ n r, P n r → Q n r) : a.Does w Q := by
  intro j
  obtain ⟨n, hg, hp⟩ := h j
  exact ⟨n, hg, hPQ n _ hp⟩

theorem Quietly.mono {a : Act α} {P Q : List Exchange → Except Halt α → Prop} (h : a.Quietly w P)
    (hPQ : ∀ es r, P es r → Q es r) : a.Quietly w Q :=
  Does.mono h fun _ _ hn => ⟨hn.1, hPQ _ _ hn.2⟩

/-- An act that leaves the journal as it is. -/
theorem quietly_conclude (r : Except Halt α) {P : List Exchange → Except Halt α → Prop}
    (h : P [] r) : (conclude r).Quietly w P :=
  fun j => ⟨{}, .refl j, ⟨rfl, rfl, rfl⟩, h⟩

theorem quietly_pure (x : α) {P : List Exchange → Except Halt α → Prop} (h : P [] (.ok x)) :
    (pure x : Act α).Quietly w P :=
  quietly_conclude (.ok x) h

theorem quietly_fail (f : Failure) {P : List Exchange → Except Halt α → Prop}
    (h : P [] (.error (.failed f))) : (fail f : Act α).Quietly w P :=
  quietly_conclude _ h

theorem quietly_ofExcept (e : Except Failure α) {P : List Exchange → Except Halt α → Prop}
    (h : P [] (e.mapError .failed)) : (ofExcept e).Quietly w P := by
  cases e with
  | ok x => exact quietly_pure x h
  | error f => exact quietly_fail f h

theorem quietly_say (level : LogLevel) (message : String)
    {P : List Exchange → Except Halt Unit → Prop} (h : P [] (.ok ())) :
    (say level message).Quietly w P :=
  fun j => ⟨{ log := [⟨level, message⟩] }, by constructor <;> simp [say, note], ⟨rfl, rfl, rfl⟩, h⟩

/-! ## One act after the other -/

/-- A value is gone on with. -/
theorem conclude_ok_bind (x : α) (f : α → Act β) : conclude (.ok x) >>= f = f x := rfl

theorem ofExcept_ok_bind (x : α) (f : α → Act β) : ofExcept (.ok x) >>= f = f x := rfl

/-- **Two acts, one after the other**: a halt of the first one is the end, and else what the second
one adds comes behind what the first one has added. -/
theorem Does.bind {a : Act α} {f : α → Act β} {P : Entries → Except Halt α → Prop}
    {R : Entries → Except Halt β → Prop} (ha : a.Does w P)
    (halt : ∀ n h, P n (.error h) → R n (.error h))
    (next : ∀ n x, P n (.ok x) → (f x).Does w fun m r => R (n ++ m) r) :
    (a >>= f).Does w R := by
  intro j
  obtain ⟨n, hg, hp⟩ := ha j
  cases hr : a w j with
  | mk r k =>
    rw [hr] at hg hp
    cases r with
    | error h => rw [bind_of_halt hr]; exact ⟨n, hg, halt n h hp⟩
    | ok x =>
      rw [bind_of_ok hr]
      obtain ⟨m, hg', hq⟩ := next n x hp k
      exact ⟨n ++ m, hg.trans hg', hq⟩

theorem Quietly.bind {a : Act α} {f : α → Act β} {P : List Exchange → Except Halt α → Prop}
    {R : List Exchange → Except Halt β → Prop} (ha : a.Quietly w P)
    (halt : ∀ es h, P es (.error h) → R es (.error h))
    (next : ∀ es x, P es (.ok x) → (f x).Quietly w fun fs r => R (es ++ fs) r) :
    (a >>= f).Quietly w R :=
  Does.bind ha (fun _ h hn => ⟨hn.1, halt _ h hn.2⟩) fun _ x hn =>
    Does.mono (next _ x hn.2) fun _ _ hm => ⟨hn.1.append hm.1, hm.2⟩

/-- An act that cannot come to a halt is always gone on with. -/
theorem Quietly.bind_total {a : Act α} {f : α → Act β} {P : List Exchange → α → Prop}
    {R : List Exchange → Except Halt β → Prop}
    (ha : a.Quietly w fun es r => ∃ x, r = .ok x ∧ P es x)
    (next : ∀ es x, P es x → (f x).Quietly w fun fs r => R (es ++ fs) r) :
    (a >>= f).Quietly w R := by
  refine ha.bind (fun es h hn => ?_) fun es x hn => ?_
  · obtain ⟨_, hx, _⟩ := hn
    cases hx
  · obtain ⟨y, hx, hp⟩ := hn
    obtain rfl := Except.ok.inj hx
    exact next es x hp

/-- A line of the log goes unseen. -/
theorem Quietly.after_say {level : LogLevel} {message : String} {f : Unit → Act α}
    {P : List Exchange → Except Halt α → Prop} (h : (f ()).Quietly w P) :
    (say level message >>= f).Quietly w P :=
  (quietly_say level message (P := fun es r => ∃ x, r = .ok x ∧ es = []) ⟨(), rfl, rfl⟩).bind_total
    fun _ _ hn => by rw [hn]; exact h

/-- Looking leaves the journal as it is. -/
theorem Quietly.after_look {g : World → Journal → β} {f : β → Act α}
    {P : List Exchange → Except Halt α → Prop} (h : ∀ j, (f (g w j)).Quietly w P) :
    (look g >>= f).Quietly w P :=
  fun j => h j j

/-- Settling keeps what is added and makes the end a value. -/
theorem Quietly.settle {a : Act α} {P : List Exchange → Except Halt α → Prop} (h : a.Quietly w P) :
    a.settle.Quietly w fun es r => ∃ x, r = .ok x ∧ P es x := by
  intro j
  obtain ⟨n, hg, hq, hp⟩ := h j
  exact ⟨n, hg, hq, _, rfl, hp⟩

/-! ## Acts that are told about and counted -/

/-- The events that a listener gets, when there is one. -/
def told (narrated : Bool) (events : List CacheEvent) : List CacheEvent :=
  if narrated then events else []

theorem told_append (narrated : Bool) (a b : List CacheEvent) :
    told narrated (a ++ b) = told narrated a ++ told narrated b := by
  cases narrated <;> rfl

/-- The exchanges of an act, the steps that a listener may be told about, what becomes of the counters
and the end are related by `P`, and the act does not wait between attempts. -/
def Openly (a : Act α) (w : World) (narrated : Bool)
    (P : List Exchange → List CacheEvent → (Counters → Counters) → Except Halt α → Prop) : Prop :=
  a.Does w fun n r => n.waits = [] ∧ ∃ steps, n.events = told narrated steps ∧
    P n.exchanges steps n.counts r

variable {narrated : Bool}
  {P Q : List Exchange → List CacheEvent → (Counters → Counters) → Except Halt β → Prop}

theorem Openly.mono {a : Act β} (h : a.Openly w narrated P)
    (hPQ : ∀ es steps k r, P es steps k r → Q es steps k r) : a.Openly w narrated Q :=
  Does.mono h fun _ _ ⟨hw, steps, he, hp⟩ => ⟨hw, steps, he, hPQ _ _ _ _ hp⟩

theorem Openly.after_tell {e : CacheEvent} {f : Unit → Act β}
    (h : (f ()).Openly w narrated fun es steps k r => P es (e :: steps) k r) :
    (tell narrated e >>= f).Openly w narrated P := by
  have step : (tell narrated e).Does w fun n r => r = .ok () ∧ n = { events := told narrated [e] } :=
    fun j => ⟨_, by constructor <;> cases narrated <;> simp [tell, note, told], rfl, rfl⟩
  refine step.bind (fun _ _ hn => nomatch hn.1) ?_
  rintro _ _ ⟨-, rfl⟩
  refine Does.mono h ?_
  rintro n r ⟨hw, steps, he, hp⟩
  exact ⟨hw, e :: steps, by rw [Entries.events_append, he, ← told_append]; rfl, hp⟩

theorem Openly.after_count {g : Counters → Counters} {f : Unit → Act β}
    (h : (f ()).Openly w narrated fun es steps k r => P es steps (k ∘ g) r) :
    (count g >>= f).Openly w narrated P := by
  have step : (count g).Does w fun n r => r = .ok () ∧ n = { counts := g } :=
    fun j => ⟨_, by constructor <;> simp [count, note], rfl, rfl⟩
  refine step.bind (fun _ _ hn => nomatch hn.1) ?_
  rintro _ _ ⟨-, rfl⟩
  exact h

theorem Openly.after_look {g : World → Journal → α} {f : α → Act β}
    (h : ∀ j, (f (g w j)).Openly w narrated P) : (look g >>= f).Openly w narrated P :=
  fun j => h j j

/-- An act of which only its exchanges are seen, before another one. -/
theorem Openly.after_quietly {a : Act α} {f : α → Act β} {Q : List Exchange → Except Halt α → Prop}
    (ha : a.Quietly w Q) (halt : ∀ es h, Q es (.error h) → P es [] id (.error h))
    (next : ∀ es x, Q es (.ok x) →
      (f x).Openly w narrated fun fs steps k r => P (es ++ fs) steps k r) :
    (a >>= f).Openly w narrated P := by
  refine Does.bind ha ?_ ?_
  · rintro n h ⟨hn, hq⟩
    exact ⟨hn.waits, [], by simp [hn.events, told], by rw [hn.counts]; exact halt _ h hq⟩
  · rintro n x ⟨hn, hq⟩
    refine Does.mono (next _ x hq) ?_
    rintro m r ⟨hw, steps, he, hp⟩
    exact ⟨by simp [hn.waits, hw], steps, by simp [hn.events, he],
      by rw [Entries.counts_append, hn.counts]; exact hp⟩

/-- An act that does nothing more. -/
theorem openly_conclude (r : Except Halt β) (h : P [] [] id r) :
    (conclude r).Openly w narrated P :=
  fun j => ⟨{}, .refl j, rfl, [], by simp [told], h⟩

end Act

end ContentCache
