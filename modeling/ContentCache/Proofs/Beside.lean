import Mathlib.Data.List.Induction
import ContentCache.Http.Client
import ContentCache.Proofs.Alongside

/-!
# Runs side by side

Two runs begin in one world, with settings that differ in little, and are put beside each other. A leeway
says in what they may differ: in the credentials of requests for some purposes, as long as redirects stay at
the host that the credentials are for, and in what a listener is told. In everything else they have to
agree, step by step, and they have to end in the same way.

* `Http.IsBearer`: credentials that are a bearer token.
* `StaysAtHost`: redirects have not led to another host or port.
* `Leeway`: what two runs may differ in.
* `Exchanged`, `Journal.Agrees`: what they leave, as far as a leeway goes.
* `Http.Server.Indifferent`: a server that makes no difference between such runs.
* `Leeway.likeness`, `Act.Beside`: two acts that end in the same way, with journals that agree.

Main statement: `Leeway.eq_of_ends` (what ends alongside each other with a leeway ends in the same way).
-/

namespace ContentCache

/-! ## Requests -/

namespace Http

/-- Credentials that are a bearer token, as they arrive. -/
def IsBearer (authorization : Option String) : Prop :=
  ∃ token, authorization = some (fieldValue (bearerCredentials token))

/-- A request without its credentials. -/
def Request.anonymous (r : Request) : Request := { r with authorization := none }

end Http

/-- An exchange without the credentials of its request. -/
def Exchange.anonymous (e : Exchange) : Exchange := { e with request := e.request.anonymous }

/-- The last of some exchanges is no redirect, or all redirects that have led to it have stayed at one host
and port. -/
inductive StaysAtHost : List Exchange → Prop
  | first {front : List Exchange} {e : Exchange} (hop : e.hop = 0) : StaysAtHost (front ++ [e])
  | redirected {front : List Exchange} {e f : Exchange} (before : StaysAtHost (front ++ [e]))
      (hop : f.hop = e.hop + 1) (purpose : f.purpose = e.purpose)
      (same : Http.sameOrigin f.request.url e.request.url = true) : StaysAtHost (front ++ [e] ++ [f])

/-! ## What two runs may differ in -/

/-- What two runs may differ in. -/
structure Leeway where
  /-- Purposes of requests that may differ in their credentials. -/
  free : Purpose → Prop
  /-- What holds of the exchanges that the runs have in common. -/
  common : Exchange → Prop
  /-- Only calls of the metadata service may carry a bearer token. -/
  plain : ∀ e, (∃ method, e.purpose = .call method) ∨ ¬ Http.IsBearer e.request.authorization → common e
  /-- Whether listeners may be told different things. -/
  narration : Prop

variable {L : Leeway}

/-- What two runs have exchanged, one thing after the other: something in common, or requests that are the
same but for the credentials of each run. -/
inductive Exchanged (L : Leeway) : List Exchange → List Exchange → Prop
  | nil : Exchanged L [] []
  | common {es fs : List Exchange} {e : Exchange} (before : Exchanged L es fs) (common : L.common e) :
      Exchanged L (es ++ [e]) (fs ++ [e])
  | free {es fs : List Exchange} {e f : Exchange} (before : Exchanged L es fs)
      (free : L.free e.purpose) (stays : StaysAtHost (es ++ [e])) (same : e.anonymous = f.anonymous) :
      Exchanged L (es ++ [e]) (fs ++ [f])

/-- The exchanges are the same but for credentials. -/
theorem Exchanged.anonymous {es fs : List Exchange} (h : Exchanged L es fs) :
    es.map Exchange.anonymous = fs.map Exchange.anonymous := by
  induction h with
  | nil => rfl
  | common _ _ ih => rw [List.map_append, List.map_append, ih]
  | free _ _ _ same ih => rw [List.map_append, List.map_append, ih, List.map_singleton, same]; rfl

/-- A run has exchanged the same as itself. -/
theorem exchanged_refl (h : ∀ e, L.common e) (es : List Exchange) : Exchanged L es es := by
  induction es using List.reverseRecOn with
  | nil => exact .nil
  | append_singleton es e ih => exact .common ih (h e)

/-- A server that makes no difference between two runs. -/
def Http.Server.Indifferent (s : Server) (L : Leeway) : Prop :=
  ∀ es fs, Exchanged L es fs → ∀ (purpose : Purpose) (r r' : Request),
    r = r' ∨ (r.anonymous = r'.anonymous ∧ L.free purpose) →
    s.answer (es.map Exchange.request) r = s.answer (fs.map Exchange.request) r'

/-! ## Journals -/

/-- What two runs have left agrees. -/
structure Journal.Agrees (L : Leeway) (j k : Journal) : Prop where
  elapsed : j.elapsed = k.elapsed
  exchanges : Exchanged L j.exchanges k.exchanges
  asked : j.asked = k.asked
  log : j.log = k.log
  events : L.narration ∨ j.events = k.events
  counters : j.counters = k.counters
  waits : j.waits = k.waits

namespace Journal.Agrees

variable {j k : Journal}

theorem atTime (h : j.Agrees L k) (t : Time.Span) : (j.atTime t).Agrees L (k.atTime t) :=
  { h with elapsed := rfl }

theorem record (h : j.Agrees L k) {e f : Exchange}
    (hef : Exchanged L (j.exchanges ++ [e]) (k.exchanges ++ [f])) :
    (j.record e).Agrees L (k.record f) :=
  { h with exchanges := hef }

theorem now (h : j.Agrees L k) (w : World) : w.now j = w.now k := by
  unfold World.now
  rw [h.elapsed]

theorem isOver (h : j.Agrees L k) (w : World) : w.isOver j = w.isOver k := by
  unfold World.isOver
  rw [h.elapsed]

end Journal.Agrees

/-! ## Acts -/

/-- Runs that end in the same way, with journals that agree. -/
def Leeway.likeness (L : Leeway) : Likeness where
  journals := Journal.Agrees L
  halts := (· = ·)
  narration := L.narration
  itself _ := rfl
  kinds := by
    rintro h _ rfl
    cases h with
    | interrupted => exact .inl ⟨rfl, rfl⟩
    | failed f => exact .inr ⟨f, f, rfl, rfl, rfl⟩
  elapsed _ _ hj := hj.elapsed
  said _ _ _ hj := { hj with log := congrArg (· ++ _) hj.log }
  counted _ _ f hj := { hj with counters := congrArg f hj.counters }
  told _ _ _ _ hes hj :=
    { hj with events := hj.events.elim .inl fun hsame => hes.imp id fun hes => by rw [hsame, hes] }
  waited _ _ s hj :=
    { hj with elapsed := congrArg (·.plus s) hj.elapsed, waits := congrArg (· ++ [s]) hj.waits }

/-- Ends of such runs are the same. -/
theorem Leeway.eq_of_ends {α : Type} {r r' : Except Halt α} (h : L.likeness.Ends (· = ·) r r') :
    r = r' := by
  cases h with
  | ok related => exact congrArg _ related
  | error halts => exact congrArg _ halts

namespace Act

variable {α : Type} {w : World} {a b : Act α}

/-- Two acts that begin with journals that agree end in the same way, with journals that agree. -/
abbrev Beside (L : Leeway) (w : World) (a b : Act α) : Prop := Alongside L.likeness w w (· = ·) a b

theorem Beside.same (h : Beside L w a b) {j k : Journal} (hj : j.Agrees L k) :
    (a w j).1 = (b w k).1 ∧ (a w j).2.Agrees L (b w k).2 :=
  ⟨L.eq_of_ends (h j k hj).1, (h j k hj).2⟩

theorem beside_of_same
    (h : ∀ j k, j.Agrees L k → (a w j).1 = (b w k).1 ∧ (a w j).2.Agrees L (b w k).2) :
    Beside L w a b := fun j k hj => ⟨(h j k hj).1 ▸ .refl _ _, (h j k hj).2⟩

/-- The end of an act beside another one is the same. -/
theorem Beside.settle_same (h : Beside L w a b) : Beside L w a.settle b.settle :=
  alongside_ofRun fun _ _ hj => h.same hj

end Act

end ContentCache
