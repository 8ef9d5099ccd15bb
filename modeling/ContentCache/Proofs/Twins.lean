import Mathlib.Data.List.Forall2
import ContentCache.Proofs.Alongside
import ContentCache.Proofs.Url.Marking
import ContentCache.Store

/-!
# Worlds that differ in signatures only

A metadata service hands out signed URLs, and the signature stands in the query. Here two worlds are put
beside each other in which everything is the same but what stands after the first question mark of these
URLs, and the object store makes no difference between them. What happens in one world then has a twin in
the other one: a request that differs in nothing but such a URL, and a journal that differs in nothing
but such requests.

* `SignedPairs`: the signed URLs of the two worlds, side by side.
* `Http.Server.Twin`, `World.Twin`: what the worlds have in common.
* `Journal.Twin`: what has been observed in them.
* `Halt.Twin`: failures that differ in nothing but the URL that a client has failed to get an answer from.
* `SignedPairs.likeness`, `Act.Pairs`: two acts, one in each of the worlds, with ends that are related.

Main statement: `SignedTwice.read` (the signature is read into query and fragment).
-/

namespace ContentCache

/-! ## Signed URLs -/

/-- A URL as a server sees it. -/
def Url.asked (u : Url) : Url := u.withoutUser.withoutFragment

/-- A URL signed twice: the texts differ after the first question mark only, and a request can be made of
both or of neither, as far as their length goes. -/
structure SignedTwice (s t : String) : Prop where
  left : '?' ∈ s.toList
  right : '?' ∈ t.toList
  front : unsigned s = unsigned t
  address : ∀ u v, Url.read s = .ok u → Url.read t = .ok v →
    Http.isAddress (Http.Target.ofUrl u).url = Http.isAddress (Http.Target.ofUrl v).url

theorem takeWhile_append_mark {cs : List Char} (h : '?' ∈ cs) :
    ∃ query, cs = cs.takeWhile (· ≠ '?') ++ '?' :: query := by
  induction cs with
  | nil => simp at h
  | cons c cs ih =>
    by_cases hc : c = '?'
    · subst hc
      exact ⟨cs, by simp⟩
    · obtain ⟨query, hquery⟩ := ih (by simpa [Ne.symm hc] using h)
      exact ⟨query, by simpa [hc] using hquery⟩

/-- The signature is read into query and fragment. -/
theorem SignedTwice.read {s t : String} (h : SignedTwice s t) :
    (Url.read s).map Url.bare = (Url.read t).map Url.bare := by
  obtain ⟨a, ha⟩ := takeWhile_append_mark h.left
  obtain ⟨b, hb⟩ := takeWhile_append_mark h.right
  have hfront : s.toList.takeWhile (· ≠ '?') = t.toList.takeWhile (· ≠ '?') :=
    String.ofList_injective h.front
  have hs : s = String.ofList (s.toList.takeWhile (· ≠ '?') ++ '?' :: a) := by rw [← ha]; simp
  have ht : t = String.ofList (s.toList.takeWhile (· ≠ '?') ++ '?' :: b) := by rw [hfront, ← hb]; simp
  rw [hs, ht]
  exact Url.read_mark _ a b

/-- The signed URLs of one world beside those of the other one. -/
structure SignedPairs where
  Pair : String → String → Prop
  signedTwice : ∀ s t, Pair s t → SignedTwice s t

/-- One URL, or a signed one and its twin. -/
def SignedPairs.Same (S : SignedPairs) (s t : String) : Prop := s = t ∨ S.Pair s t

theorem SignedPairs.Same.unsigned {S : SignedPairs} {s t : String} (h : S.Same s t) :
    unsigned s = unsigned t := by
  obtain rfl | pair := h
  · rfl
  · exact (S.signedTwice s t pair).front

/-! ## What is handed out -/

namespace Metadata

def WriteLocation.Twin (S : SignedPairs) (l m : WriteLocation) : Prop :=
  S.Same l.url m.url ∧ l.uploadId = m.uploadId

def ReadLocation.Twin (S : SignedPairs) (l m : ReadLocation) : Prop :=
  S.Same l.url m.url ∧ l.artifact = m.artifact

/-- Answers of success that are understood alike but for the signed URL that they hand out. -/
structure Hands (S : SignedPairs) (x y : Http.Reply) : Prop where
  status : x.status = y.status
  success : Http.isSuccess x.status = true
  write : Option.Rel (WriteLocation.Twin S)
    ((Client.document? x.response).bind WriteLocation.ofDocument?)
    ((Client.document? y.response).bind WriteLocation.ofDocument?)
  read : Option.Rel (ReadLocation.Twin S)
    ((Client.document? x.response).bind ReadLocation.ofDocument?)
    ((Client.document? y.response).bind ReadLocation.ofDocument?)
  sealed : (Client.document? x.response).bind sealedOfDocument? =
    (Client.document? y.response).bind sealedOfDocument?
  listed : (Client.document? x.response).bind listedOfDocument? =
    (Client.document? y.response).bind listedOfDocument?

end Metadata

/-! ## Servers -/

namespace Http

/-- One request, or requests for a signed URL and for its twin. Nobody posts to a signed URL. -/
inductive Request.Twin (S : SignedPairs) : Request → Request → Prop
  | same (r : Request) : Twin S r r
  | signed {r : Request} {s t : String} {u v : Url} (posted : r.method ≠ .post) (pair : S.Pair s t)
      (left : Url.read s = .ok u) (right : Url.read t = .ok v) :
      Twin S { r with url := u.asked } { r with url := v.asked }

/-- Whether a redirect leads from a URL to one that a request can be made of. -/
def leads (u : Url) (location : String) : Bool :=
  match Url.readFrom u location with
  | .ok x => isAddress x
  | .error _ => false

/-- What twin servers do about twin requests: the same, but that the answer to a call of the metadata
service may hand out another signed URL. A redirect of a signed URL can be followed from its twin too. -/
inductive Answer.Twin (S : SignedPairs) : Request → Request → Answer → Answer → Prop
  | same (r : Request) (a : Answer) : Twin S r r a a
  | handed {r : Request} {after : Time.Span} {x y : Reply} (posted : r.method = .post)
      (hands : Metadata.Hands S x y) : Twin S r r (.reply after x) (.reply after y)
  | signed {r r' : Request} {a : Answer}
      (leads : ∀ after x location u v, a = .reply after x → x.location = some location →
        u.asked = r.url → v.asked = r'.url → u.bare = v.bare →
        leads u location = leads v location) : Twin S r r' a a

def Server.Twin (S : SignedPairs) (a b : Server) : Prop :=
  ∀ before before' r r', List.Forall₂ (Request.Twin S) before before' → r.Twin S r' →
    Answer.Twin S r r' (a.answer before r) (b.answer before' r')

end Http

/-! ## Worlds and journals -/

/-- Worlds that are the same but for their servers, which are twins. -/
structure World.Twin (S : SignedPairs) (w v : World) : Prop where
  server : w.server.Twin S v.server
  listening : w.listening = v.listening
  encrypting : w.encrypting = v.encrypting
  files : w.files = v.files
  spool : w.spool = v.spool
  spill : w.spill = v.spill
  clock : w.clock = v.clock
  deadline : w.deadline = v.deadline

structure Exchange.Twin (S : SignedPairs) (e f : Exchange) : Prop where
  purpose : e.purpose = f.purpose
  hop : e.hop = f.hop
  moment : e.moment = f.moment
  request : e.request.Twin S f.request
  answer : Http.Answer.Twin S e.request f.request e.answer f.answer

/-- Journals that are the same but for their exchanges, which are twins one by one. -/
structure Journal.Twin (S : SignedPairs) (j k : Journal) : Prop where
  elapsed : j.elapsed = k.elapsed
  exchanges : List.Forall₂ (Exchange.Twin S) j.exchanges k.exchanges
  asked : j.asked = k.asked
  log : j.log = k.log
  events : j.events = k.events
  counters : j.counters = k.counters
  waits : j.waits = k.waits

section

variable {S : SignedPairs} {w v : World} {j k : Journal}

theorem Journal.Twin.requests (h : j.Twin S k) :
    List.Forall₂ (Http.Request.Twin S) j.requests k.requests := by
  unfold Journal.requests
  rw [List.forall₂_map_left_iff, List.forall₂_map_right_iff]
  exact h.exchanges.imp fun _ _ he => he.request

theorem Journal.Twin.atTime (h : j.Twin S k) (t : Time.Span) : (j.atTime t).Twin S (k.atTime t) :=
  { h with elapsed := rfl }

theorem Journal.Twin.record (h : j.Twin S k) {e f : Exchange} (he : e.Twin S f) :
    (j.record e).Twin S (k.record f) :=
  { h with exchanges := List.rel_append h.exchanges (.cons he .nil) }

theorem World.Twin.isOver (h : w.Twin S v) (hj : j.Twin S k) : w.isOver j = v.isOver k := by
  unfold World.isOver
  rw [h.deadline, hj.elapsed]

theorem World.Twin.newSpool (h : w.Twin S v) (directory : Option String) :
    w.newSpool directory = v.newSpool directory := by
  unfold World.newSpool
  rw [h.files, h.spool]

theorem World.Twin.spillFile (h : w.Twin S v) (directory : Option String) :
    w.spillFile directory = v.spillFile directory := by
  unfold World.spillFile
  rw [h.files, h.spill]

theorem World.Twin.now (h : w.Twin S v) (hj : j.Twin S k) : w.now j = v.now k := by
  unfold World.now
  rw [h.clock, hj.elapsed]

end

/-! ## Failures -/

/-- A client's error without query and fragment of the URL that it tells. -/
def Http.ClientError.bare : Http.ClientError → Http.ClientError
  | .unusable url => .unusable (url.map Url.bare)
  | .unanswered url => .unanswered url.bare
  | .tooManyRedirects url => .tooManyRedirects url.bare

/-- One end, or the failures of transfers that got no answer, for a signed URL and for its twin. -/
inductive Halt.Twin : Halt → Halt → Prop
  | same (h : Halt) : Twin h h
  | unanswered (operation : String) {e f : Http.ClientError} (bare : e.bare = f.bare) :
      Twin (.failed (Transfer.unanswered operation e)) (.failed (Transfer.unanswered operation f))

/-- Twins are interrupted together, or may be repeated together. -/
theorem Halt.Twin.kinds {h g : Halt} (twin : h.Twin g) :
    h = .interrupted ∧ g = .interrupted ∨
      ∃ f f', h = .failed f ∧ g = .failed f' ∧ f.isTransient = f'.isTransient := by
  cases twin with
  | same =>
    cases h with
    | interrupted => exact .inl ⟨rfl, rfl⟩
    | failed f => exact .inr ⟨f, f, rfl, rfl, rfl⟩
  | unanswered operation bare => exact .inr ⟨_, _, rfl, rfl, rfl⟩

/-! ## Acts -/

/-- Runs whose journals are twins, and whose failures are. -/
def SignedPairs.likeness (S : SignedPairs) : Likeness where
  journals := Journal.Twin S
  halts := Halt.Twin
  narration := False
  itself := .same
  kinds _ _ twin := twin.kinds
  elapsed _ _ hj := hj.elapsed
  said _ _ _ hj := { hj with log := congrArg (· ++ _) hj.log }
  counted _ _ f hj := { hj with counters := congrArg f hj.counters }
  told _ _ _ _ hes hj := { hj with events := by rw [hj.events, hes.resolve_left id] }
  waited _ _ s hj :=
    { hj with elapsed := congrArg (·.plus s) hj.elapsed, waits := congrArg (· ++ [s]) hj.waits }

/-- Two acts that begin with twin journals end in a related way, with twin journals. -/
abbrev Act.Pairs {α β : Type} (S : SignedPairs) (w v : World) (R : α → β → Prop) (a : Act α)
    (b : Act β) : Prop := Act.Alongside S.likeness w v R a b

end ContentCache
