import ContentCache.Metadata.Client
import ContentCache.Proofs.Content
import ContentCache.Proofs.Http.Trail

/-!
# What makes no difference to an act

A server sees the requests before, a token source sees the questions before, and a clock sees the time
that has passed. Nobody sees the log, what a listener has been told, the counters or the waits. So acts
that begin with journals that agree in what is seen end in the same way, with such journals. Nor does a
server see the chunks in which content has passed by.

* `Journal.Alike`: journals that agree in what is seen.
* `Act.Ends`: how an act ends from all journals that are alike.
* `Act.Heedless`: an act to which nothing else makes a difference.
* `Http.Draft.Resembles`: requests that differ in nothing that a server sees.

Main statements: `Ends.bind` (two acts, one after the other), `Http.Client.send_heedless` and
`Metadata.Client.call_heedless`, and `Http.Client.send_chunks`.
-/

namespace ContentCache

/-! ## Journals -/

/-- Journals that agree in what servers, token sources and clocks see of them. -/
structure Journal.Alike (j k : Journal) : Prop where
  exchanges : j.exchanges = k.exchanges
  asked : j.asked = k.asked
  elapsed : j.elapsed = k.elapsed

namespace Journal.Alike

variable {j k l : Journal}

theorem trans (h : j.Alike k) (h' : k.Alike l) : j.Alike l :=
  ⟨h.exchanges.trans h'.exchanges, h.asked.trans h'.asked, h.elapsed.trans h'.elapsed⟩

theorem requests (h : j.Alike k) : j.requests = k.requests :=
  congrArg (List.map Exchange.request) h.exchanges

theorem now (h : j.Alike k) (w : World) : w.now j = w.now k := by
  unfold World.now
  rw [h.elapsed]

theorem isOver (h : j.Alike k) (w : World) : w.isOver j = w.isOver k := by
  unfold World.isOver
  rw [h.elapsed]

theorem atTime (h : j.Alike k) (t : Time.Span) : (j.atTime t).Alike (k.atTime t) :=
  ⟨h.exchanges, h.asked, rfl⟩

theorem record (h : j.Alike k) (e : Exchange) : (j.record e).Alike (k.record e) :=
  ⟨congrArg (· ++ [e]) h.exchanges, h.asked, h.elapsed⟩

end Journal.Alike

/-! ## Acts -/

namespace Act

variable {α β : Type} {w : World} {j k l : Journal}

/-- From a journal that is alike to `j` an act ends in `r`, with a journal that is alike to `k`. -/
def Ends (a : Act α) (w : World) (j : Journal) (r : Except Halt α) (k : Journal) : Prop :=
  ∀ j', j'.Alike j → ∃ k', a w j' = (r, k') ∧ k'.Alike k

/-- An act ends from journals that are alike as it ends from one of them. -/
def Heedless (a : Act α) (w : World) : Prop := ∀ j, a.Ends w j (a w j).1 (a w j).2

theorem Heedless.ends {a : Act α} {r : Except Halt α} (ha : a.Heedless w) (h : a w j = (r, k)) :
    a.Ends w j r k := by
  have hj := ha j
  rw [h] at hj
  exact hj

theorem ends_conclude (r : Except Halt α) : (conclude r).Ends w j r j :=
  fun j' hj => ⟨j', rfl, hj⟩

theorem ends_pure (x : α) : (pure x : Act α).Ends w j (.ok x) j := ends_conclude (.ok x)

/-- **Two acts, one after the other.** -/
theorem Ends.bind {a : Act α} {f : α → Act β} {x : α} {r : Except Halt β} (ha : a.Ends w j (.ok x) k)
    (hf : (f x).Ends w k r l) : (a >>= f).Ends w j r l := by
  intro j' hj
  obtain ⟨k', hk', hk⟩ := ha j' hj
  obtain ⟨l', hl', hl⟩ := hf k' hk
  exact ⟨l', (bind_of_ok hk').trans hl', hl⟩

theorem Ends.bind_halt {a : Act α} {f : α → Act β} {h : Halt} (ha : a.Ends w j (.error h) k) :
    (a >>= f).Ends w j (.error h) k := by
  intro j' hj
  obtain ⟨k', hk', hk⟩ := ha j' hj
  exact ⟨k', bind_of_halt hk', hk⟩

theorem Ends.settle {a : Act α} {r : Except Halt α} (ha : a.Ends w j r k) :
    a.settle.Ends w j (.ok r) k := by
  intro j' hj
  obtain ⟨k', hk', hk⟩ := ha j' hj
  exact ⟨k', by rw [settle_apply, hk'], hk⟩

/-- What is noted for nobody to see. -/
theorem Ends.after_note {g : Journal → Journal} {f : Unit → Act β} {r : Except Halt β}
    (hg : ∀ j, (g j).Alike j) (hf : (f ()).Ends w j r k) : (note g >>= f).Ends w j r k :=
  fun j' hj => hf (g j') ((hg j').trans hj)

theorem Ends.after_say {level : LogLevel} {message : String} {f : Unit → Act β} {r : Except Halt β}
    (hf : (f ()).Ends w j r k) : (say level message >>= f).Ends w j r k :=
  hf.after_note fun _ => ⟨rfl, rfl, rfl⟩

theorem Ends.after_tell {narrated : Bool} {e : CacheEvent} {f : Unit → Act β} {r : Except Halt β}
    (hf : (f ()).Ends w j r k) : (tell narrated e >>= f).Ends w j r k :=
  hf.after_note fun _ => by cases narrated <;> exact ⟨rfl, rfl, rfl⟩

theorem Ends.after_count {g : Counters → Counters} {f : Unit → Act β} {r : Except Halt β}
    (hf : (f ()).Ends w j r k) : (count g >>= f).Ends w j r k :=
  hf.after_note fun _ => ⟨rfl, rfl, rfl⟩

theorem Ends.after_look {g : World → Journal → α} {x : α} {f : α → Act β} {r : Except Halt β}
    (hg : ∀ j', j'.Alike j → g w j' = x) (hf : (f x).Ends w j r k) :
    (look g >>= f).Ends w j r k := by
  intro j' hj
  obtain ⟨k', hk', hk⟩ := hf j' hj
  refine ⟨k', ?_, hk⟩
  rw [← hk', ← hg j' hj]
  rfl

theorem heedless_conclude (r : Except Halt α) : (conclude r).Heedless w := fun _ => ends_conclude r

theorem heedless_ofExcept (e : Except Failure α) : (ofExcept e).Heedless w := by
  cases e with
  | ok x => exact heedless_conclude (.ok x)
  | error f => exact heedless_conclude (.error (.failed f))

theorem Heedless.bind {a : Act α} {f : α → Act β} (ha : a.Heedless w) (hf : ∀ x, (f x).Heedless w) :
    (a >>= f).Heedless w := by
  intro j
  cases hr : a w j with
  | mk r k =>
    have hj := ha.ends hr
    cases r with
    | error h =>
      rw [bind_of_halt hr]
      exact hj.bind_halt
    | ok x =>
      rw [bind_of_ok hr]
      exact hj.bind (hf x k)

end Act

/-! ## Requests -/

namespace Http.Client

variable {c : Client} {w : World} {j k : Journal}

theorem giveUp_alike (h : j.Alike k) (w : World) (last : Time.Span) :
    (giveUp w j last).1 = (giveUp w k last).1 ∧ (giveUp w j last).2.Alike (giveUp w k last).2 := by
  unfold giveUp
  split
  · split
    · exact ⟨rfl, h.atTime _⟩
    · exact ⟨rfl, h.atTime _⟩
  · exact ⟨rfl, h.atTime _⟩

theorem await_alike (h : j.Alike k) (c : Client) (w : World) (answer : Answer) :
    (c.await w answer j).1 = (c.await w answer k).1 ∧
      (c.await w answer j).2.Alike (c.await w answer k).2 := by
  cases answer with
  | dropped => exact ⟨rfl, h⟩
  | hangs =>
    simp only [await, h.elapsed]
    exact giveUp_alike h w _
  | reply after r =>
    simp only [await, h.elapsed, (h.atTime (k.elapsed.plus after)).isOver w]
    split
    · exact ⟨rfl, h.atTime _⟩
    · exact giveUp_alike h w _

theorem exchange_alike (h : j.Alike k) (c : Client) (purpose : Purpose) (hop : Nat) (d : Draft)
    (w : World) :
    (c.exchange purpose hop d w j).1 = (c.exchange purpose hop d w k).1 ∧
      (c.exchange purpose hop d w j).2.Alike (c.exchange purpose hop d w k).2 := by
  unfold exchange
  rw [h.isOver w, h.requests, h.elapsed]
  split
  · exact ⟨rfl, h⟩
  · split
    · exact ⟨rfl, h⟩
    · cases d.payload.draw with
      | mk taken body =>
        cases body with
        | none => exact ⟨rfl, h⟩
        | some body =>
          obtain ⟨hreaction, hjournal⟩ := await_alike (h.record
            ⟨purpose, hop, k.elapsed, d.request body, w.server.answer k.requests (d.request body)⟩) c w
            (w.server.answer k.requests (d.request body))
          exact ⟨congrArg (·, taken) hreaction, hjournal⟩

theorem follow_alike (c : Client) (purpose : Purpose) (first : Url) (w : World) (left hop : Nat)
    (d : Draft) (h : j.Alike k) :
    ∃ j', c.follow purpose first w left hop d j = ((c.follow purpose first w left hop d k).1, j') ∧
      j'.Alike (c.follow purpose first w left hop d k).2 := by
  have attempt {hop : Nat} {d : Draft} {j k k' : Journal} {x : Reaction × Stream} (h : j.Alike k)
      (he : c.exchange purpose hop d w k = (x, k')) :
      ∃ j', c.exchange purpose hop d w j = (x, j') ∧ j'.Alike k' := by
    obtain ⟨hx, hj⟩ := exchange_alike h c purpose hop d w
    rw [he] at hx hj
    exact ⟨(c.exchange purpose hop d w j).2, Prod.ext hx rfl, hj⟩
  -- Along the client's own recursion from one journal; the other one takes the same branches.
  fun_induction Client.follow c purpose first w left hop d k generalizing j with
  | case1 left hop d k taken k' he =>
    obtain ⟨j', he', hj⟩ := attempt h he
    exact ⟨j', by rw [follow, he'], hj⟩
  | case2 left hop d k taken k' he =>
    obtain ⟨j', he', hj⟩ := attempt h he
    exact ⟨j', by rw [follow, he'], hj⟩
  | case3 left hop d k r taken k' he hn =>
    obtain ⟨j', he', hj⟩ := attempt h he
    exact ⟨j', by rw [follow, he']; simp only [hn], hj⟩
  | case4 hop d k r taken k' he next hn =>
    obtain ⟨j', he', hj⟩ := attempt h he
    exact ⟨j', by rw [follow, he']; simp only [hn], hj⟩
  | case5 hop d k r taken k' he next left hn hw =>
    obtain ⟨j', he', hj⟩ := attempt h he
    exact ⟨j', by rw [follow, he']; simp only [hn, hw, if_true], hj⟩
  | case6 hop d k r taken k' he next left hn hw sent k'' hf ih =>
    obtain ⟨j', he', hj⟩ := attempt h he
    obtain ⟨j'', hf', hj'⟩ := ih hj
    rw [hf] at hf' hj'
    exact ⟨j'', by rw [follow, he']; simp only [hn, hw, Bool.false_eq_true, if_false, hf'], hj'⟩

/-- **Sending sees nothing of a journal but the requests and the time.** -/
theorem send_heedless (c : Client) (o : Order) (w : World) : (Act.ofRun (c.send o)).Heedless w := by
  intro j j' hj
  simp only [Act.ofRun_apply]
  unfold send
  cases o.draft with
  | error e => exact ⟨j', rfl, hj⟩
  | ok d =>
    obtain ⟨k', hk', hk⟩ := follow_alike c o.purpose d.url w mostRedirects 0 d hj
    exact ⟨k', by simp only [hk'], hk⟩

theorem ask_heedless (c : Client) (o : Order) (failure : ClientError → Failure) (w : World) :
    (c.ask o failure).Heedless w :=
  (c.send_heedless o w).bind fun _ => Act.heedless_conclude _

end Http.Client

/-! ## Chunks -/

namespace Http

/-- Drafts that differ in nothing that a server sees. -/
structure Draft.Resembles (d e : Draft) : Prop where
  url : d.url = e.url
  body : d.payload.draw.2 = e.payload.draw.2
  request : ∀ body, d.request body = e.request body
  next : ∀ keeps r, d.next? keeps r = e.next? keeps r

/-- The chunks of a body that passes by are not seen. -/
theorem Draft.resembles_of_chunks {d : Draft} {n : Nat} {s t : Stream} (hd : d.payload = .streamed n s)
    (hs : (drawItems n s).2 = (drawItems n t).2) :
    d.Resembles { d with payload := .streamed n t } where
  url := rfl
  body := by rw [hd]; exact hs
  request := by
    intro body
    simp [request, hd, Payload.length?]
  next := by
    intro keeps r
    unfold next?
    cases r.location with
    | none => rfl
    | some location =>
      simp only [hd, Payload.isStreamed, Option.bind_eq_bind, Option.bind_some]
      cases isMove keeps d.method r.status with
      | true => simp
      | false => simp

namespace Client

variable {d e : Draft}

theorem exchange_resembles (h : d.Resembles e) (c : Client) (purpose : Purpose) (hop : Nat)
    (w : World) (j : Journal) :
    (c.exchange purpose hop d w j).1.1 = (c.exchange purpose hop e w j).1.1 ∧
      (c.exchange purpose hop d w j).2 = (c.exchange purpose hop e w j).2 := by
  have hbody := h.body
  unfold exchange
  rw [h.url]
  split
  · exact ⟨rfl, rfl⟩
  · split
    · exact ⟨rfl, rfl⟩
    · cases hd : d.payload.draw with
      | mk taken body =>
        cases he : e.payload.draw with
        | mk taken' body' =>
          rw [hd, he] at hbody
          obtain rfl : body = body' := hbody
          cases body with
          | none => exact ⟨rfl, rfl⟩
          | some body =>
            simp [h.request]

theorem follow_resembles (h : d.Resembles e) (c : Client) (purpose : Purpose) (first : Url) (w : World)
    (left hop : Nat) (j : Journal) :
    (c.follow purpose first w left hop d j).1.delivery =
        (c.follow purpose first w left hop e j).1.delivery ∧
      (c.follow purpose first w left hop d j).2 = (c.follow purpose first w left hop e j).2 := by
  obtain ⟨hreaction, hjournal⟩ := exchange_resembles h c purpose hop w j
  unfold follow
  cases hd : c.exchange purpose hop d w j with
  | mk x k =>
    cases he : c.exchange purpose hop e w j with
    | mk x' k' =>
      rw [hd, he] at hreaction hjournal
      obtain ⟨reaction, taken⟩ := x
      obtain ⟨reaction', taken'⟩ := x'
      obtain rfl : reaction = reaction' := hreaction
      obtain rfl : k = k' := hjournal
      cases reaction with
      | interrupted | nothing => exact ⟨rfl, rfl⟩
      | reply r =>
        simp only [h.next]
        cases e.next? c.keepsMethod r with
        | none => exact ⟨rfl, rfl⟩
        | some next =>
          cases left with
          | zero => exact ⟨rfl, rfl⟩
          | succ left =>
            simp only
            split
            · exact ⟨rfl, rfl⟩
            · exact ⟨rfl, rfl⟩

/-- **A server does not see the chunks in which content passes.** -/
theorem send_chunks {o : Order} {n : Nat} {s t : Stream} (ho : o.payload = .streamed n s)
    (hs : (drawItems n s).2 = (drawItems n t).2) (c : Client) (w : World) (j : Journal) :
    (c.send o w j).1.delivery = (c.send { o with payload := .streamed n t } w j).1.delivery ∧
      (c.send o w j).2 = (c.send { o with payload := .streamed n t } w j).2 := by
  have hdraft : ({ o with payload := .streamed n t } : Order).draft =
      o.draft.map fun d => { d with payload := .streamed n t } := by
    unfold Order.draft
    cases Url.read o.url with
    | error f => rfl
    | ok url =>
      simp only
      split
      · rfl
      · split
        · rfl
        · split
          · rfl
          · rfl
  unfold send
  rw [hdraft]
  cases hd : o.draft with
  | error f => exact ⟨rfl, rfl⟩
  | ok d =>
    have hpayload : d.payload = .streamed n s := (Order.draft_ok hd).2.1.trans ho
    exact follow_resembles (Draft.resembles_of_chunks hpayload hs) c o.purpose d.url w mostRedirects 0 j

end Client

end Http

namespace Metadata.Client

variable {α : Type} {w : World}

theorem issueToken_heedless (c : Client) (force : Bool) (w : World) :
    (c.issueToken force).Heedless w := by
  intro j j' hj
  unfold issueToken
  rw [hj.asked]
  cases c.tokens.issue w.files j.asked force with
  | ok token => exact ⟨_, rfl, hj.exchanges, rfl, hj.elapsed⟩
  | error f => exact ⟨_, rfl, hj.exchanges, rfl, hj.elapsed⟩

theorem post_heedless (c : Client) (method : Method) (document : Json) (force : Bool) (w : World) :
    (c.post method document force).Heedless w :=
  (c.issueToken_heedless force w).bind fun _ => c.http.ask_heedless _ _ w

/-- **A metadata call sees nothing of a journal but the requests, the questions and the time.** -/
theorem call_heedless (c : Client) (method : Method) (request : Json) (decode : Json → Option α)
    (w : World) : (c.call method request decode).Heedless w := by
  refine (c.post_heedless method request false w).bind fun first => ?_
  split
  · exact (c.post_heedless method request true w).bind fun _ => Act.heedless_ofExcept _
  · exact Act.heedless_ofExcept _

end Metadata.Client

end ContentCache
