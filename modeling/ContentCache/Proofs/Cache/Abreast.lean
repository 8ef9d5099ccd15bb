import ContentCache.Cache
import ContentCache.Proofs.Http.Credentials

/-!
# Calls side by side

Two caches that differ in nothing but their tokens, with listeners that are told different things or one
of them nothing, work side by side: whatever is asked of them ends in the same way, and what they leave
agrees as far as the leeway goes.

* `Cache.withTokens`: a cache with another source of tokens.
* `TokenSource.Agrees`: sources that give the same, or tokens of which each can be sent.

Main statements: `post_beside` (where the tokens differ), and `upload_beside`, `resolve_beside`,
`copy_beside` and `copyRetrying_beside` for all that a cache can be asked for.
-/

namespace ContentCache

open Act (Beside)

variable {L : Leeway} {w : World} {tokens : TokenSource}

/-- Two sources give the same, or tokens of which each can be sent, when credentials of calls may differ. -/
def TokenSource.Agrees (L : Leeway) (files : Files) (s t : TokenSource) : Prop :=
  ∀ asked force, s.issue files asked force = t.issue files asked force ∨
    ((∀ method, L.free (.call method)) ∧ ∃ a b, s.issue files asked force = .ok a ∧
      t.issue files asked force = .ok b ∧ Http.isHeaderText a = true ∧ Http.isHeaderText b = true)

/-! ## Calls of the metadata service -/

namespace Metadata.Client

def withTokens (c : Client) (tokens : TokenSource) : Client := { c with tokens }

variable {α : Type} {c : Client}

/-- **A document is posted with one token and with another one.** -/
theorem post_beside (hw : w.server.Indifferent L)
    (ht : c.tokens.Agrees L w.files tokens) (method : Method) (document : Json)
    (force : Bool) :
    Beside L w (c.post method document force) ((c.withTokens tokens).post method document force) := by
  refine Act.beside_of_same fun j k hj => ?_
  have hj' : Journal.Agrees L { j with asked := j.asked ++ [force] }
      { k with asked := k.asked ++ [force] } :=
    { hj with asked := congrArg (· ++ [force]) hj.asked }
  have posted {token token' : String}
      (h : c.tokens.issue w.files k.asked force = .ok token)
      (h' : (c.withTokens tokens).tokens.issue w.files k.asked force = .ok token')
      (hdrafts : Http.Order.Beside L (.call method) (c.order method token document).draft
        (c.order method token' document).draft) :
      (c.post method document force w j).1 = ((c.withTokens tokens).post method document force w k).1 ∧
        (c.post method document force w j).2.Agrees L
          ((c.withTokens tokens).post method document force w k).2 := by
    unfold post
    rw [Act.bind_of_ok (issueToken_ok (hj.asked ▸ h)), Act.bind_of_ok (issueToken_ok h')]
    exact (Http.Client.ask_beside hw c.http (c.order method token document)
      (c.order method token' document) rfl hdrafts (unanswered method)).same hj'
  obtain hsame | ⟨free, token, token', h, h', hsent, hsent'⟩ := ht k.asked force
  · cases h : c.tokens.issue w.files k.asked force with
    | error f =>
      have h' : (c.withTokens tokens).tokens.issue w.files k.asked force = .error f := hsame.symm.trans h
      unfold post
      rw [Act.bind_of_halt (issueToken_error (hj.asked ▸ h)), Act.bind_of_halt (issueToken_error h')]
      exact ⟨rfl, hj'⟩
    | ok token =>
      exact posted h (hsame.symm.trans h)
        (Http.Order.beside_self (o := c.order method token document) (.inl ⟨method, rfl⟩))
  · exact posted h h'
      (Http.Order.beside_tokens (o := c.order method token document) rfl hsent hsent' (free method))

/-- **A call with one source of tokens and with another one.** -/
theorem call_beside (hw : w.server.Indifferent L)
    (ht : c.tokens.Agrees L w.files tokens) (method : Method) (request : Json)
    (decode : Json → Option α) :
    Beside L w (c.call method request decode) ((c.withTokens tokens).call method request decode) := by
  refine (post_beside hw ht method request false).bind_same fun first => ?_
  split
  · exact (post_beside hw ht method request true).bind_same fun _ => Act.alongside_ofExcept _
  · exact Act.alongside_ofExcept _

end Metadata.Client

/-! ## Transfers -/

namespace Transfer

theorem trace_beside (t : Transfer) (message : String) : Beside L w (t.trace message) (t.trace message) :=
  Act.alongside_say _ message

theorem acceptPut_beside (t : Transfer) (url : String) (sent : Http.Sent) :
    Beside L w (t.acceptPut url sent) (t.acceptPut url sent) := by
  refine (Act.alongside_conclude (.refl _ _)).bind_same fun r => (t.trace_beside _).bind_same fun _ => ?_
  split
  · exact Act.alongside_pure rfl
  · exact (Act.alongside_say _ _).bind_same fun _ => Act.alongside_fail _

theorem put_beside (hw : w.server.Indifferent L) (t : Transfer) (url : String) (body : Stream)
    (length : Nat) (checksum : Option String) :
    Beside L w (t.put url body length checksum) (t.put url body length checksum) := by
  refine (t.trace_beside _).bind_same fun _ => ?_
  refine (Http.Client.send_beside hw t.http _ _ rfl (Http.Order.beside_self (.inr rfl))).bind_same
    fun sent => ?_
  exact (t.acceptPut_beside url sent).settle_same.bind_same fun _ => Act.alongside_pure rfl

theorem get_beside (hw : w.server.Indifferent L) (t : Transfer) (url : String) :
    Beside L w (t.get url) (t.get url) := by
  refine (t.trace_beside _).bind_same fun _ => ?_
  refine (Http.Client.ask_beside hw t.http _ _ rfl (Http.Order.beside_self (.inr rfl)) _).bind_same
    fun r => ?_
  refine (t.trace_beside _).bind_same fun _ => ?_
  split
  · exact Act.alongside_pure rfl
  · exact Act.alongside_fail _

end Transfer

/-! ## The store -/

namespace Store

def withTokens (s : Store) (tokens : TokenSource) : Store :=
  { s with metadata := s.metadata.withTokens tokens }

variable {s : Store}

theorem finish_beside (hw : w.server.Indifferent L)
    (ht : s.metadata.tokens.Agrees L w.files tokens) (space path : String)
    (location : Metadata.WriteLocation) (sent : Consumed Unit) :
    Beside L w (s.finish space path location sent)
      ((s.withTokens tokens).finish space path location sent) := by
  refine (Act.alongside_conclude (.refl _ _)).bind_same fun _ => ?_
  exact (Metadata.Client.call_beside hw ht _ _ _).bind_same fun _ => Act.alongside_pure rfl

theorem fill_beside (hw : w.server.Indifferent L)
    (ht : s.metadata.tokens.Agrees L w.files tokens) (space path : String)
    (location : Metadata.WriteLocation) (content : Source) (o : UploadOptions) :
    Beside L w (s.fill space path location content o)
      ((s.withTokens tokens).fill space path location content o) := by
  refine (Act.alongside_look fun _ _ _ => rfl).bind_same fun spill => ?_
  have hmeasure : resolveLength content o.length (s.withTokens tokens).memoryLimit spill =
      resolveLength content o.length s.memoryLimit spill := rfl
  rw [hmeasure]
  cases resolveLength content o.length s.memoryLimit spill with
  | mk r buffered =>
    cases r with
    | error f => exact Act.alongside_pure rfl
    | ok m =>
      refine (s.transfer.put_beside hw _ _ _ _).bind_same fun sent => ?_
      exact (finish_beside hw ht space path location sent).settle_same.bind_same
        fun _ => Act.alongside_pure rfl

theorem consume_beside (hw : w.server.Indifferent L)
    (ht : s.metadata.tokens.Agrees L w.files tokens) (space path : String)
    (content : Source) (o : UploadOptions) :
    Beside L w (s.consume space path content o) ((s.withTokens tokens).consume space path content o) := by
  refine (Metadata.Client.call_beside hw ht _ _ _).settle_same.bind_same fun r => ?_
  cases r with
  | error h => exact Act.alongside_pure rfl
  | ok location => exact fill_beside hw ht space path location content o

theorem upload_beside (hw : w.server.Indifferent L)
    (ht : s.metadata.tokens.Agrees L w.files tokens) (space path : String)
    (content : Source) (o : UploadOptions) :
    Beside L w (s.upload space path content o) ((s.withTokens tokens).upload space path content o) :=
  (consume_beside hw ht space path content o).bind_same fun _ => Act.alongside_conclude (.refl _ _)

theorem resolve_beside (hw : w.server.Indifferent L)
    (ht : s.metadata.tokens.Agrees L w.files tokens) (space path : String) :
    Beside L w (s.resolve space path) ((s.withTokens tokens).resolve space path) := by
  refine (Metadata.Client.call_beside hw ht _ _ _).bind_same fun location => ?_
  exact (s.transfer.get_beside hw _).bind_same fun _ => Act.alongside_pure rfl

end Store

/-! ## The cache -/

theorem Origin.fetch_beside (hw : w.server.Indifferent L) (o : Origin) (url : String) :
    Beside L w (o.fetch url) (o.fetch url) :=
  (Http.Client.ask_beside hw o.http _ _ rfl (Http.Order.beside_self (.inr rfl)) _).bind_same fun _ =>
    Act.alongside_ofExcept _

namespace Cache

def withTokens (c : Cache) (tokens : TokenSource) : Cache :=
  { c with store := c.store.withTokens tokens }

variable {c : Cache} {o : CacheOptions} {narrated : Bool}

theorem listing_beside (hw : w.server.Indifferent L)
    (ht : c.store.metadata.tokens.Agrees L w.files tokens)
    (hn : L.narration ∨ o.narrated = narrated) (source : String) :
    Beside L w (c.listing source o) ((c.withTokens tokens).listing source { o with narrated }) :=
  (Act.alongside_tell hn _).bind_same fun _ => Metadata.Client.call_beside hw ht _ _ _

theorem serve_beside (hw : w.server.Indifferent L)
    (ht : c.store.metadata.tokens.Agrees L w.files tokens)
    (hn : L.narration ∨ o.narrated = narrated) (latest : Artifact) :
    Beside L w (c.serve latest o) ((c.withTokens tokens).serve latest { o with narrated }) := by
  refine (Act.alongside_tell hn _).bind_same fun _ => ?_
  refine (Store.resolve_beside hw ht _ _).bind_same fun ⟨body, info⟩ => ?_
  refine (Act.alongside_count _).bind_same fun _ => ?_
  exact (Act.alongside_tell hn _).bind_same fun _ => Act.alongside_pure rfl

theorem populate_beside (hw : w.server.Indifferent L)
    (ht : c.store.metadata.tokens.Agrees L w.files tokens)
    (hn : L.narration ∨ o.narrated = narrated) (source : String) (url : Url) :
    Beside L w (c.populate source url o)
      ((c.withTokens tokens).populate source url { o with narrated }) := by
  refine (Act.alongside_look fun _ _ (hj : Journal.Agrees L _ _) => hj.now w).bind_same fun now => ?_
  refine (Act.alongside_tell hn _).bind_same fun _ => (Act.alongside_count _).bind_same fun _ => ?_
  refine (c.origin.fetch_beside hw _).bind_same fun content => ?_
  refine (Act.alongside_look fun _ _ _ => rfl).bind_same fun spool => ?_
  refine (Act.alongside_ofExcept _).bind_same fun _ => ?_
  refine (Act.alongside_tell hn _).bind_same fun _ => ?_
  refine (Store.consume_beside hw ht _ _ _ _).bind_same fun stored => ?_
  refine (Act.alongside_count _).bind_same fun _ => ?_
  refine (Act.alongside_conclude (.refl _ _)).bind_same fun info => ?_
  refine (Act.alongside_ofExcept _).bind_same fun _ => ?_
  refine (Act.alongside_ofExcept _).bind_same fun _ => ?_
  exact (Act.alongside_tell hn _).bind_same fun _ => Act.alongside_pure rfl

theorem tellTooOld_beside (hn : L.narration ∨ o.narrated = narrated) (latest : Artifact) :
    Beside L w (tellTooOld latest o) (tellTooOld latest { o with narrated }) := by
  unfold tellTooOld
  cases o.freshAfter with
  | some threshold => exact Act.alongside_tell hn _
  | none => exact Act.alongside_pure rfl

theorem lookup_beside (hw : w.server.Indifferent L)
    (ht : c.store.metadata.tokens.Agrees L w.files tokens)
    (hn : L.narration ∨ o.narrated = narrated) (source : String) (url : Url) :
    Beside L w (c.lookup source url o) ((c.withTokens tokens).lookup source url { o with narrated }) := by
  have hmiss (stale : Bool) : Beside L w
      (Act.count (fun k => k.countMiss stale) >>= fun _ => c.populate source url o)
      (Act.count (fun k => k.countMiss stale) >>= fun _ =>
        (c.withTokens tokens).populate source url { o with narrated }) :=
    (Act.alongside_count _).bind_same fun _ => populate_beside hw ht hn source url
  refine (listing_beside hw ht hn source).bind_same fun artifacts => ?_
  split
  · exact hmiss false
  · next latest _ =>
    show Beside L w (if isFresh latest.createdAt o.freshAfter then _ else _)
      (if isFresh latest.createdAt o.freshAfter then _ else _)
    split
    · exact serve_beside hw ht hn latest
    · exact (tellTooOld_beside hn latest).bind_same fun _ => hmiss true

theorem account_beside {α : Type} {a b : Act α} (h : Beside L w a b) :
    Beside L w (account a) (account b) := by
  refine (Act.alongside_count _).bind_same fun _ => ?_
  refine (Act.alongside_look fun _ _ (hj : Journal.Agrees L _ _) => hj.elapsed).bind_same fun start => ?_
  refine h.settle_same.bind_same fun r => ?_
  refine (Act.alongside_look fun _ _ (hj : Journal.Agrees L _ _) => hj.elapsed).bind_same fun stop => ?_
  exact (Act.alongside_count _).bind_same fun _ => Act.alongside_conclude (.refl _ r)

/-- **A call beside a call** with other tokens, and with another listener. -/
theorem copy_beside (hw : w.server.Indifferent L)
    (ht : c.store.metadata.tokens.Agrees L w.files tokens)
    (hn : L.narration ∨ o.narrated = narrated) (source : String) :
    Beside L w (c.copy source o) ((c.withTokens tokens).copy source { o with narrated }) := by
  unfold copy
  cases readSource source with
  | error f => exact Act.alongside_fail f
  | ok url =>
    exact account_beside (Act.alongside_within o.timeout rfl fun deadline =>
      lookup_beside (w := { w with deadline }) hw ht hn source url)

theorem copyRetrying_beside (hw : w.server.Indifferent L)
    (ht : c.store.metadata.tokens.Agrees L w.files tokens)
    (hn : L.narration ∨ o.narrated = narrated) (source : String) (p : RetryPolicy) :
    Beside L w (c.copyRetrying source o p)
      ((c.withTokens tokens).copyRetrying source { o with narrated } p) :=
  Act.alongside_retrying p (copy_beside hw ht hn source) 0

end Cache

end ContentCache
