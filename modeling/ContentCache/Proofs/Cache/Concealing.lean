import ContentCache.Proofs.Cache.Copying
import ContentCache.Proofs.Http.Lockstep

/-!
# What a signature can be seen in

The signature of a URL stands in its query. The log shows of a signed URL what stands before it, and so
do refusals; a server sees all of it. So in worlds that differ in signatures only, every operation leaves
the same log and ends in the same way, unless a transfer got no answer: the words of a client that has
failed tell the whole URL.

* `Consumed.Twin`: what becomes of content in two worlds.
* `Concealed`: two runs in which nothing else can be seen of a signature.

Main statements: `signature_concealed`, and `signature_told_unanswered` (the words of a client tell it).
-/

namespace ContentCache

open Act (Pairs)

variable {S : SignedPairs} {w v : World} {α : Type}

/-! ## Calls of the metadata service -/

namespace Metadata.Client

variable {R : α → α → Prop} {decode : Json → Option α}

theorem issueToken_pairs (hw : w.Twin S v) (c : Client) (force : Bool) :
    Pairs S w v (· = ·) (c.issueToken force) (c.issueToken force) := by
  intro j k hj
  unfold issueToken
  rw [hw.files, hj.asked]
  exact Act.alongside_ofExcept _ _ _ { hj with asked := rfl }

theorem post_pairs (hw : w.Twin S v) (c : Client) (method : Method) (document : Json) (force : Bool) :
    Pairs S w v (Http.Response.Twin S True) (c.post method document force)
      (c.post method document force) := by
  refine (c.issueToken_pairs hw force).bind_same fun token => ?_
  exact c.http.ask_pairs True hw (fun _ => trivial) _

theorem accept_pairs {method : Method} (hR : ∀ a, R a a)
    (hdecode : ∀ x y, Hands S x y →
      Option.Rel R ((document? x.response).bind decode) ((document? y.response).bind decode))
    {x y : Http.Response} (hxy : x.Twin S True y) :
    Pairs S w v R (Act.ofExcept (accept method decode x)) (Act.ofExcept (accept method decode y)) := by
  cases hxy with
  | same =>
    cases accept method decode x with
    | ok a => exact Act.alongside_pure (hR a)
    | error f => exact Act.alongside_fail f
  | @handed x y _ hands =>
    have hx : Http.isSuccess x.response.status = true := hands.success
    have hy : Http.isSuccess y.response.status = true :=
      (congrArg Http.isSuccess hands.status).symm.trans hands.success
    have hdecoded := hdecode x y hands
    simp only [accept, hx, hy, if_true]
    generalize (document? x.response).bind decode = a, (document? y.response).bind decode = b
      at hdecoded
    cases hdecoded with
    | none => exact Act.alongside_fail _
    | some related => exact Act.alongside_pure related

/-- **A call of a method**, whose answers are understood in a related way. -/
theorem call_pairs (hw : w.Twin S v) (c : Client) (method : Method) (request : Json)
    (hR : ∀ a, R a a)
    (hdecode : ∀ x y, Hands S x y →
      Option.Rel R ((document? x.response).bind decode) ((document? y.response).bind decode)) :
    Pairs S w v R (c.call method request decode) (c.call method request decode) := by
  refine (c.post_pairs hw method request false).bind fun x y hxy => ?_
  rw [hxy.status]
  split
  · exact (c.post_pairs hw method request true).bind fun _ _ h => accept_pairs hR hdecode h
  · exact accept_pairs hR hdecode hxy

theorem createWrite_pairs (hw : w.Twin S v) (c : Client) (r : CreateRequest) :
    Pairs S w v (WriteLocation.Twin S) (c.createWrite r) (c.createWrite r) :=
  c.call_pairs hw _ _ (fun _ => ⟨.inl rfl, rfl⟩) fun _ _ h => h.write

theorem createRead_pairs (hw : w.Twin S v) (c : Client) (r : ResolveRequest) :
    Pairs S w v (ReadLocation.Twin S) (c.createRead r) (c.createRead r) :=
  c.call_pairs hw _ _ (fun _ => ⟨.inl rfl, rfl⟩) fun _ _ h => h.read

theorem optionRel_of_eq {x y : Option α} (h : x = y) : Option.Rel (· = ·) x y := by
  subst h
  cases x with
  | none => exact .none
  | some a => exact .some rfl

theorem finalize_pairs (hw : w.Twin S v) (c : Client) (r : FinalizeRequest) :
    Pairs S w v (· = ·) (c.finalize r) (c.finalize r) :=
  c.call_pairs hw _ _ (fun _ => rfl) fun _ _ h => optionRel_of_eq h.sealed

theorem list_pairs (hw : w.Twin S v) (c : Client) (r : ListRequest) :
    Pairs S w v (· = ·) (c.list r) (c.list r) :=
  c.call_pairs hw _ _ (fun _ => rfl) fun _ _ h => optionRel_of_eq h.listed

end Metadata.Client

/-! ## Transfers -/

/-- What became of content in two worlds: related ends, and one stream that was taken. -/
structure Consumed.Twin (S : SignedPairs) (x y : Consumed α) : Prop where
  result : S.likeness.Ends (· = ·) x.result y.result
  taken : x.taken = y.taken

namespace Transfer

variable {url url' : String}

theorem trace_pairs (t : Transfer) (message : String) :
    Pairs S w v (· = ·) (t.trace message) (t.trace message) := Act.alongside_say _ message

theorem send_pairs (hw : w.Twin S v) (c : Http.Client) {o : Http.Order} (posted : o.method ≠ .post)
    (hurl : S.Same url url') :
    Pairs S w v (Http.Sent.Twin S False False) (Act.ofRun (c.send { o with url := url }))
      (Act.ofRun (c.send { o with url := url' })) :=
  Act.alongside_ofRun fun _ _ hj => c.send_signed hw hj posted hurl

/-- Here the whole URL comes into the words of a failure. -/
theorem response_pairs {x y : Http.Sent} (hxy : x.Twin S False False y) (operation : String) :
    Pairs S w v (· = ·) (Act.conclude (x.response (unanswered operation)))
      (Act.conclude (y.response (unanswered operation))) := by
  obtain ⟨hdelivery, -⟩ := hxy
  apply Act.alongside_conclude
  unfold Http.Sent.response
  generalize x.delivery = d, y.delivery = e at hdelivery
  cases hdelivery with
  | answered r => exact .ok rfl
  | handed post _ => exact post.elim
  | failed bare => exact .error (.unanswered operation bare)
  | interrupted => exact .error (.same _)

theorem acceptPut_pairs (t : Transfer) (hurl : S.Same url url') {x y : Http.Sent}
    (hxy : x.Twin S False False y) :
    Pairs S w v (· = ·) (t.acceptPut url x) (t.acceptPut url' y) := by
  refine (response_pairs hxy "upload").bind_same fun r => ?_
  rw [hurl.unsigned]
  refine (t.trace_pairs _).bind_same fun _ => ?_
  split
  · exact Act.alongside_pure rfl
  · exact (Act.alongside_say _ _).bind_same fun _ => Act.alongside_fail _

theorem put_pairs (hw : w.Twin S v) (t : Transfer) (hurl : S.Same url url') (body : Stream)
    (length : Nat) (checksum : Option String) :
    Pairs S w v (Consumed.Twin S) (t.put url body length checksum) (t.put url' body length checksum) := by
  unfold put
  rw [hurl.unsigned]
  refine (t.trace_pairs _).bind_same fun _ => ?_
  refine (send_pairs hw t.http (o := putOrder url body length checksum) (by simp [putOrder])
    hurl).bind fun x y hxy => ?_
  refine (t.acceptPut_pairs hurl hxy).settle.bind fun r r' hr => ?_
  exact Act.alongside_pure ⟨hr, hxy.taken⟩

theorem get_pairs (hw : w.Twin S v) (t : Transfer) (hurl : S.Same url url') :
    Pairs S w v (· = ·) (t.get url) (t.get url') := by
  have hask : Pairs S w v (· = ·) (t.http.ask (getOrder url) (unanswered "download"))
      (t.http.ask (getOrder url') (unanswered "download")) :=
    (send_pairs hw t.http (o := getOrder url) (by simp [getOrder]) hurl).bind
      fun _ _ hxy => response_pairs hxy _
  unfold get
  rw [hurl.unsigned]
  refine (t.trace_pairs _).bind_same fun _ => ?_
  refine hask.bind ?_
  rintro r _ rfl
  refine (t.trace_pairs _).bind_same fun _ => ?_
  split
  · exact Act.alongside_pure rfl
  · exact Act.alongside_fail _

end Transfer

/-! ## The store -/

namespace Store

theorem finish_pairs (hw : w.Twin S v) (s : Store) (space path : String)
    {l m : Metadata.WriteLocation} (hlm : l.Twin S m) {x y : Consumed Unit} (hxy : x.Twin S y) :
    Pairs S w v (· = ·) (s.finish space path l x) (s.finish space path m y) := by
  unfold finish
  refine (Act.alongside_conclude hxy.result).bind_same fun _ => ?_
  rw [hxy.taken, hlm.2]
  refine (s.metadata.finalize_pairs hw _).bind_same fun artifact => ?_
  exact Act.alongside_pure rfl

theorem fill_pairs (hw : w.Twin S v) (s : Store) (space path : String)
    {l m : Metadata.WriteLocation} (hlm : l.Twin S m) (content : Source) (o : UploadOptions) :
    Pairs S w v (Consumed.Twin S) (s.fill space path l content o) (s.fill space path m content o) := by
  refine (Act.alongside_look fun _ _ _ => hw.spillFile _).bind_same fun spill => ?_
  cases resolveLength content o.length s.memoryLimit spill with
  | mk r buffered =>
    cases r with
    | error f => exact Act.alongside_pure ⟨.error (.same _), rfl⟩
    | ok measured =>
      refine (s.transfer.put_pairs hw hlm.1 _ _ _).bind fun x y hxy => ?_
      refine (s.finish_pairs hw space path hlm hxy).settle.bind fun r r' hr => ?_
      exact Act.alongside_pure ⟨hr, by rw [hxy.taken]⟩

theorem consume_pairs (hw : w.Twin S v) (s : Store) (space path : String) (content : Source)
    (o : UploadOptions) :
    Pairs S w v (Consumed.Twin S) (s.consume space path content o) (s.consume space path content o) := by
  refine (s.metadata.createWrite_pairs hw _).settle.bind fun r r' hr => ?_
  cases hr with
  | ok hlm => exact s.fill_pairs hw space path hlm content o
  | error twin => exact Act.alongside_pure ⟨.error twin, rfl⟩

theorem upload_pairs (hw : w.Twin S v) (s : Store) (space path : String) (content : Source)
    (o : UploadOptions) :
    Pairs S w v (· = ·) (s.upload space path content o) (s.upload space path content o) :=
  (s.consume_pairs hw space path content o).bind fun _ _ hxy => Act.alongside_conclude hxy.result

theorem resolve_pairs (hw : w.Twin S v) (s : Store) (space path : String) :
    Pairs S w v (· = ·) (s.resolve space path) (s.resolve space path) := by
  refine (s.metadata.createRead_pairs hw _).bind fun l m hlm => ?_
  refine (s.transfer.get_pairs hw hlm.1).bind_same fun body => ?_
  rw [hlm.2]
  exact Act.alongside_pure rfl

end Store

/-! ## The cache -/

theorem Origin.fetch_pairs (hw : w.Twin S v) (o : Origin) (url : String) :
    Pairs S w v (· = ·) (o.fetch url) (o.fetch url) := by
  refine (o.http.ask_pairs False hw (by simp [order]) _).bind fun x y hxy => ?_
  cases hxy with
  | same => exact Act.alongside_ofExcept _
  | handed post => exact post.elim

namespace Cache

theorem serve_pairs (hw : w.Twin S v) (c : Cache) (latest : Artifact) (o : CacheOptions) :
    Pairs S w v (· = ·) (c.serve latest o) (c.serve latest o) := by
  refine (Act.alongside_tell (.inr rfl) _).bind_same fun _ => ?_
  refine (c.store.resolve_pairs hw _ _).bind_same fun ⟨body, info⟩ => ?_
  refine (Act.alongside_count _).bind_same fun _ => ?_
  refine (Act.alongside_tell (.inr rfl) _).bind_same fun _ => ?_
  exact Act.alongside_pure rfl

/-- A failure that the tee has kept goes before the failures of both stores. -/
theorem storedOrTeeFailure_twin (kept : Option Failure) {r r' : Except Halt ArtifactInfo}
    (h : S.likeness.Ends (· = ·) r r') :
    S.likeness.Ends (· = ·) (storedOrTeeFailure kept r) (storedOrTeeFailure kept r') := by
  unfold storedOrTeeFailure
  cases h with
  | ok related =>
    cases kept with
    | none => exact .ok related
    | some f => exact .error (.same _)
  | error twin =>
    obtain ⟨rfl, rfl⟩ | ⟨f, g, rfl, rfl, -⟩ := Halt.Twin.kinds twin
    · exact .error twin
    · cases kept with
      | none => exact .error twin
      | some f => exact .error (.same _)

theorem populate_pairs (hw : w.Twin S v) (c : Cache) (source : String) (url : Url)
    (o : CacheOptions) :
    Pairs S w v (· = ·) (c.populate source url o) (c.populate source url o) := by
  refine (Act.alongside_look fun _ _ (hj : Journal.Twin S _ _) => hw.now hj).bind_same fun now => ?_
  refine (Act.alongside_tell (.inr rfl) _).bind_same fun _ => ?_
  refine (Act.alongside_count _).bind_same fun _ => ?_
  refine (c.origin.fetch_pairs hw _).bind_same fun content => ?_
  refine (Act.alongside_look fun _ _ _ => hw.newSpool _).bind_same fun made => ?_
  refine (Act.alongside_ofExcept made).bind_same fun spool => ?_
  refine (Act.alongside_tell (.inr rfl) _).bind_same fun _ => ?_
  refine (c.store.consume_pairs hw _ _ _ _).bind fun x y hxy => ?_
  rw [hxy.taken]
  refine (Act.alongside_count _).bind_same fun _ => ?_
  refine (Act.alongside_conclude (storedOrTeeFailure_twin _ hxy.result)).bind_same fun info => ?_
  refine (Act.alongside_ofExcept _).bind_same fun _ => ?_
  refine (Act.alongside_ofExcept _).bind_same fun _ => ?_
  refine (Act.alongside_tell (.inr rfl) _).bind_same fun _ => ?_
  exact Act.alongside_pure rfl

theorem lookup_pairs (hw : w.Twin S v) (c : Cache) (source : String) (url : Url) (o : CacheOptions) :
    Pairs S w v (· = ·) (c.lookup source url o) (c.lookup source url o) := by
  have hlisting : Pairs S w v (· = ·) (c.listing source o) (c.listing source o) :=
    (Act.alongside_tell (.inr rfl) _).bind_same fun _ => c.store.metadata.list_pairs hw _
  have hmiss (stale : Bool) : Pairs S w v (· = ·)
      (Act.count (fun k => k.countMiss stale) >>= fun _ => c.populate source url o)
      (Act.count (fun k => k.countMiss stale) >>= fun _ => c.populate source url o) :=
    (Act.alongside_count _).bind_same fun _ => c.populate_pairs hw source url o
  refine hlisting.bind_same fun artifacts => ?_
  split
  · exact hmiss false
  · rename_i latest _
    split
    · exact c.serve_pairs hw latest o
    · refine Act.Alongside.bind_same ?_ fun _ => hmiss true
      unfold tellTooOld
      split
      · exact Act.alongside_tell (.inr rfl) _
      · exact Act.alongside_pure rfl

theorem countEnd_twin {r r' : Except Halt α} (h : S.likeness.Ends (· = ·) r r') (k : Counters) :
    countEnd r k = countEnd r' k := by
  cases h with
  | ok => rfl
  | error twin => cases twin <;> rfl

theorem account_pairs {a : Act α} (ha : Pairs S w v (· = ·) a a) :
    Pairs S w v (· = ·) (account a) (account a) := by
  refine (Act.alongside_count _).bind_same fun _ => ?_
  refine (Act.alongside_look fun _ _ (hj : Journal.Twin S _ _) => hj.elapsed).bind_same fun start => ?_
  refine ha.settle.bind fun r r' hr => ?_
  refine (Act.alongside_look fun _ _ (hj : Journal.Twin S _ _) => hj.elapsed).bind_same fun stop => ?_
  simp only [countEnd_twin hr]
  exact (Act.alongside_count _).bind_same fun _ => Act.alongside_conclude hr

theorem copy_pairs (hw : w.Twin S v) (c : Cache) (source : String) (o : CacheOptions) :
    Pairs S w v (· = ·) (c.copy source o) (c.copy source o) := by
  unfold copy
  cases readSource source with
  | error f => exact Act.alongside_fail f
  | ok url =>
    exact account_pairs
      (Act.alongside_within o.timeout hw.deadline fun deadline =>
        c.lookup_pairs (w := { w with deadline }) (v := { v with deadline })
          { hw with deadline := rfl } source url o)

end Cache

/-! ## What can be seen -/

/-- Two runs in which nothing can be seen of a signature but, perhaps, in the words of a client that got
no answer from the object store. -/
structure Concealed (S : SignedPairs) (x y : Except Halt α × Journal) : Prop where
  log : x.2.log = y.2.log
  result : x.1 = y.1 ∨ ∃ operation e f, e.bare = f.bare ∧
    x.1 = .error (.failed (Transfer.unanswered operation e)) ∧
    y.1 = .error (.failed (Transfer.unanswered operation f))
  journal : x.2.Twin S y.2

theorem Act.Pairs.concealed {a b : Act α} {j k : Journal} (h : Pairs S w v (· = ·) a b)
    (hj : j.Twin S k) : Concealed S (a w j) (b v k) := by
  obtain ⟨hends, hjournals⟩ := h j k hj
  refine ⟨hjournals.log, ?_, hjournals⟩
  generalize (a w j).1 = r, (b v k).1 = r' at hends
  cases hends with
  | ok related => exact .inl (congrArg _ related)
  | error twin =>
    cases twin with
    | same => exact .inl rfl
    | unanswered operation bare => exact .inr ⟨operation, _, _, bare, rfl, rfl⟩

/-- **A signature can be seen in nothing but the words of a client that got no answer**: in worlds that
differ in signatures only, all operations leave the same log and end in the same way, or as transfers
without an answer whose words differ in the query of a URL. What servers see are twin requests. -/
theorem signature_concealed (S : SignedPairs) {w v : World} (hw : w.Twin S v) {j k : Journal}
    (hj : j.Twin S k) (s : Store) (c : Cache) :
    (∀ space path content o, Concealed S (s.upload space path content o w j)
      (s.upload space path content o v k)) ∧
    (∀ space path, Concealed S (s.resolve space path w j) (s.resolve space path v k)) ∧
    ∀ source o, Concealed S (c.copy source o w j) (c.copy source o v k) ∧
      ∀ p, Concealed S (c.copyRetrying source o p w j) (c.copyRetrying source o p v k) := by
  refine ⟨fun space path content o => ?_, fun space path => ?_, fun source o => ⟨?_, fun p => ?_⟩⟩
  · exact (s.upload_pairs hw space path content o).concealed hj
  · exact (s.resolve_pairs hw space path).concealed hj
  · exact (c.copy_pairs hw source o).concealed hj
  · exact Act.Pairs.concealed (Act.alongside_retrying p (c.copy_pairs hw source o) 0) hj

/-! ## A URL with two signatures -/

namespace Cache

/-- The answer of a metadata service that hands out a place to write to. -/
def placeAt (url : String) : Http.Reply :=
  { pieces := [Bytes.ofText ("\x7b\"signedUploadUrl\":\"" ++ url ++ "\",\"uploadId\":\"u\"\x7d")] }

/-- Every call hands out a place to write to, and the object store does one thing about every request. -/
def placeWorld (url : String) (answer : Http.Answer) : World where
  server := ⟨fun _ r => if r.method = .post then .reply .zero (placeAt url) else answer⟩

/-- A URL that is signed with one letter. -/
def keyPair : SignedPairs where
  Pair s t := s = "http://s/?k" ∧ t = "http://s/?l"
  signedTwice := by
    rintro s t ⟨rfl, rfl⟩
    have haddress : (match Url.read "http://s/?k", Url.read "http://s/?l" with
      | .ok u, .ok v => decide (Http.isAddress (Http.Target.ofUrl u).url =
          Http.isAddress (Http.Target.ofUrl v).url)
      | _, _ => true) = true := by decide +kernel
    refine ⟨by decide, by decide, by decide +kernel, fun u v hu hv => ?_⟩
    rw [hu, hv] at haddress
    exact of_decide_eq_true haddress

theorem placeAt_hands : Metadata.Hands keyPair (placeAt "http://s/?k") (placeAt "http://s/?l") where
  status := rfl
  success := rfl
  write := by
    have hk : (Metadata.Client.document? (placeAt "http://s/?k").response).bind
        Metadata.WriteLocation.ofDocument? = some ⟨"http://s/?k", "u"⟩ := by decide +kernel
    have hl : (Metadata.Client.document? (placeAt "http://s/?l").response).bind
        Metadata.WriteLocation.ofDocument? = some ⟨"http://s/?l", "u"⟩ := by decide +kernel
    rw [hk, hl]
    exact .some ⟨.inr ⟨rfl, rfl⟩, rfl⟩
  read := by
    have hk : (Metadata.Client.document? (placeAt "http://s/?k").response).bind
        Metadata.ReadLocation.ofDocument? = none := by decide +kernel
    have hl : (Metadata.Client.document? (placeAt "http://s/?l").response).bind
        Metadata.ReadLocation.ofDocument? = none := by decide +kernel
    rw [hk, hl]
    exact .none
  sealed := by decide +kernel
  listed := by decide +kernel

/-- An object store that redirects nobody makes no difference between signatures. -/
theorem placeWorld_twin {answer : Http.Answer}
    (h : ∀ after x, answer = .reply after x → x.location = none) :
    (placeWorld "http://s/?k" answer).Twin keyPair (placeWorld "http://s/?l" answer) := by
  refine ⟨fun before before' r r' _ hr => ?_, rfl, rfl, rfl, rfl, rfl, rfl, rfl⟩
  simp only [placeWorld]
  cases hr with
  | same =>
    split
    · rename_i posted
      exact .handed posted placeAt_hands
    · exact .same _ _
  | signed posted =>
    simp only [posted, if_false]
    refine .signed fun after x location u v ha hl => ?_
    rw [h after x ha] at hl
    cases hl

/-- A transfer that is refused: the status is told, and not the URL. -/
def refused : Http.Answer := .reply .zero { status := 403, pieces := [Bytes.ofText "denied"] }

theorem signature_concealed_refused :
    (placeWorld "http://s/?k" refused).Twin keyPair (placeWorld "http://s/?l" refused) ∧
      ({} : Journal).Twin keyPair {} ∧
      Concealed keyPair
        (usual.store.upload "n" "p" (.ofBytes [104]) {} (placeWorld "http://s/?k" refused) {})
        (usual.store.upload "n" "p" (.ofBytes [104]) {} (placeWorld "http://s/?l" refused) {}) := by
  have hw : (placeWorld "http://s/?k" refused).Twin keyPair (placeWorld "http://s/?l" refused) := by
    apply placeWorld_twin
    rintro after x h
    cases h
    rfl
  have hj : ({} : Journal).Twin keyPair {} := ⟨rfl, .nil, rfl, rfl, rfl, rfl, rfl⟩
  exact ⟨hw, hj, (signature_concealed keyPair hw hj usual.store usual).1 "n" "p" (.ofBytes [104]) {}⟩

set_option maxRecDepth 10000 in
/-- **The words of a client tell the signature** when the connection is dropped. -/
theorem signature_told_unanswered :
    (placeWorld "http://s/?k" .dropped).Twin keyPair (placeWorld "http://s/?l" .dropped) ∧
      haltOf (usual.store.upload "n" "p" (.ofBytes [104]) {} (placeWorld "http://s/?k" .dropped) {}).1 =
        some (.failed (.transfer none
          "failed to upload artifact: error sending request for url (http://s/?k)")) ∧
      haltOf (usual.store.upload "n" "p" (.ofBytes [104]) {} (placeWorld "http://s/?l" .dropped) {}).1 =
        some (.failed (.transfer none
          "failed to upload artifact: error sending request for url (http://s/?l)")) := by
  refine ⟨placeWorld_twin (by simp), ?_, ?_⟩
  · decide +kernel
  · decide +kernel

end Cache

end ContentCache
