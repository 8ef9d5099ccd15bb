import ContentCache.CommandLine
import ContentCache.Proofs.Cache.Copying
import ContentCache.Proofs.Content
import ContentCache.Proofs.Time.Shifting

/-!
# Runs of the program

A run that is asked to fetch a URL either has all that a call of the cache needs, or it ends before
anything is sent. What it writes is the content that the call gives, as far as that can be read.

* `Prepared`: what the call of a run is made with. `Unfit`: why a run cannot get anywhere.
* `Concludes`: what a run writes after its call, and how it ends.

Main statements: `prepare_cases` (a run is prepared or has a reason not to be) and `run_fetches`.
-/

namespace ContentCache

/-! ## Preparing -/

namespace CommandLine

variable {a : Arguments} {w : World} {j : Journal} {c : Config} {tokens : TokenSource}
  {o : CacheOptions}

/-- What the call of a run is made with: a configuration that keeps the rules, a source of tokens, and the
options that the arguments want. -/
structure Prepared (a : Arguments) (w : World) (j : Journal) (c : Config) (tokens : TokenSource)
    (o : CacheOptions) : Prop where
  loaded : Config.load w.files a.config = .ok c
  checked : c.check = .ok ()
  tokens : tokenSource c a.token = some tokens
  /-- Every copy will do when no age is given. -/
  ageless : a.maxAge = none → o.freshAfter = none
  /-- A copy may be as old as the age that is given, counted from now. -/
  aged : ∀ seconds, a.maxAge = some seconds →
    ∃ t, o.freshAfter = some t ∧ t.IsEarlier (w.now j) seconds
  digest : o.expectedDigest = a.digest
  timeout : o.timeout = a.timeout.map .ofSeconds
  life : o.expiresIn = none
  narrated : o.narrated = true

/-- Why a run cannot get anywhere. -/
inductive Unfit (a : Arguments) (w : World) (j : Journal) : Prop where
  /-- The configuration cannot be read, or it breaks a rule. -/
  | unloadable {f : Failure} (unloaded : Config.load w.files a.config = .error f)
  /-- There is no file for tokens, and no token either. -/
  | tokenless {c : Config} (loaded : Config.load w.files a.config = .ok c)
      (unconfigured : c.tokenFile = none) (ungiven : a.token = none)
  /-- There is no instant so many seconds before now. -/
  | outOfRange {seconds : Nat} (given : a.maxAge = some seconds)
      (none : ∀ t, ¬ Time.Instant.IsEarlier t (w.now j) seconds)
  /-- The URL is no absolute one of the web. -/
  | invalid {f : Failure} (unread : readSource a.url = .error f)

theorem tokenSource_eq_none_iff {token : Option String} :
    tokenSource c token = none ↔ c.tokenFile = none ∧ token = none := by
  unfold tokenSource
  cases c.tokenFile with
  | some path => simp
  | none => simp

/-- A configuration that has been loaded keeps the rules. -/
theorem check_of_load {files : Files} {path : String} (h : Config.load files path = .ok c) :
    c.check = .ok () := by
  unfold Config.load at h
  split at h
  · cases h
  · split at h
    · cases h
    · next c' _ =>
      split at h
      · next hcheck =>
        obtain rfl := Except.ok.inj h
        exact hcheck
      · cases h

/-- The oldest instant, or a report of the age. The definition is opened as a whole: under a matcher the
arithmetic of its instants would be run. -/
theorem oldest_eq (now : Time.Instant) (seconds : Nat) : oldest now seconds =
    ((now.secondsEarlier? seconds).map .ok).getD (.error (.ageOutOfRange seconds)) := by
  have h : oldest = oldest := rfl
  conv at h =>
    rhs
    delta oldest
  rw [h]
  dsimp only
  cases now.secondsEarlier? seconds <;> rfl

/-- The options of a call with the oldest instant that is wanted. -/
def optionsSince (a : Arguments) (freshAfter : Option Time.Instant) : CacheOptions :=
  { freshAfter, expectedDigest := a.digest, timeout := a.timeout.map .ofSeconds, narrated := true }

theorem options_of_ageless {now : Time.Instant} (h : a.maxAge = none) :
    options a now = .ok (optionsSince a none) := by
  simp only [options, h]
  rfl

theorem options_of_age {now : Time.Instant} {seconds : Nat} (h : a.maxAge = some seconds) :
    options a now = (oldest now seconds).map fun t => optionsSince a (some t) := by
  simp only [options, h]
  cases oldest now seconds <;> rfl

/-- With a configuration and a source of tokens, a run is prepared when its options are. -/
theorem prepare_of_tokens (hload : Config.load w.files a.config = .ok c)
    (htokens : tokenSource c a.token = some tokens) :
    prepare a w j = (options a (w.now j)).map fun o => (.ofConfig c tokens, o) := by
  simp only [prepare, hload, pure_bind, htokens]
  cases options a (w.now j) <;> rfl

theorem Prepared.of_options {freshAfter : Option Time.Instant}
    (hload : Config.load w.files a.config = .ok c)
    (htokens : tokenSource c a.token = some tokens) (ageless : a.maxAge = none → freshAfter = none)
    (aged : ∀ seconds, a.maxAge = some seconds →
      ∃ t, freshAfter = some t ∧ t.IsEarlier (w.now j) seconds) :
    Prepared a w j c tokens (optionsSince a freshAfter) :=
  ⟨hload, check_of_load hload, htokens, ageless, aged, rfl, rfl, rfl, rfl⟩

/-- **A run is prepared, or there is a reason why not.** -/
theorem prepare_cases (a : Arguments) (w : World) (j : Journal) :
    (∃ e, Unfit a w j ∧ prepare a w j = .error e) ∨
      ∃ c tokens o, Prepared a w j c tokens o ∧ prepare a w j = .ok (.ofConfig c tokens, o) := by
  cases hload : Config.load w.files a.config with
  | error f =>
    refine .inl ⟨.unloadable a.config f, .unloadable hload, ?_⟩
    simp only [prepare, hload]
    rfl
  | ok c =>
    cases htokens : tokenSource c a.token with
    | none =>
      obtain ⟨hfile, htoken⟩ := tokenSource_eq_none_iff.1 htokens
      refine .inl ⟨.tokenMissing, .tokenless hload hfile htoken, ?_⟩
      simp only [prepare, hload, pure_bind, htokens]
      rfl
    | some tokens =>
      rw [prepare_of_tokens hload htokens]
      cases hage : a.maxAge with
      | none =>
        rw [options_of_ageless hage]
        exact .inr ⟨c, tokens, _, .of_options hload htokens (fun _ => rfl) (by simp [hage]), rfl⟩
      | some seconds =>
        rw [options_of_age hage, oldest_eq]
        cases ht : (w.now j).secondsEarlier? seconds with
        | none =>
          exact .inl ⟨_, .outOfRange hage (Time.Instant.secondsEarlier?_eq_none_iff.1 ht), rfl⟩
        | some t =>
          have haged : ∀ seconds, a.maxAge = some seconds →
              ∃ t', some t = some t' ∧ t'.IsEarlier (w.now j) seconds := by
            intro seconds' hseconds
            obtain rfl := Option.some.inj (hage.symm.trans hseconds)
            exact ⟨t, rfl, Time.Instant.secondsEarlier?_eq_some_iff.1 ht⟩
          exact .inr ⟨c, tokens, _, .of_options hload htokens (by simp [hage]) haged, rfl⟩

/-- What is prepared is settled by the arguments and the world. -/
theorem Prepared.prepare_eq (h : Prepared a w j c tokens o) :
    prepare a w j = .ok (.ofConfig c tokens, o) := by
  have ho : o = optionsSince a o.freshAfter := by
    obtain ⟨freshAfter, expectedDigest, expiresIn, timeout, narrated⟩ := o
    obtain ⟨-, -, -, -, -, rfl, rfl, rfl, rfl⟩ := h
    rfl
  have hoptions : options a (w.now j) = .ok o := by
    cases hage : a.maxAge with
    | none => rw [options_of_ageless hage, ho, h.ageless hage]
    | some seconds =>
      obtain ⟨t, hfresh, ht⟩ := h.aged seconds hage
      rw [options_of_age hage, oldest_eq, Time.Instant.secondsEarlier?_eq_some_iff.2 ht, ho, hfresh]
      rfl
  rw [prepare_of_tokens h.loaded h.tokens, hoptions]
  rfl

/-! ## Writing -/

/-- What a run writes after its call, and how it ends. -/
structure Concludes (r : Except Halt Copy) (x : Outcome) : Prop where
  /-- What is written is what can be read of the content, up to the first error. -/
  written : ∀ copy, r = .ok copy → x.output = copy.body.cut.bytes
  /-- It begins the content. -/
  begins : ∀ copy, r = .ok copy → x.output <+: copy.body.bytes
  /-- Without content nothing is written. -/
  silent : ∀ halt, r = .error halt → x.output = []
  /-- The run succeeds when there is content that can be read to its end. -/
  succeeds : x.ending = .success ↔ ∃ copy, r = .ok copy ∧ copy.body.firstError? = none
  /-- What has been written then is the whole content. -/
  whole : x.ending = .success → ∃ copy, r = .ok copy ∧ x.output = copy.body.bytes
  /-- It fails in every other case. -/
  fails : x.ending = .success ∨ ∃ e, x.ending = .failure e

/-- What is written of content is all that comes before the first error of reading. -/
theorem written_output (copy : Copy) : (written copy).output = copy.body.cut.bytes := by
  unfold CommandLine.written Stream.whole
  cases copy.body.firstError? <;> rfl

theorem written_ending (copy : Copy) :
    (written copy).ending =
      match copy.body.firstError? with
      | none => .success
      | some e => .failure (.unreadable e) := by
  unfold CommandLine.written Stream.whole
  cases copy.body.firstError? <;> rfl

theorem concludes_written (copy : Copy) : Concludes (.ok copy) (written copy) := by
  have houtput := written_output copy
  have hending := written_ending copy
  constructor
  case written =>
    intro _ hr
    cases hr
    exact houtput
  case begins =>
    intro _ hr
    cases hr
    obtain ⟨rest, hrest⟩ := Stream.cut_begins copy.body
    rw [houtput]
    exact ⟨Stream.bytes rest, by rw [← Stream.bytes_append, hrest]⟩
  case silent =>
    intro _ hr
    cases hr
  case succeeds =>
    rw [hending]
    cases he : copy.body.firstError? with
    | none => exact ⟨fun _ => ⟨copy, rfl, he⟩, fun _ => rfl⟩
    | some e =>
      refine iff_of_false nofun ?_
      rintro ⟨_, hr, hnone⟩
      cases hr
      cases he.symm.trans hnone
  case whole =>
    intro hsuccess
    rw [hending] at hsuccess
    cases he : copy.body.firstError? with
    | none => exact ⟨copy, rfl, by rw [houtput, Stream.cut_of_firstError? he]⟩
    | some e => rw [he] at hsuccess; cases hsuccess
  case fails =>
    rw [hending]
    cases copy.body.firstError? with
    | none => exact .inl rfl
    | some e => exact .inr ⟨_, rfl⟩

theorem concludes_concluded (r : Except Halt Copy) : Concludes r (concluded r) := by
  cases r with
  | ok copy => exact concludes_written copy
  | error halt =>
    obtain ⟨e, he⟩ : ∃ e, concluded (.error halt) = ⟨[], .failure e⟩ := by
      cases halt <;> exact ⟨_, rfl⟩
    rw [he]
    constructor
    case written =>
      intro _ hr
      cases hr
    case begins =>
      intro _ hr
      cases hr
    case silent => exact fun _ _ => rfl
    case succeeds => exact iff_of_false nofun (by simp)
    case whole =>
      intro hsuccess
      cases hsuccess
    case fails => exact .inr ⟨e, rfl⟩

/-! ## Running -/

/-- A run that is not prepared reports why, and nothing else happens. -/
theorem fetch_of_unprepared {e : ProgramError} (h : prepare a w j = .error e) :
    fetch a w j = (⟨[], .failure e⟩, j) := by
  rw [fetch, h]

/-- A run that is prepared makes its call and writes what comes of it. -/
theorem fetch_of_prepared {cache : Cache} (h : prepare a w j = .ok (cache, o)) :
    fetch a w j =
      (concluded (cache.copyRetrying a.url o (.doubling a.retries) w j).1,
        (cache.copyRetrying a.url o (.doubling a.retries) w j).2) := by
  rw [fetch, h]

/-- A URL that cannot be read is not asked for, and asking again would not help. -/
theorem copyRetrying_of_invalid {cache : Cache} {source : String} {f : Failure} (p : RetryPolicy)
    (h : readSource source = .error f) (w : World) (j : Journal) :
    cache.copyRetrying source o p w j = (.error (.failed f), j) := by
  have hfinal : f.isTransient = false := by
    unfold readSource at h
    split at h
    · cases h; rfl
    · split at h
      · cases h; rfl
      · split at h
        · cases h; rfl
        · cases h
  exact Act.retrying_of_final (Cache.copy_of_invalid h w j) (by simp [RetryPolicy.allows, hfinal])

/-- **A run that cannot get anywhere** fails, writes nothing and leaves no trace. -/
theorem fetch_of_unfit (h : Unfit a w j) : ∃ e, fetch a w j = (⟨[], .failure e⟩, j) := by
  obtain ⟨e, -, hprepare⟩ | ⟨c, tokens, o, prepared, hprepare⟩ := prepare_cases a w j
  · exact ⟨e, fetch_of_unprepared hprepare⟩
  · cases h with
    | unloadable unloaded => cases prepared.loaded.symm.trans unloaded
    | tokenless loaded unconfigured ungiven =>
      obtain rfl := Except.ok.inj (prepared.loaded.symm.trans loaded)
      cases prepared.tokens.symm.trans (tokenSource_eq_none_iff.2 ⟨unconfigured, ungiven⟩)
    | outOfRange given none =>
      obtain ⟨t, -, ht⟩ := prepared.aged _ given
      exact absurd ht (none t)
    | @invalid f unread =>
      refine ⟨.failed f, ?_⟩
      rw [fetch_of_prepared hprepare, copyRetrying_of_invalid _ unread]
      rfl

/-- A configured file makes every token of the arguments superfluous. -/
theorem fetch_of_tokenFile {path : String} (loaded : Config.load w.files a.config = .ok c)
    (configured : c.tokenFile = some path) (token : Option String) :
    fetch { a with token } w j = fetch a w j := by
  have htokens (given : Option String) : tokenSource c given = some (.file path) :=
    tokenSource_of_file configured given
  have hprepare : prepare { a with token } w j = prepare a w j := by
    rw [prepare_of_tokens loaded (htokens a.token)]
    exact prepare_of_tokens loaded (htokens token)
  unfold fetch
  rw [hprepare]

/-- The surroundings have nothing but a token to say about the arguments. -/
theorem ofArguments_surroundings {arguments : List String} {envToken : Option String}
    (h : Request.ofArguments arguments envToken = .ok (.fetch a)) (envToken' : Option String) :
    ∃ token, Request.ofArguments arguments envToken' = .ok (.fetch { a with token }) := by
  unfold Request.ofArguments at h ⊢
  split at h
  · next r _ =>
    unfold Given.arguments at h ⊢
    cases hconfig : r.given.text? .config with
    | none => simp [hconfig, Except.map] at h
    | some config =>
      cases hurl : r.given.text? .url with
      | none => simp [hconfig, hurl, Except.map] at h
      | some url =>
        simp only [hconfig, hurl, Except.map, Except.ok.injEq, Request.fetch.injEq] at h ⊢
        exact ⟨_, by rw [← h]⟩
  · cases h
  · cases h
  · cases h

/-- **A run that is asked to fetch a URL** makes one call of the cache, with its repeats, as the arguments
want it, and writes what can be read of the content. It succeeds exactly when that is all of it. A run that
cannot get anywhere sends nothing and writes nothing, and a configured file of tokens goes before every
other token. -/
theorem run_fetches {arguments : List String} {envToken : Option String}
    (parsed : Request.ofArguments arguments envToken = .ok (.fetch a)) (w : World) (j : Journal) :
    (∀ c tokens o, Prepared a w j c tokens o →
      (run arguments envToken w j).2 =
          ((Cache.ofConfig c tokens).copyRetrying a.url o (.doubling a.retries) w j).2 ∧
        Concludes ((Cache.ofConfig c tokens).copyRetrying a.url o (.doubling a.retries) w j).1
          (run arguments envToken w j).1) ∧
      (Unfit a w j → ∃ e, run arguments envToken w j = (⟨[], .failure e⟩, j)) ∧
      (Unfit a w j ∨ ∃ c tokens o, Prepared a w j c tokens o) ∧
      ∀ c path, Config.load w.files a.config = .ok c → c.tokenFile = some path →
        (∀ envToken', run arguments envToken' w j = run arguments envToken w j) ∧
          ∀ arguments' envToken' token,
            Request.ofArguments arguments' envToken' = .ok (.fetch { a with token }) →
            run arguments' envToken' w j = run arguments envToken w j := by
  have hrun : run arguments envToken w j = fetch a w j := by rw [run, parsed]
  refine ⟨?_, ?_, ?_, ?_⟩
  · intro c tokens o prepared
    rw [hrun, fetch_of_prepared prepared.prepare_eq]
    exact ⟨rfl, concludes_concluded _⟩
  · intro unfit
    rw [hrun]
    exact fetch_of_unfit unfit
  · obtain ⟨e, unfit, -⟩ | ⟨c, tokens, o, prepared, -⟩ := prepare_cases a w j
    · exact .inl unfit
    · exact .inr ⟨c, tokens, o, prepared⟩
  · intro c path loaded configured
    have others (arguments' : List String) (envToken' token : Option String)
        (h : Request.ofArguments arguments' envToken' = .ok (.fetch { a with token })) :
        run arguments' envToken' w j = run arguments envToken w j := by
      rw [hrun, run, h]
      exact fetch_of_tokenFile loaded configured token
    refine ⟨fun envToken' => ?_, others⟩
    obtain ⟨token, h⟩ := ofArguments_surroundings parsed envToken'
    exact others arguments envToken' token h

/-- A file with an empty configuration, and a copy whose content breaks off. -/
def brokenWorld : World where
  server := .ofAnswers [
    Cache.said ("\x7b\"artifacts\":[\x7b\"namespace\":\"n\",\"path\":\"p\"," ++
      "\"createdAt\":\"2024-01-01T00:00:00Z\"\x7d]\x7d"),
    Cache.said ("\x7b\"signedDownloadUrl\":\"http://s/?k\",\"artifact\":" ++
      "\x7b\"namespace\":\"n\",\"path\":\"p\",\"createdAt\":\"2024-01-01T00:00:00Z\"\x7d\x7d"),
    .reply .zero { pieces := [[104, 105, 33]], framing := .length (some 9) }]
  files := Files.empty.put "c" (.content [])
  clock := Cache.newYear

set_option maxRecDepth 10000 in
/-- The front of the content has been written when reading it fails. -/
theorem run_fetches_broken :
    Request.ofArguments ["c", "http://o/", "--max-age", "60"] (some "t") =
        .ok (.fetch { config := "c", url := "http://o/", maxAge := some 60, token := some "t" }) ∧
      ∃ c tokens o copy e,
        ((Cache.ofConfig c tokens).copyRetrying "http://o/" o (.doubling 0) brokenWorld {}).1 =
          .ok copy ∧
        copy.body.firstError? = some e ∧
        (run ["c", "http://o/", "--max-age", "60"] (some "t") brokenWorld {}).1.output =
          [104, 105, 33] := by
  have parsed : Request.ofArguments ["c", "http://o/", "--max-age", "60"] (some "t") =
      .ok (.fetch { config := "c", url := "http://o/", maxAge := some 60, token := some "t" }) := by
    rfl
  obtain ⟨houtput, hcode⟩ :
      (run ["c", "http://o/", "--max-age", "60"] (some "t") brokenWorld {}).1.output =
          [104, 105, 33] ∧
        (run ["c", "http://o/", "--max-age", "60"] (some "t") brokenWorld {}).1.ending.code = 1 := by
    decide +kernel
  obtain ⟨calls, unfit, hunfit | ⟨c, tokens, o, prepared⟩, -⟩ := run_fetches parsed brokenWorld {}
  · obtain ⟨e, he⟩ := unfit hunfit
    rw [he] at houtput
    cases houtput
  · obtain ⟨-, concludes⟩ := calls c tokens o prepared
    cases hr : ((Cache.ofConfig c tokens).copyRetrying "http://o/" o (.doubling 0) brokenWorld
        {}).1 with
    | error halt =>
      rw [concludes.silent halt hr] at houtput
      cases houtput
    | ok copy =>
      cases he : copy.body.firstError? with
      | none =>
        rw [concludes.succeeds.2 ⟨copy, hr, he⟩] at hcode
        cases hcode
      | some e => exact ⟨parsed, c, tokens, o, copy, e, hr, he, houtput⟩

end CommandLine

end ContentCache
