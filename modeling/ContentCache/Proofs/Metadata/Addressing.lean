import ContentCache.Cache
import ContentCache.Proofs.Entries
import ContentCache.Proofs.Url.Extending

/-!
# Where a method is addressed

The endpoint of a configuration is checked as a URL, but the URL of a method is made from its text, of
which only the slashes at the end are cut off. So the two views agree as long as the text does not end in
something that reading a URL passes over or changes, has neither query nor fragment, and has no more
slashes at the end of its path than stand at the end of the text.

* `slashesAtEnd`: the slashes at the end of a text.
* `Addressed`: a URL is that of a method below an endpoint.
* `EndsPlainly`: at the end of an endpoint's text nothing stands that counts only when more follows.

Main statement: `methodUrl_addressed_iff` (when the URL of a method is the one that the endpoint's own URL
calls for).
-/

namespace ContentCache.Metadata

/-! ## Slashes at the end -/

/-- The slashes at the end of a text. -/
def slashesAtEnd (s : String) : Nat := (s.toList.reverse.takeWhile (· = '/')).length

theorem toList_eq_append_slashes (s : String) :
    s.toList = (withoutSlashes s).toList ++ List.replicate (slashesAtEnd s) '/' := by
  have hsplit := List.takeWhile_append_dropWhile (p := (· = '/')) (l := s.toList.reverse)
  have hall : s.toList.reverse.takeWhile (· = '/') = List.replicate (slashesAtEnd s) '/' := by
    refine List.eq_replicate_iff.2 ⟨rfl, fun c hc => ?_⟩
    simpa using List.all_eq_true.1 (List.all_takeWhile (p := (· = '/')) (l := s.toList.reverse)) c hc
  rw [hall] at hsplit
  have := congrArg List.reverse hsplit
  simpa [withoutSlashes] using this.symm

theorem getLast_withoutSlashes (s : String) : (withoutSlashes s).toList.getLast? ≠ some '/' := by
  intro h
  have hhead := Url.head_dropWhile (p := (· = '/')) s.toList.reverse '/'
    (by simpa [withoutSlashes] using h)
  simp at hhead

/-- Texts that do not end in a slash, with slashes added, are the same only with as many. -/
theorem append_slashes_inj {a b : List Char} {j k : Nat} (ha : a.getLast? ≠ some '/')
    (hb : b.getLast? ≠ some '/') (h : a ++ List.replicate j '/' = b ++ List.replicate k '/') :
    a = b ∧ j = k := by
  induction j generalizing k with
  | zero =>
    cases k with
    | zero => exact ⟨by simpa using h, rfl⟩
    | succ k =>
      rw [List.replicate_zero, List.append_nil] at h
      refine absurd ?_ ha
      rw [h, List.replicate_succ', ← List.append_assoc, List.getLast?_append]
      rfl
  | succ j ih =>
    cases k with
    | zero =>
      rw [List.replicate_zero, List.append_nil] at h
      refine absurd ?_ hb
      rw [← h, List.replicate_succ', ← List.append_assoc, List.getLast?_append]
      rfl
    | succ k =>
      rw [List.replicate_succ', List.replicate_succ', ← List.append_assoc, ← List.append_assoc] at h
      obtain ⟨hab, hjk⟩ := ih (List.append_cancel_right h)
      exact ⟨hab, congrArg _ hjk⟩

/-- The slashes that are added to a text are all that stand at the end just when it does not end in one. -/
theorem withoutSlashes_eq_iff {s : String} {a : List Char} {j : Nat}
    (h : s.toList = a ++ List.replicate j '/') :
    (withoutSlashes s).toList = a ↔ slashesAtEnd s = j := by
  have hs := toList_eq_append_slashes s
  constructor
  · intro ha
    exact (append_slashes_inj (getLast_withoutSlashes s) (ha ▸ getLast_withoutSlashes s) (hs.symm.trans h)).2
  · rintro rfl
    exact (List.append_cancel_right (hs.symm.trans h))

theorem le_slashesAtEnd {s : String} {a : List Char} {j : Nat}
    (h : s.toList = a ++ List.replicate j '/') : j ≤ slashesAtEnd s := by
  unfold slashesAtEnd
  rw [h, List.reverse_append, List.reverse_replicate,
    List.takeWhile_append_of_pos fun c hc => by simp [List.eq_of_mem_replicate hc]]
  simp

/-! ## The URL of a method -/

/-- What is added to the endpoint for a method, without the first slash. -/
def methodChars (method : Method) : List Char := servicePath.toList ++ '/' :: method.name.toList

theorem methodUrl_toList (c : Client) (method : Method) :
    (c.methodUrl method).toList = (withoutSlashes c.endpoint).toList ++ '/' :: methodChars method := by
  simp [Client.methodUrl, methodChars]

theorem methodChars_plain (method : Method) :
    (∀ c ∈ methodChars method, Url.isBreak c = false ∧ Url.endsPath c = false) ∧
      ∀ c ∈ ('/' :: methodChars method).getLast?, Url.isOuterBlank c = false := by
  have hall : (methodChars method).all (fun c => !Url.isBreak c && !Url.endsPath c) = true := by
    cases method <;> decide
  have hend : ('/' :: methodChars method).getLast?.all (fun c => !Url.isOuterBlank c) = true := by
    cases method <;> decide
  constructor
  · intro c hc
    simpa using List.all_eq_true.1 hall c hc
  · intro c hc
    rw [Option.mem_def.1 hc] at hend
    simpa using hend

/-- The pieces of what is added are segments as they are. -/
theorem addPieces_methodChars (segments : List (List Char)) (method : Method) :
    Url.pathChars (Url.addPieces .web segments (Url.pathPieces .web (methodChars method))) =
      Url.pathChars segments ++ '/' :: methodChars method := by
  have hpieces : Url.pathPieces .web (methodChars method) =
      [servicePath.toList, method.name.toList] := by
    cases method <;> decide
  have hadded : Url.addPieces .web segments [servicePath.toList, method.name.toList] =
      method.name.toList :: servicePath.toList :: segments := by
    cases method <;> rfl
  rw [hpieces, hadded, Url.pathChars_cons, Url.pathChars_cons]
  simp [methodChars]

/-! ## When a method is addressed -/

/-- A URL is that of a method below an endpoint: it has the scheme, host and port of the endpoint, its
path with the service and the method behind it, and no query and no fragment. -/
structure Addressed (u v : Url) (method : Method) : Prop where
  scheme : v.scheme = u.scheme
  host : v.host = u.host
  port : v.port = u.port
  path : v.pathText = withoutSlashes u.pathText ++ "/" ++ servicePath ++ "/" ++ method.name
  query : v.query = none
  fragment : v.fragment = none

/-- The path with a method behind it is the one that another path calls for when the characters before the
method come to what that path is without the slashes at its end. -/
theorem pathText_eq_iff {front : List Char} (hslash : ∀ c ∈ front.head?, Url.isSlash .web c = true)
    (hends : ∀ c ∈ front, Url.endsPath c = false) {method : Method} {path : String} :
    (Url.readPathAfterHost .web (front ++ '/' :: methodChars method)).text =
        withoutSlashes path ++ "/" ++ servicePath ++ "/" ++ method.name ↔
      (withoutSlashes path).toList = Url.pathChars (Url.passed front) := by
  have hadded : (Url.readPathAfterHost .web (front ++ '/' :: methodChars method)).text.toList =
      Url.pathChars (Url.passed front) ++ '/' :: methodChars method := by
    rw [Url.readPathAfterHost_append hslash hends fun c hc => ((methodChars_plain method).1 c hc).2,
      Url.text_segments, addPieces_methodChars]
  rw [← String.toList_inj, hadded]
  simp only [String.toList_append, List.append_assoc]
  show Url.pathChars (Url.passed front) ++ '/' :: methodChars method = _ ++ '/' :: methodChars method ↔ _
  rw [List.append_cancel_right_eq, eq_comm]

/-- When the path to whose text a method is added is the one with that method behind it: when it has no
more slashes at its end than are cut off, and no slash is left before them. -/
theorem pathText_addressed_iff {rest : List Char}
    (hslash : ∀ c ∈ rest.head?, Url.isSlash .web c = true)
    (hends : ∀ c ∈ rest, Url.endsPath c = false) (k : Nat) (method : Method) :
    (Url.readPathAfterHost .web (rest ++ '/' :: methodChars method)).text =
        withoutSlashes (Url.readPathAfterHost .web (rest ++ List.replicate k '/')).text ++ "/" ++
          servicePath ++ "/" ++ method.name ↔
      slashesAtEnd (Url.readPathAfterHost .web (rest ++ List.replicate k '/')).text ≤ max 1 k ∧
        (k = 0 → ∀ c ∈ rest.getLast?, Url.isSlash .web c = false) := by
  rw [pathText_eq_iff hslash hends]
  cases k with
  | zero =>
    rw [List.replicate_zero, List.append_nil]
    by_cases hlast : ∀ c ∈ rest.getLast?, Url.isSlash .web c = false
    · rcases Url.readPathAfterHost_self hslash hends hlast with h | ⟨h, hnoslash⟩
      · rw [withoutSlashes_eq_iff (j := 1) h]
        have hge := le_slashesAtEnd (j := 1) h
        exact ⟨fun heq => ⟨by omega, fun _ => hlast⟩, fun hfew => by omega⟩
      · have hnone := append_slashes_inj (k := 0) (getLast_withoutSlashes _) hnoslash
          ((toList_eq_append_slashes _).symm.trans (h.trans (List.append_nil _).symm))
        exact iff_of_true hnone.1 ⟨by omega, fun _ => hlast⟩
    · -- A slash that is not cut off is still there in front of the method.
      simp only [Classical.not_forall] at hlast
      obtain ⟨d, hd, hslashed⟩ := hlast
      have hd' : Url.isSlash .web d = true := by simpa using hslashed
      obtain ⟨-, hshown⟩ := Url.readPathAfterHost_slash hslash hends hd hd'
      refine iff_of_false (fun heq => ?_) fun h => by simp [h.2 rfl d hd] at hd'
      exact getLast_withoutSlashes _ (heq ▸ hshown)
  | succ k =>
    have hslashes : ∀ c ∈ List.replicate k '/', Url.endsPath c = false := fun c hc =>
      (List.eq_of_mem_replicate hc) ▸ rfl
    have hshown : (Url.readPathAfterHost .web (rest ++ List.replicate (k + 1) '/')).text.toList =
        Url.pathChars (Url.passed rest) ++ List.replicate (k + 1) '/' := by
      rw [List.replicate_succ, Url.readPathAfterHost_append hslash hends hslashes, Url.text_segments,
        Url.pathPieces_replicate, Url.addPieces_replicate, Url.pathChars_replicate, List.replicate_succ]
    rw [withoutSlashes_eq_iff hshown]
    have hge := le_slashesAtEnd hshown
    exact ⟨fun heq => ⟨by omega, by simp⟩, fun hfew => by omega⟩

/-! ## Query and fragment -/

theorem tail_ofPath_iff (scheme : List Char) (authority : Url.Authority) (rest : List Char) {x : List Char}
    (hx : ∀ c ∈ x, Url.endsPath c = false) :
    (Url.ofPath scheme authority (rest ++ x)).query = none ∧
        (Url.ofPath scheme authority (rest ++ x)).fragment = none ↔
      ∀ c ∈ rest, Url.endsPath c = false := by
  refine (Url.readTail_eq_none_iff (rest ++ x)).trans ⟨fun h c hc => ?_, fun h c hc => ?_⟩
  · exact h c (List.mem_append_left _ hc)
  · exact (List.mem_append.1 hc).elim (h c) (hx c)

theorem method_plain (method : Method) : ∀ c ∈ '/' :: methodChars method, Url.endsPath c = false := by
  intro c hc
  rcases List.mem_cons.1 hc with rfl | hc
  · rfl
  · exact ((methodChars_plain method).1 c hc).2

theorem isSlash_of_ends {rest : List Char} (hhead : ∀ c ∈ rest.head?, Url.endsAuthority .web c = true)
    (hends : ∀ c ∈ rest, Url.endsPath c = false) : ∀ c ∈ rest.head?, Url.isSlash .web c = true := by
  intro c hc
  have h := hhead c hc
  rwa [Url.endsAuthority, hends c (List.mem_of_head? hc), Bool.or_false] at h

theorem isSlash_of_blank {c : Char} (h : Url.isOuterBlank c = true) : Url.isSlash .web c = false :=
  (Bool.or_eq_false_iff.1 (Url.blank_plain h).2.1).1

theorem endsPath_of_blank {c : Char} (h : Url.isOuterBlank c = true) : Url.endsPath c = false :=
  (Bool.or_eq_false_iff.1 (Url.blank_plain h).2.1).2

/-! ## Texts without stray blanks -/

/-- When a method is addressed that is added behind what stands in front of the slashes at the end. -/
theorem addressed_ofPath_iff {scheme rest : List Char} {authority : Url.Authority}
    (hhead : ∀ c ∈ rest.head?, Url.endsAuthority .web c = true) (k : Nat) (method : Method) :
    Addressed (Url.ofPath scheme authority (rest ++ List.replicate k '/'))
        (Url.ofPath scheme authority (rest ++ '/' :: methodChars method)) method ↔
      (Url.ofPath scheme authority (rest ++ List.replicate k '/')).query = none ∧
        (Url.ofPath scheme authority (rest ++ List.replicate k '/')).fragment = none ∧
        slashesAtEnd (Url.ofPath scheme authority (rest ++ List.replicate k '/')).pathText ≤ max 1 k ∧
        (k = 0 → ∀ c ∈ rest.getLast?, Url.isSlash .web c = false) := by
  have hnone := tail_ofPath_iff scheme authority rest (x := List.replicate k '/') fun c hc =>
    (List.eq_of_mem_replicate hc) ▸ rfl
  have hnone' := tail_ofPath_iff scheme authority rest (method_plain method)
  constructor
  · intro h
    have hends := hnone'.1 ⟨h.query, h.fragment⟩
    have hpath := (pathText_addressed_iff (isSlash_of_ends hhead hends) hends k method).1 h.path
    exact ⟨(hnone.2 hends).1, (hnone.2 hends).2, hpath.1, hpath.2⟩
  · rintro ⟨hquery, hfragment, hfew, hcut⟩
    have hends := hnone.1 ⟨hquery, hfragment⟩
    exact
      { scheme := rfl
        host := rfl
        port := rfl
        path := (pathText_addressed_iff (isSlash_of_ends hhead hends) hends k method).2 ⟨hfew, hcut⟩
        query := (hnone'.2 hends).1
        fragment := (hnone'.2 hends).2 }

/-! ## Texts with stray blanks -/

section

variable {scheme rest x : List Char} {authority : Url.Authority}

/-- A path that blanks are added to is longer than it is without them and the slashes at its end. -/
theorem length_passed_stray (hhead : ∀ c ∈ rest.head?, Url.endsAuthority .web c = true) (hrest : rest ≠ [])
    (hblank : ∀ c ∈ x, Url.isOuterBlank c = true) (hx : x ≠ [])
    (hends : ∀ c ∈ rest, Url.endsPath c = false) :
    (withoutSlashes (Url.readPathAfterHost .web rest).text).toList.length <
      (Url.pathChars (Url.passed (rest ++ x))).length := by
  obtain ⟨c, x', rfl⟩ := List.exists_cons_of_ne_nil hx
  obtain ⟨shown, j, hshown, hshorter⟩ := Url.readPathAfterHost_shorter (isSlash_of_ends hhead hends) hends
    hrest (fun d hd => isSlash_of_blank (hblank d hd)) List.mem_cons_self
    (Url.blank_plain (hblank c List.mem_cons_self)).2.2
  have hge := le_slashesAtEnd hshown
  have hlength := congrArg List.length (hshown.symm.trans (toList_eq_append_slashes _))
  simp only [List.length_append, List.length_replicate] at hlength
  omega

theorem isSlash_append (hslash : ∀ c ∈ rest.head?, Url.isSlash .web c = true) (hrest : rest ≠ []) :
    ∀ c ∈ (rest ++ x).head?, Url.isSlash .web c = true := by
  cases rest with
  | nil => exact absurd rfl hrest
  | cons d rest => exact hslash

/-- Blanks that count in a path are part of it. -/
theorem not_addressed_of_stray {method : Method}
    (hhead : ∀ c ∈ rest.head?, Url.endsAuthority .web c = true) (hrest : rest ≠ [])
    (hblank : ∀ c ∈ x, Url.isOuterBlank c = true) (hx : x ≠ []) :
    ¬ Addressed (Url.ofPath scheme authority rest)
      (Url.ofPath scheme authority (rest ++ x ++ '/' :: methodChars method)) method := by
  intro h
  have hall := (tail_ofPath_iff scheme authority (rest ++ x) (method_plain method)).1
    ⟨h.query, h.fragment⟩
  have hends : ∀ c ∈ rest, Url.endsPath c = false := fun c hc => hall c (List.mem_append_left _ hc)
  have hpath := congrArg List.length
    ((pathText_eq_iff (isSlash_append (isSlash_of_ends hhead hends) hrest) hall).1 h.path)
  exact absurd hpath (Nat.ne_of_lt (length_passed_stray hhead hrest hblank hx hends))

theorem pathText_ne_of_stray (hhead : ∀ c ∈ rest.head?, Url.endsAuthority .web c = true) (hrest : rest ≠ [])
    (hblank : ∀ c ∈ x, Url.isOuterBlank c = true) (hx : x ≠ [])
    (hends : ∀ c ∈ rest, Url.endsPath c = false) :
    (Url.ofPath scheme authority (rest ++ x ++ ['/'])).pathText ≠ "/" := by
  have hall : ∀ c ∈ rest ++ x, Url.endsPath c = false := fun c hc =>
    (List.mem_append.1 hc).elim (hends c) fun hc => endsPath_of_blank (hblank c hc)
  have hshown : (Url.ofPath scheme authority (rest ++ x ++ ['/'])).pathText.toList =
      Url.pathChars (Url.passed (rest ++ x)) ++ ['/'] := by
    show (Url.readPathAfterHost .web (rest ++ x ++ ['/'])).text.toList = _
    rw [Url.readPathAfterHost_append (isSlash_append (isSlash_of_ends hhead hends) hrest) hall (by simp),
      Url.text_segments]
    exact Url.pathChars_cons [] _
  have hlonger := length_passed_stray hhead hrest hblank hx hends
  intro h
  rw [h] at hshown
  have hlength := congrArg List.length hshown
  have hone : "/".toList.length = 1 := rfl
  rw [hone, List.length_append, List.length_singleton] at hlength
  omega

end

/-- Blanks behind a host that no path follows are part of the host. -/
theorem addressed_ofPath_nil_iff {scheme : List Char} {authority authority' : Url.Authority}
    {method : Method} :
    Addressed (Url.ofPath scheme authority []) (Url.ofPath scheme authority' ('/' :: methodChars method))
        method ↔
      authority'.host = authority.host ∧ authority'.port = authority.port := by
  have hpath : (Url.readPathAfterHost .web ([] ++ '/' :: methodChars method)).text =
      withoutSlashes (Url.readPathAfterHost .web []).text ++ "/" ++ servicePath ++ "/" ++ method.name :=
    (pathText_addressed_iff (by simp) (by simp) 0 method).2 ⟨by decide +kernel, by simp⟩
  have hnone := (tail_ofPath_iff scheme authority' [] (method_plain method)).2 (by simp)
  constructor
  · intro h
    exact ⟨h.host, h.port⟩
  · rintro ⟨hhost, hport⟩
    exact
      { scheme := rfl
        host := hhost
        port := hport
        path := hpath
        query := hnone.1
        fragment := hnone.2 }

/-! ## When a method is addressed -/

/-- At the end of an endpoint's text, behind which the service is written, nothing stands that the
endpoint's own URL does not show. -/
structure EndsPlainly (endpoint : String) (u : Url) : Prop where
  /-- No slash is left: neither a backslash nor one that only breaks follow is cut off. -/
  slash : slashesAtEnd endpoint = 0 →
    ∀ c ∈ (Url.counted endpoint.toList).getLast?, Url.isSlash .web c = false
  /-- No blank is left but breaks, or it stands right behind the host and that is still read as before. -/
  blank : Url.strayBlanks endpoint.toList = [] ∨
    ∃ w, Url.read (endpoint ++ "/") = .ok w ∧ w.host = u.host ∧ w.port = u.port ∧ w.pathText = "/"

/-- An endpoint ends plainly when its last character is neither a blank nor a backslash. -/
theorem endsPlainly_of_last {endpoint : String} {u : Url}
    (hlast : ∀ c ∈ endpoint.toList.getLast?, Url.isOuterBlank c = false ∧ c ≠ '\\') :
    EndsPlainly endpoint u where
  slash := by
    intro hnone c hc
    rw [Url.getLast_counted fun c hc => (hlast c hc).1] at hc
    have hslash : c ≠ '/' := by
      rintro rfl
      have hsplit := toList_eq_append_slashes endpoint
      rw [hnone, List.replicate_zero, List.append_nil] at hsplit
      exact getLast_withoutSlashes endpoint (hsplit ▸ hc)
    simp [Url.isSlash, hslash, (hlast c hc).2]
  blank := .inl (Url.strayBlanks_eq_nil fun c hc => (hlast c hc).1)

/-- All that it takes of an endpoint for its methods to be addressed. -/
def Addressable (endpoint : String) (u : Url) : Prop :=
  u.query = none ∧ u.fragment = none ∧ slashesAtEnd u.pathText ≤ max 1 (slashesAtEnd endpoint) ∧
    EndsPlainly endpoint u

/-- Nothing is cut off in front of blanks. -/
theorem withoutSlashes_of_stray {s : String} (h : Url.strayBlanks s.toList ≠ []) :
    (withoutSlashes s).toList = s.toList := by
  have hsplit := toList_eq_append_slashes s
  cases hk : slashesAtEnd s with
  | zero =>
    rw [hk, List.replicate_zero, List.append_nil] at hsplit
    exact hsplit.symm
  | succ k =>
    refine absurd (Url.strayBlanks_eq_nil fun c hc => ?_) h
    rw [hsplit, hk, List.replicate_succ', ← List.append_assoc, List.getLast?_append] at hc
    obtain rfl := Option.some.inj hc
    rfl

theorem methodUrl_of_stray {c : Client} {method : Method}
    (h : Url.strayBlanks c.endpoint.toList ≠ []) :
    (c.methodUrl method).toList = c.endpoint.toList ++ '/' :: methodChars method := by
  rw [methodUrl_toList, withoutSlashes_of_stray h]

theorem toList_append_slash (s : String) : (s ++ "/").toList = s.toList ++ '/' :: [] := by simp

section

variable {c : Client} {scheme chars rest : List Char} {authority : Url.Authority}

/-- When a method is addressed by a client whose endpoint has no stray blanks. -/
theorem read_methodUrl_of_plain (hcut : Url.Cut (Url.counted c.endpoint.toList) scheme chars rest)
    (hauthority : Url.authorityOf scheme chars = .ok authority)
    (hstray : Url.strayBlanks c.endpoint.toList = []) (method : Method) :
    (∃ v, Url.read (c.methodUrl method) = .ok v ∧
        Addressed (Url.ofPath scheme authority rest) v method) ↔
      Addressable c.endpoint (Url.ofPath scheme authority rest) := by
  have hplain := methodChars_plain method
  have hcut' := hcut
  rw [← List.append_nil (Url.counted c.endpoint.toList), ← hstray, ← Url.inFront_eq hcut.counted_ne_nil,
    toList_eq_append_slashes c.endpoint, Url.inFront_replicate] at hcut'
  obtain ⟨front, rfl, hfront⟩ := hcut'.of_slashes
  have hmethod : Url.Cut (Url.counted (c.methodUrl method).toList) scheme chars
      (front ++ '/' :: methodChars method) := by
    rw [methodUrl_toList, Url.counted_slash (fun d hd => (hplain.1 d hd).1) hplain.2]
    exact hfront.append (by simp; decide) fun _ d hd => by obtain rfl := Option.some.inj hd; rfl
  have hends : EndsPlainly c.endpoint
        (Url.ofPath scheme authority (front ++ List.replicate (slashesAtEnd c.endpoint) '/')) ↔
      (slashesAtEnd c.endpoint = 0 → ∀ d ∈ front.getLast?, Url.isSlash .web d = false) := by
    have hlast (hzero : slashesAtEnd c.endpoint = 0) :
        (∀ d ∈ (Url.counted c.endpoint.toList).getLast?, Url.isSlash .web d = false) ↔
          ∀ d ∈ front.getLast?, Url.isSlash .web d = false := by
      rw [hcut.getLast_iff, hzero, List.replicate_zero, List.append_nil]
    exact ⟨fun h hzero => (hlast hzero).1 (h.slash hzero),
      fun h => ⟨fun hzero => (hlast hzero).2 (h hzero), .inl hstray⟩⟩
  rw [hmethod.read, hauthority, Addressable, hends, ← addressed_ofPath_iff hfront.ends]
  constructor
  · rintro ⟨v, hv, haddressed⟩
    obtain rfl := Except.ok.inj hv
    exact haddressed
  · exact fun haddressed => ⟨_, rfl, haddressed⟩

/-- When a method is addressed by a client whose endpoint has no path and stray blanks: when host and port
are read the same with them. -/
theorem read_methodUrl_of_pathless (hcut : Url.Cut (Url.counted c.endpoint.toList) scheme chars [])
    (hstray : Url.strayBlanks c.endpoint.toList ≠ []) (method : Method) :
    (∃ v, Url.read (c.methodUrl method) = .ok v ∧
        Addressed (Url.ofPath scheme authority []) v method) ↔
      Addressable c.endpoint (Url.ofPath scheme authority []) := by
  have hplain := methodChars_plain method
  have hmethod := hcut.slash_nil (fun d hd => (hplain.1 d hd).1) hplain.2
  rw [← methodUrl_of_stray hstray] at hmethod
  have hclosed := hcut.slash_nil (y := []) (by simp) (by simp [Url.isOuterBlank])
  rw [← toList_append_slash] at hclosed
  have hslash : ∀ d ∈ (Url.counted c.endpoint.toList).getLast?, Url.isSlash .web d = false :=
    hcut.getLast_iff.2 (by simp)
  rw [hmethod.read]
  have hclose := hclosed.read
  cases hread : Url.authorityOf scheme (chars ++ Url.strayBlanks c.endpoint.toList) with
  | error e =>
    rw [hread] at hclose
    refine iff_of_false (by rintro ⟨v, hv, -⟩; cases hv) ?_
    rintro ⟨-, -, -, hends⟩
    obtain ⟨w, hw, -⟩ := hends.blank.resolve_left hstray
    cases hclose.symm.trans hw
  | ok authority' =>
    rw [hread] at hclose
    constructor
    · rintro ⟨v, hv, haddressed⟩
      obtain rfl := Except.ok.inj hv
      obtain ⟨hhost, hport⟩ := addressed_ofPath_nil_iff.1 haddressed
      have hone : slashesAtEnd (Url.readPathAfterHost .web []).text = 1 := by decide +kernel
      exact ⟨rfl, rfl, Nat.le_trans (Nat.le_of_eq hone) (Nat.le_max_left ..), fun _ => hslash,
        .inr ⟨_, hclose, hhost, hport, rfl⟩⟩
    · rintro ⟨-, -, -, hends⟩
      obtain ⟨w, hw, hhost, hport, -⟩ := hends.blank.resolve_left hstray
      obtain rfl := Except.ok.inj (hclose.symm.trans hw)
      exact ⟨_, rfl, addressed_ofPath_nil_iff.2 ⟨hhost, hport⟩⟩

/-- No method is addressed by a client whose endpoint has a path and stray blanks. -/
theorem read_methodUrl_of_stray (hcut : Url.Cut (Url.counted c.endpoint.toList) scheme chars rest)
    (hauthority : Url.authorityOf scheme chars = .ok authority) (hrest : rest ≠ [])
    (hstray : Url.strayBlanks c.endpoint.toList ≠ []) (method : Method) :
    (∃ v, Url.read (c.methodUrl method) = .ok v ∧
        Addressed (Url.ofPath scheme authority rest) v method) ↔
      Addressable c.endpoint (Url.ofPath scheme authority rest) := by
  have hplain := methodChars_plain method
  have hblank {d : Char} (hd : d ∈ Url.strayBlanks c.endpoint.toList) := Url.isOuterBlank_of_mem_stray hd
  have hmethod := hcut.slash hrest (fun d hd => (hplain.1 d hd).1) hplain.2
  rw [← methodUrl_of_stray hstray] at hmethod
  have hclosed := hcut.slash (y := []) hrest (by simp) (by simp [Url.isOuterBlank])
  rw [← toList_append_slash] at hclosed
  refine iff_of_false ?_ ?_
  · rintro ⟨v, hv, haddressed⟩
    rw [hmethod.read, hauthority] at hv
    obtain rfl := Except.ok.inj hv
    exact not_addressed_of_stray hcut.ends hrest (fun d => hblank) hstray haddressed
  · rintro ⟨hquery, hfragment, -, hends⟩
    obtain ⟨w, hw, -, -, hpath⟩ := hends.blank.resolve_left hstray
    have hnone : ∀ d ∈ rest, Url.endsPath d = false :=
      (tail_ofPath_iff scheme authority rest (x := []) (by simp)).1
        (by rw [List.append_nil]; exact ⟨hquery, hfragment⟩)
    rw [hclosed.read, hauthority] at hw
    obtain rfl := Except.ok.inj hw
    exact pathText_ne_of_stray hcut.ends hrest (fun d => hblank) hstray hnone hpath

end

/-- **When the URL of a method is the one that the endpoint calls for**: when the endpoint has no query and
no fragment, its path ends in no more slashes than its text, and its text ends plainly. -/
theorem methodUrl_addressed_iff {config : Config} {tokens : TokenSource} {u : Url}
    (hcheck : config.check = .ok ()) (hread : Url.read config.endpoint = .ok u) (method : Method) :
    (∃ v, Url.read ((Store.ofConfig config tokens).metadata.methodUrl method) = .ok v ∧
        Addressed u v method) ↔
      u.query = none ∧ u.fragment = none ∧
        slashesAtEnd u.pathText ≤ max 1 (slashesAtEnd config.endpoint) ∧
        EndsPlainly config.endpoint u := by
  obtain ⟨⟨u', hread', hweb⟩, -⟩ := Config.check_eq_ok_iff.1 hcheck
  obtain rfl := Except.ok.inj (hread.symm.trans hread')
  obtain ⟨scheme, chars, rest, hcut⟩ := Url.exists_cut hread hweb
  rw [hcut.read] at hread
  cases hauthority : Url.authorityOf scheme chars with
  | error e =>
    rw [hauthority] at hread
    cases hread
  | ok authority =>
    rw [hauthority] at hread
    obtain rfl := Except.ok.inj hread
    by_cases hstray : Url.strayBlanks config.endpoint.toList = []
    · exact read_methodUrl_of_plain (c := (Store.ofConfig config tokens).metadata) hcut hauthority hstray
        method
    · by_cases hrest : rest = []
      · subst hrest
        exact read_methodUrl_of_pathless (c := (Store.ofConfig config tokens).metadata) hcut hstray method
      · exact read_methodUrl_of_stray (c := (Store.ofConfig config tokens).metadata) hcut hauthority hrest
          hstray method

/-- An endpoint with a port and several slashes at its end. -/
def slashedUrl : Url where
  scheme := "http"
  authority := some { host := some (.name "h"), port := some 81 }
  path := .segments ["a", "", ""]

theorem methodUrl_addressed_slashed :
    ({ endpoint := "http://h:81/b/../a//" } : Config).check = .ok () ∧
      Url.read "http://h:81/b/../a//" = .ok slashedUrl ∧
      ∃ v, Url.read ((Store.ofConfig { endpoint := "http://h:81/b/../a//" } (.fixed "t")).metadata.methodUrl
          .listArtifacts) = .ok v ∧ Addressed slashedUrl v .listArtifacts := by
  have hcheck : (({ endpoint := "http://h:81/b/../a//" } : Config).check).toOption = some () := by
    decide +kernel
  have hread : (Url.read "http://h:81/b/../a//").toOption = some slashedUrl := by decide +kernel
  have hlast : EndsPlainly "http://h:81/b/../a//" slashedUrl := by
    have hend : "http://h:81/b/../a//".toList.getLast? = some '/' := by decide
    refine endsPlainly_of_last fun c hc => ?_
    obtain rfl := Option.some.inj (hend.symm.trans hc)
    decide
  exact ⟨eq_ok_of_toOption hcheck, eq_ok_of_toOption hread,
    (methodUrl_addressed_iff (eq_ok_of_toOption hcheck) (eq_ok_of_toOption hread) .listArtifacts).2
      ⟨by decide +kernel, by decide +kernel, by decide +kernel, hlast⟩⟩

/-- The URL of an endpoint whose text ends in a blank, which reading it passes over. -/
def blankUrl : Url where
  scheme := "http"
  authority := some { host := some (.name "h") }
  path := .segments [""]

/-- In the URL of a method the blank is no longer at the end. -/
def strayUrl : Url where
  scheme := "http"
  authority := some { host := some (.name "h") }
  path := .segments ["%20", "storage.v1beta.ArtifactsService", "ListArtifacts"]

theorem methodUrl_stray :
    ({ endpoint := "http://h/ " } : Config).check = .ok () ∧ Url.read "http://h/ " = .ok blankUrl ∧
      ¬ ∃ v, Url.read ((Store.ofConfig { endpoint := "http://h/ " } (.fixed "t")).metadata.methodUrl
          .listArtifacts) = .ok v ∧ Addressed blankUrl v .listArtifacts := by
  have hcheck : (({ endpoint := "http://h/ " } : Config).check).toOption = some () := by decide +kernel
  have hread : (Url.read "http://h/ ").toOption = some blankUrl := by decide +kernel
  have hstray : (Url.read ((Store.ofConfig { endpoint := "http://h/ " } (.fixed "t")).metadata.methodUrl
      .listArtifacts)).toOption = some strayUrl := by decide +kernel
  refine ⟨eq_ok_of_toOption hcheck, eq_ok_of_toOption hread, ?_⟩
  rintro ⟨v, hv, haddressed⟩
  obtain rfl := Except.ok.inj ((eq_ok_of_toOption hstray).symm.trans hv)
  exact absurd haddressed.path (by decide +kernel)

end ContentCache.Metadata
