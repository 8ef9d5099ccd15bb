import ContentCache.Url.Reading

/-!
# The text of a URL, cut into its parts

The text of a URL of the web is cut into a scheme, the characters of an authority and the rest, which makes
path, query and fragment. What stands at the end of the text does not change how scheme and authority are
read, as long as it begins with a slash or there is a path already. Blanks at the end of a text are passed
over only as long as nothing follows them.

* `inFront`: what counts of a text when more follows.
* `strayBlanks`: the blanks at the end of a text that count only then.
* `Cut`: what counts of a text, cut into its parts.

Main statements: `inFront_eq` (what counts), `Cut.read` and `exists_cut` (the parts), `Cut.append`,
`Cut.extend` and `Cut.of_slashes` (more at the end).
-/

namespace ContentCache.Url

/-! ## Where a part ends -/

section

variable {p : Char → Bool} {x : List Char}

theorem takeWhile_append (hx : ∀ c ∈ x.head?, p c = false) (front : List Char) :
    (front ++ x).takeWhile p = front.takeWhile p := by
  induction front with
  | nil =>
    cases x with
    | nil => rfl
    | cons c x => simp [hx c rfl]
  | cons c front ih =>
    cases hc : p c with
    | true => simp [hc, ih]
    | false => simp [hc]

theorem dropWhile_append (hx : ∀ c ∈ x.head?, p c = false) (front : List Char) :
    (front ++ x).dropWhile p = front.dropWhile p ++ x := by
  induction front with
  | nil =>
    cases x with
    | nil => rfl
    | cons c x => simp [hx c rfl]
  | cons c front ih =>
    cases hc : p c with
    | true => simp [hc, ih]
    | false => simp [hc]

theorem head_dropWhile (cs : List Char) : ∀ c ∈ (cs.dropWhile p).head?, p c = false := by
  intro c hc
  have h := List.head?_dropWhile_not p cs
  rw [hc] at h
  exact h

end

/-! ## What counts -/

/-- What counts of a text when more follows: the blanks at its end do then, unless they are breaks. -/
def inFront (cs : List Char) : List Char := (cs.dropWhile isOuterBlank).filter fun c => !isBreak c

/-- The blanks at the end of a text that count when more follows. -/
def strayBlanks (cs : List Char) : List Char :=
  (cs.reverse.takeWhile isOuterBlank).reverse.filter fun c => !isBreak c

theorem isBreak_of_not_blank {c : Char} (h : isOuterBlank c = false) : isBreak c = false := by
  cases hc : isBreak c with
  | false => rfl
  | true =>
    simp only [isBreak, Bool.or_eq_true, decide_eq_true_iff] at hc
    rcases hc with (rfl | rfl) | rfl <;> cases h

theorem isOuterBlank_of_mem_stray {cs : List Char} {c : Char} (h : c ∈ strayBlanks cs) :
    isOuterBlank c = true := by
  have hmem := List.mem_reverse.1 (List.mem_filter.1 h).1
  exact List.all_eq_true.1 (List.all_takeWhile (p := isOuterBlank) (l := cs.reverse)) c hmem

/-- A blank belongs to no other part of a URL than the one it stands in. -/
theorem blank_plain {c : Char} (h : isOuterBlank c = true) :
    (isSchemeChar c = false ∧ c ≠ ':') ∧ endsAuthority .web c = false ∧ c ∉ "%2eE.".toList := by
  have all : ∀ n ∈ List.range 33, (isSchemeChar (Char.ofNat n) = false ∧ Char.ofNat n ≠ ':') ∧
      endsAuthority .web (Char.ofNat n) = false ∧ Char.ofNat n ∉ "%2eE.".toList := by decide
  have hle : c.toNat ≤ 32 := by simpa [isOuterBlank] using h
  have hc := all c.toNat (List.mem_range.2 (by omega))
  rwa [Char.ofNat_toNat] at hc

theorem strayBlanks_eq_nil {cs : List Char} (hlast : ∀ c ∈ cs.getLast?, isOuterBlank c = false) :
    strayBlanks cs = [] := by
  rw [← List.head?_reverse] at hlast
  unfold strayBlanks
  cases hcs : cs.reverse with
  | nil => rfl
  | cons c rest =>
    rw [hcs] at hlast
    simp [hlast c rfl]

/-- **What counts of a text when more follows** is what counts of it alone, and the blanks at its end. -/
theorem inFront_eq {cs : List Char} (h : counted cs ≠ []) : inFront cs = counted cs ++ strayBlanks cs := by
  have hlead := List.takeWhile_append_dropWhile (p := isOuterBlank) (l := cs)
  have hhead := head_dropWhile (p := isOuterBlank) cs
  cases hd : cs.dropWhile isOuterBlank with
  | nil => exact absurd (by simp [counted, hd]) h
  | cons c inner =>
    rw [hd] at hlead hhead
    have hc : isOuterBlank c = false := hhead c rfl
    -- The first character that is no blank ends the blanks at the end too.
    have hstray : cs.reverse.takeWhile isOuterBlank = (c :: inner).reverse.takeWhile isOuterBlank := by
      have htake (x : List Char) :
          (inner.reverse ++ c :: x).takeWhile isOuterBlank = inner.reverse.takeWhile isOuterBlank :=
        takeWhile_append (by simpa using hc) _
      rw [← hlead]
      simp [htake]
    have hsplit := congrArg List.reverse
      (List.takeWhile_append_dropWhile (p := isOuterBlank) (l := (c :: inner).reverse))
    rw [List.reverse_append, List.reverse_reverse] at hsplit
    unfold inFront counted strayBlanks
    rw [hd, hstray]
    simp only [← List.filter_append, hsplit]

theorem counted_eq_inFront {cs : List Char} (hlast : ∀ c ∈ cs.getLast?, isOuterBlank c = false) :
    counted cs = inFront cs := by
  by_cases h : counted cs = []
  · cases hcs : cs.getLast? with
    | none =>
      rw [List.getLast?_eq_none_iff.1 hcs]
      rfl
    | some c =>
      obtain ⟨front, rfl⟩ := List.getLast?_eq_some_iff.1 hcs
      have hc := hlast c hcs
      have hbreak := isBreak_of_not_blank hc
      have hdrop : (front ++ [c]).dropWhile isOuterBlank = front.dropWhile isOuterBlank ++ [c] :=
        dropWhile_append (by simpa using hc) front
      simp [counted, hdrop, hc, hbreak] at h
  · rw [inFront_eq h, strayBlanks_eq_nil hlast, List.append_nil]

theorem inFront_replicate (t : List Char) (k : Nat) :
    inFront (t ++ List.replicate k '/') = inFront t ++ List.replicate k '/' := by
  have hopens : ∀ c ∈ (List.replicate k '/').head?, isOuterBlank c = false := fun c hc =>
    (List.eq_of_mem_replicate (List.mem_of_head? hc)) ▸ by decide
  have hkept : (List.replicate k '/').filter (fun c => !isBreak c) = List.replicate k '/' :=
    List.filter_eq_self.2 fun c hc => (List.eq_of_mem_replicate hc) ▸ by decide
  unfold inFront
  rw [dropWhile_append hopens, List.filter_append, hkept]

/-- What counts of a text to which a path without blanks is added. -/
theorem counted_slash {t y : List Char} (hbreaks : ∀ c ∈ y, isBreak c = false)
    (hlast : ∀ c ∈ ('/' :: y).getLast?, isOuterBlank c = false) :
    counted (t ++ '/' :: y) = inFront t ++ '/' :: y := by
  have hslash : isBreak '/' = false := by decide
  have hkept : ('/' :: y).filter (fun c => !isBreak c) = '/' :: y :=
    List.filter_eq_self.2 fun c hc => by
      rcases List.mem_cons.1 hc with rfl | hc
      · rfl
      · simp [hbreaks c hc]
  have hends : ∀ c ∈ (t ++ '/' :: y).getLast?, isOuterBlank c = false := by
    rwa [List.getLast?_append, List.getLast?_eq_some_getLast (List.cons_ne_nil _ _),
      Option.some_or, ← List.getLast?_eq_some_getLast (List.cons_ne_nil _ _)]
  rw [counted_eq_inFront hends]
  unfold inFront
  rw [dropWhile_append (by simp [isOuterBlank]), List.filter_append, hkept]

/-- What counts ends as the text does, when that does not end in a blank. -/
theorem getLast_counted {t : List Char} (hlast : ∀ c ∈ t.getLast?, isOuterBlank c = false) :
    (counted t).getLast? = t.getLast? := by
  rw [counted_eq_inFront hlast]
  cases ht : t.getLast? with
  | none =>
    rw [List.getLast?_eq_none_iff.1 ht]
    rfl
  | some c =>
    obtain ⟨front, rfl⟩ := List.getLast?_eq_some_iff.1 ht
    have hc := hlast c ht
    have hkept : [c].filter (fun d => !isBreak d) = [c] := by simp [isBreak_of_not_blank hc]
    unfold inFront
    rw [dropWhile_append (by simpa using hc), List.filter_append, hkept, List.getLast?_append]
    rfl

/-! ## The scheme -/

/-- A scheme ends before what cannot belong to it and is no colon, or there is none. -/
theorem splitScheme_append {x : List Char} (hx : ∀ c ∈ x.head?, isSchemeChar c = false ∧ c ≠ ':')
    (front : List Char) :
    splitScheme (front ++ x) = (splitScheme front).map fun p => (p.1, p.2 ++ x) := by
  cases front with
  | nil =>
    cases x with
    | nil => rfl
    | cons c x =>
      have halpha : c.isAlpha = false := by
        have := (hx c rfl).1
        simp only [isSchemeChar, Char.isAlphanum, Bool.or_eq_false_iff] at this
        exact this.1.1.1.1
      simp [splitScheme, halpha]
  | cons c front =>
    have htake := takeWhile_append (fun d hd => (hx d hd).1) (c :: front)
    have hdrop := dropWhile_append (fun d hd => (hx d hd).1) (c :: front)
    rw [List.cons_append] at htake hdrop
    simp only [splitScheme, List.cons_append, htake, hdrop]
    cases c.isAlpha with
    | false => rfl
    | true =>
      cases (c :: front).dropWhile isSchemeChar with
      | nil =>
        cases x with
        | nil => rfl
        | cons d x => simp [(hx d rfl).2]
      | cons d rest =>
        by_cases hd : d = ':'
        · subst hd
          rfl
        · simp [hd]

theorem suffix_of_splitScheme {cs scheme rest : List Char} (h : splitScheme cs = some (scheme, rest)) :
    rest <:+ cs := by
  unfold splitScheme at h
  split at h
  · cases h
  · next c _ =>
    split at h
    · split at h
      · next hd =>
        simp only [Option.some.injEq, Prod.mk.injEq] at h
        rw [← h.2]
        exact (List.suffix_cons _ _).trans (hd ▸ List.dropWhile_suffix _)
      · cases h
    · cases h

/-! ## The authority -/

theorem readPort_left {scheme cs left : List Char} {port : Option Nat}
    (h : readPort scheme cs = .ok (port, left)) : left <:+ cs ∧ ∀ c ∈ left.head?, c = '\\' := by
  unfold readPort at h
  simp only at h
  generalize cs.takeWhile Char.isDigit = digits at h
  split at h
  · cases h
  · split at h
    · next hrest =>
      have hleft : left = cs.drop digits.length := by
        split at h <;> simp_all
      rw [hleft]
      refine ⟨List.drop_suffix .., fun c hc => ?_⟩
      cases hd : cs.drop digits.length with
      | nil => rw [hd] at hc; cases hc
      | cons d rest =>
        rw [hd] at hc hrest
        obtain rfl : d = c := by simpa using hc
        simpa using hrest
    · cases h

theorem splitUser_host (cs : List Char) : (splitUser cs).2 <:+ cs := by
  unfold splitUser
  split
  · have := List.takeWhile_prefix (l := cs.reverse) (· ≠ '@')
    simpa using List.reverse_suffix.2 this
  · exact List.suffix_rfl

/-- Of what is read as host and port only what follows a backslash is left. -/
theorem readHostPort_left {scheme cs left : List Char} {user : String × Option String}
    {authority : Authority} (h : readHostPort .web scheme user cs = .ok (authority, left)) :
    cs ≠ [] ∧ left <:+ cs ∧ ∀ c ∈ left.head?, c = '\\' := by
  unfold readHostPort at h
  simp only [bind, Except.bind, pure, Except.pure, Kind.isSpecial, if_true] at h
  split at h
  · cases h
  · next hhost =>
    have hne : cs ≠ [] := by
      rintro rfl
      exact hhost rfl
    refine ⟨hne, ?_⟩
    split at h
    · cases h
    · split at h
      · cases h
      · split at h
        · split at h
          · cases h
          · obtain ⟨-, rfl⟩ := Prod.mk.inj (Except.ok.inj h)
            simp
        · split at h
          · cases h
          · next p hport =>
            obtain ⟨port, after⟩ := p
            split at h
            · cases h
            · obtain ⟨-, rfl⟩ := Prod.mk.inj (Except.ok.inj h)
              obtain ⟨hsuffix, hhead⟩ := readPort_left hport
              exact ⟨hsuffix.trans ((List.drop_suffix ..).trans (List.drop_suffix ..)), hhead⟩

/-- The URL with a given scheme and authority whose path, query and fragment are read from characters. -/
def ofPath (scheme : List Char) (authority : Authority) (cs : List Char) : Url where
  scheme := String.ofList scheme
  authority := some authority
  path := readPathAfterHost .web cs
  query := (readTail .web (cs.dropWhile fun c => !endsPath c)).1
  fragment := (readTail .web (cs.dropWhile fun c => !endsPath c)).2

/-- The authority that characters without a slash are read as. -/
def authorityOf (scheme chars : List Char) : Except Error Authority :=
  (readHostPort .web scheme (((splitUser chars).1.map readUser).getD ("", none))
    (splitUser chars).2).map Prod.fst

/-- **What stands behind an authority** is read as path, query and fragment. -/
theorem readAuthority_eq {scheme chars rest : List Char}
    (hchars : ∀ c ∈ chars, endsAuthority .web c = false)
    (hrest : ∀ c ∈ rest.head?, endsAuthority .web c = true) :
    readAuthority .web scheme (chars ++ rest) = (authorityOf scheme chars).map (ofPath scheme · rest) := by
  have htake : (chars ++ rest).takeWhile (fun c => !endsAuthority .web c) = chars := by
    have hall : (chars ++ []).takeWhile (fun c => !endsAuthority .web c) = chars ++ [] :=
      List.takeWhile_append_of_pos fun c hc => by simp [hchars c hc]
    rw [takeWhile_append fun c hc => by simp [hrest c hc]]
    rwa [List.append_nil] at hall
  have hhost := splitUser_host chars
  unfold readAuthority authorityOf
  simp only [htake, List.drop_left]
  generalize splitUser chars = split at hhost ⊢
  obtain ⟨user, host⟩ := split
  cases host with
  | nil => cases user <;> simp [readHostPort, hostPart, Kind.isSpecial, bind, Except.bind, Except.map]
  | cons c host =>
    simp only [List.isEmpty_cons, Bool.and_false, Bool.false_and, Bool.false_eq_true, if_false]
    have hread : ∀ u : String × Option String,
        (readHostPort .web scheme u (c :: host)).bind
            (fun p => .ok (ofPath scheme p.1 (p.2 ++ rest))) =
          ((readHostPort .web scheme u (c :: host)).map Prod.fst).map (ofPath scheme · rest) := by
      intro u
      cases hu : readHostPort .web scheme u (c :: host) with
      | error e => rfl
      | ok p =>
        obtain ⟨authority, left⟩ := p
        obtain ⟨-, hsuffix, hleft⟩ := readHostPort_left hu
        cases left with
        | nil => rfl
        | cons d left =>
          -- A backslash would have ended the authority.
          have hd := hchars d (hhost.subset (hsuffix.subset List.mem_cons_self))
          rw [hleft d rfl] at hd
          cases hd
    cases user <;> exact hread _

/-! ## The whole URL -/

theorem readAuthority_scheme {kind : Kind} {scheme cs : List Char} {u : Url}
    (h : readAuthority kind scheme cs = .ok u) : u.scheme = String.ofList scheme := by
  unfold readAuthority at h
  simp only at h
  split at h
  · cases h
  · generalize readHostPort kind scheme _ _ = read at h
    cases read with
    | error e => cases h
    | ok p =>
      obtain rfl := Except.ok.inj h
      rfl

theorem readFile_scheme {cs : List Char} {u : Url} (h : readFile cs = .ok u) : u.scheme = "file" := by
  unfold readFile at h
  split at h
  · split at h
    · simp only at h
      split at h
      · obtain rfl := Except.ok.inj h
        rfl
      · split at h
        · obtain rfl := Except.ok.inj h
          rfl
        · split at h
          · cases h
          · obtain rfl := Except.ok.inj h
            rfl
    · obtain rfl := Except.ok.inj h
      rfl
  · obtain rfl := Except.ok.inj h
    rfl
  · obtain rfl := Except.ok.inj h
    rfl

theorem readOther_scheme {scheme cs : List Char} {u : Url} (h : readOther scheme cs = .ok u) :
    u.scheme = String.ofList scheme := by
  unfold readOther at h
  simp only at h
  split at h
  · exact readAuthority_scheme h
  · obtain rfl := Except.ok.inj h
    rfl
  · obtain rfl := Except.ok.inj h
    rfl

/-- A URL of the web has been read as one. -/
theorem ofScheme_eq_web {scheme cs : List Char} {u : Url} (h : readAfterScheme scheme cs = .ok u)
    (hweb : isWebScheme u.scheme = true) : Kind.ofScheme scheme = .web := by
  unfold readAfterScheme at h
  cases hkind : Kind.ofScheme scheme with
  | web => rfl
  | file =>
    rw [hkind] at h
    rw [readFile_scheme h] at hweb
    cases hweb
  | other =>
    rw [hkind] at h
    rw [readOther_scheme h, isWebScheme, Bool.or_eq_true, decide_eq_true_iff, decide_eq_true_iff] at hweb
    have special {name : String} (hname : String.ofList scheme = name)
        (hspecial : Kind.ofScheme name.toList ≠ .other) : False := by
      rw [← hname, String.toList_ofList] at hspecial
      exact hspecial hkind
    exact (hweb.elim (fun hname => special hname (by decide)) fun hname => special hname (by decide)).elim

/-! ### The parts of a text -/

/-- What counts of the text of a URL of the web, cut into its scheme, the characters of its authority and
those behind them. -/
structure Cut (cs scheme chars rest : List Char) : Prop where
  split : ∃ after, splitScheme cs = some (scheme, after) ∧ after.dropWhile (isSlash .web) = chars ++ rest
  web : Kind.ofScheme scheme = .web
  nonempty : chars ≠ []
  inside : ∀ c ∈ chars, endsAuthority .web c = false
  ends : ∀ c ∈ rest.head?, endsAuthority .web c = true

section

variable {cs scheme chars rest : List Char}

/-- **How a text is read** that is cut into its parts. -/
theorem Cut.read {s : String} (h : Cut (counted s.toList) scheme chars rest) :
    Url.read s = (authorityOf scheme chars).map (ofPath scheme · rest) := by
  obtain ⟨after, hsplit, hafter⟩ := h.split
  have hread : Url.read s = readAfterScheme scheme after := by
    unfold Url.read
    rw [hsplit]
  rw [hread, readAfterScheme, h.web]
  show readAuthority .web scheme (after.dropWhile (isSlash .web)) = _
  rw [hafter, readAuthority_eq h.inside h.ends]

/-- The text of every URL of the web is cut into its parts. -/
theorem exists_cut {s : String} {u : Url} (h : Url.read s = .ok u) (hweb : isWebScheme u.scheme = true) :
    ∃ scheme chars rest, Cut (counted s.toList) scheme chars rest := by
  unfold Url.read at h
  cases hsplit : splitScheme (counted s.toList) with
  | none =>
    rw [hsplit] at h
    cases h
  | some p =>
    obtain ⟨scheme, after⟩ := p
    rw [hsplit] at h
    replace h : readAfterScheme scheme after = .ok u := h
    have hkind := ofScheme_eq_web h hweb
    rw [readAfterScheme, hkind] at h
    replace h : readAuthority .web scheme (after.dropWhile (isSlash .web)) = .ok u := h
    have hcut := List.takeWhile_append_dropWhile (p := fun c => !endsAuthority .web c)
      (l := after.dropWhile (isSlash .web))
    have hinside := List.all_eq_true.1 (List.all_takeWhile (p := fun c => !endsAuthority .web c)
      (l := after.dropWhile (isSlash .web)))
    have hends := head_dropWhile (p := fun c => !endsAuthority .web c) (after.dropWhile (isSlash .web))
    generalize (after.dropWhile (isSlash .web)).takeWhile (fun c => !endsAuthority .web c) = chars
      at hcut hinside
    generalize (after.dropWhile (isSlash .web)).dropWhile (fun c => !endsAuthority .web c) = rest
      at hcut hends
    have hinside' : ∀ c ∈ chars, endsAuthority .web c = false := fun c hc => by
      simpa using hinside c hc
    have hends' : ∀ c ∈ rest.head?, endsAuthority .web c = true := fun c hc => by
      simpa using hends c hc
    rw [← hcut, readAuthority_eq hinside' hends'] at h
    refine ⟨scheme, chars, rest, ⟨after, hsplit, hcut.symm⟩, hkind, ?_, hinside', hends'⟩
    rintro rfl
    cases h

theorem Cut.counted_ne_nil (h : Cut cs scheme chars rest) : cs ≠ [] := by
  rintro rfl
  obtain ⟨after, hsplit, -⟩ := h.split
  cases hsplit

/-- A text ends in a slash when what stands behind its authority does. -/
theorem Cut.getLast_iff (h : Cut cs scheme chars rest) :
    (∀ c ∈ cs.getLast?, isSlash .web c = false) ↔ ∀ c ∈ rest.getLast?, isSlash .web c = false := by
  obtain ⟨after, hsplit, hafter⟩ := h.split
  obtain ⟨front, rfl⟩ : chars ++ rest <:+ cs :=
    hafter ▸ (List.dropWhile_suffix _).trans (suffix_of_splitScheme hsplit)
  have hne : chars ++ rest ≠ [] := List.append_ne_nil_of_left_ne_nil h.nonempty rest
  rw [List.getLast?_append, List.getLast?_eq_some_getLast hne, Option.some_or,
    ← List.getLast?_eq_some_getLast hne, List.getLast?_append]
  cases hlast : rest.getLast? with
  | some d => rfl
  | none =>
    refine iff_of_true (fun c hc => ?_) (by simp)
    have hin := h.inside c (List.mem_of_getLast? hc)
    simp only [endsAuthority, Bool.or_eq_false_iff] at hin
    exact hin.1

theorem Cut.split_append (h : Cut cs scheme chars rest) {x : List Char}
    (hx : ∀ c ∈ x.head?, isSchemeChar c = false ∧ c ≠ ':') :
    ∃ after, splitScheme (cs ++ x) = some (scheme, after) ∧
      after.dropWhile (isSlash .web) = chars ++ (rest ++ x) := by
  obtain ⟨after, hsplit, hafter⟩ := h.split
  refine ⟨after ++ x, by rw [splitScheme_append hx, hsplit]; rfl, ?_⟩
  have hsome : (after.dropWhile (isSlash .web)).isEmpty = false := by
    rw [hafter, List.isEmpty_eq_false_iff]
    exact List.append_ne_nil_of_left_ne_nil h.nonempty rest
  rw [List.dropWhile_append, hsome, if_neg Bool.false_ne_true, hafter, List.append_assoc]

/-- **More at the end** belongs to what stands behind the authority when that has ended, or ends there. -/
theorem Cut.append (h : Cut cs scheme chars rest) {x : List Char}
    (hx : ∀ c ∈ x.head?, isSchemeChar c = false ∧ c ≠ ':')
    (hends : rest = [] → ∀ c ∈ x.head?, endsAuthority .web c = true) :
    Cut (cs ++ x) scheme chars (rest ++ x) where
  split := h.split_append hx
  web := h.web
  nonempty := h.nonempty
  inside := h.inside
  ends := by
    intro c hc
    cases hrest : rest with
    | nil => exact hends hrest c (by simpa [hrest] using hc)
    | cons d rest' => exact h.ends c (by simpa [hrest] using hc)

/-- **More at the end** belongs to the authority when nothing has ended that. -/
theorem Cut.extend (h : Cut cs scheme chars []) {x : List Char}
    (hx : ∀ c ∈ x, isSchemeChar c = false ∧ c ≠ ':' ∧ endsAuthority .web c = false) :
    Cut (cs ++ x) scheme (chars ++ x) [] where
  split := by
    have hhead (c : Char) (hc : c ∈ x.head?) := hx c (List.mem_of_head? hc)
    obtain ⟨after, hsplit, hafter⟩ := h.split_append fun c hc => ⟨(hhead c hc).1, (hhead c hc).2.1⟩
    exact ⟨after, hsplit, by simpa using hafter⟩
  web := h.web
  nonempty := List.append_ne_nil_of_left_ne_nil h.nonempty x
  inside := by
    intro c hc
    rcases List.mem_append.1 hc with hc | hc
    · exact h.inside c hc
    · exact (hx c hc).2.2
  ends := h.ends

/-- A text with a path that is added to it: stray blanks belong to what stands behind the authority. -/
theorem Cut.slash {t y : List Char} (h : Cut (counted t) scheme chars rest) (hrest : rest ≠ [])
    (hbreaks : ∀ c ∈ y, isBreak c = false) (hlast : ∀ c ∈ ('/' :: y).getLast?, isOuterBlank c = false) :
    Cut (counted (t ++ '/' :: y)) scheme chars (rest ++ strayBlanks t ++ '/' :: y) := by
  have hblank {c : Char} (hc : c ∈ (strayBlanks t).head?) :=
    blank_plain (isOuterBlank_of_mem_stray (List.mem_of_head? hc))
  rw [counted_slash hbreaks hlast, inFront_eq h.counted_ne_nil]
  exact (h.append (fun c hc => (hblank hc).1) fun heq => absurd heq hrest).append (by simp; decide)
    fun _ c hc => by obtain rfl := Option.some.inj hc; rfl

/-- A text without a path to which one is added: stray blanks belong to the authority. -/
theorem Cut.slash_nil {t y : List Char} (h : Cut (counted t) scheme chars [])
    (hbreaks : ∀ c ∈ y, isBreak c = false) (hlast : ∀ c ∈ ('/' :: y).getLast?, isOuterBlank c = false) :
    Cut (counted (t ++ '/' :: y)) scheme (chars ++ strayBlanks t) ('/' :: y) := by
  have hblank {c : Char} (hc : c ∈ strayBlanks t) := blank_plain (isOuterBlank_of_mem_stray hc)
  rw [counted_slash hbreaks hlast, inFront_eq h.counted_ne_nil]
  exact (h.extend fun c hc => ⟨(hblank hc).1.1, (hblank hc).1.2, (hblank hc).2.1⟩).append
    (by simp; decide) fun _ c hc => by obtain rfl := Option.some.inj hc; rfl

/-- Slashes at the end stand behind the authority. -/
theorem Cut.of_slashes {k : Nat} (h : Cut (cs ++ List.replicate k '/') scheme chars rest) :
    ∃ front, rest = front ++ List.replicate k '/' ∧ Cut cs scheme chars front := by
  have hslash (c : Char) (hc : c ∈ List.replicate k '/') : c = '/' := List.eq_of_mem_replicate hc
  obtain ⟨after, hsplit, hafter⟩ := h.split
  rw [splitScheme_append fun c hc => hslash c (List.mem_of_head? hc) ▸ (by decide)] at hsplit
  obtain ⟨⟨name, before⟩, hbefore, hpair⟩ := Option.map_eq_some_iff.1 hsplit
  obtain ⟨rfl, rfl⟩ := Prod.mk.inj hpair
  have hne : chars ++ rest ≠ [] := List.append_ne_nil_of_left_ne_nil h.nonempty rest
  have hall : (List.replicate k '/').dropWhile (isSlash .web) = [] := by simp [isSlash]
  rw [List.dropWhile_append, hall] at hafter
  split at hafter
  · exact absurd hafter.symm hne
  · obtain ⟨front, hchars, hrest⟩ | ⟨front, hchars, hrest⟩ := List.append_eq_append_iff.1 hafter
    · -- The authority would reach into the slashes.
      have hfront : front = [] := by
        refine List.eq_nil_iff_forall_not_mem.2 fun c hc => ?_
        have hin := h.inside c (hchars ▸ List.mem_append_right _ hc)
        rw [hslash c (hrest ▸ List.mem_append_left _ hc)] at hin
        cases hin
      subst hfront
      rw [List.append_nil] at hchars
      refine ⟨[], by simpa using hrest.symm, ⟨before, hbefore, by simpa using hchars.symm⟩, h.web,
        h.nonempty, h.inside, by simp⟩
    · refine ⟨front, hrest, ⟨before, hbefore, hchars⟩, h.web, h.nonempty, h.inside, fun c hc => ?_⟩
      refine h.ends c ?_
      rw [hrest, List.head?_append, Option.mem_def.1 hc]
      rfl

end

end ContentCache.Url
