import ContentCache.Proofs.Url.Cutting

/-!
# Paths to which more is added

The pieces of a path are worked through one after the other, so that a path to which more is added begins
with what the pieces before come to, and a query or fragment takes up whatever follows it.

* `pass`: what a piece makes of the segments before it when more pieces follow.
* `passed`, `pathChars`: the segments behind an authority when a slash follows, and the text of segments.

Main statements: `readPathAfterHost_append` (a slash and more), `readPathAfterHost_self` and
`readPathAfterHost_slash` (nothing more), `readPathAfterHost_shorter` (more than a slash) and
`readTail_eq_none_iff` (query and fragment).
-/

namespace ContentCache.Url

/-! ## The path -/

theorem pathPieces_slash {kind : Kind} {c : Char} (h : isSlash kind c = true) (cs : List Char) :
    pathPieces kind (c :: cs) = [] :: pathPieces kind cs := by
  simp [pathPieces, h]

theorem pathPieces_cons {kind : Kind} {c : Char} (h : isSlash kind c = false) (cs : List Char) :
    ∃ first rest, pathPieces kind cs = first :: rest ∧ pathPieces kind (c :: cs) = (c :: first) :: rest :=
  ⟨_, _, rfl, by simp [pathPieces, h]⟩

theorem pathPieces_ne_nil (kind : Kind) (cs : List Char) : pathPieces kind cs ≠ [] := by
  simp [pathPieces]

/-- A slash ends a piece, whatever stands around it. -/
theorem pathPieces_append {kind : Kind} {s : Char} (hs : isSlash kind s = true) (a b : List Char) :
    pathPieces kind (a ++ s :: b) = pathPieces kind a ++ pathPieces kind b := by
  induction a with
  | nil => exact pathPieces_slash hs b
  | cons c a ih =>
    cases hc : isSlash kind c with
    | true =>
      rw [List.cons_append, pathPieces_slash hc, pathPieces_slash hc, ih]
      rfl
    | false =>
      obtain ⟨first, rest, hcs, hcons⟩ := pathPieces_cons hc (a ++ s :: b)
      obtain ⟨first', rest', hcs', hcons'⟩ := pathPieces_cons hc a
      rw [ih, hcs', List.cons_append] at hcs
      obtain ⟨rfl, rfl⟩ := List.cons.inj hcs
      rw [List.cons_append, hcons, hcons']
      rfl

theorem pathPieces_replicate (kind : Kind) (n : Nat) :
    pathPieces kind (List.replicate n '/') = List.replicate (n + 1) [] := by
  induction n with
  | zero => rfl
  | succ n ih =>
    rw [List.replicate_succ, pathPieces_slash (by cases kind <;> rfl), ih]
    rfl

/-- What is added to a path without a slash belongs to its last piece. -/
theorem exists_lastPiece (kind : Kind) (cs : List Char) :
    ∃ front last, pathPieces kind cs = front ++ [last] ∧
      ∀ x, (∀ c ∈ x, isSlash kind c = false) → pathPieces kind (cs ++ x) = front ++ [last ++ x] := by
  induction cs with
  | nil =>
    refine ⟨[], [], rfl, fun x hx => ?_⟩
    induction x with
    | nil => rfl
    | cons c x ih =>
      have hx' := ih fun d hd => hx d (List.mem_cons_of_mem _ hd)
      obtain ⟨first, rest, hcs, hcons⟩ := pathPieces_cons (hx c List.mem_cons_self) x
      rw [List.nil_append, hcs] at hx'
      obtain ⟨rfl, rfl⟩ := List.cons.inj hx'
      exact hcons
  | cons d cs ih =>
    obtain ⟨front, last, hlast, hadded⟩ := ih
    cases hd : isSlash kind d with
    | true =>
      refine ⟨[] :: front, last, by rw [pathPieces_slash hd, hlast]; rfl, fun x hx => ?_⟩
      rw [List.cons_append, pathPieces_slash hd, hadded x hx]
      rfl
    | false =>
      obtain ⟨first, rest, hcs, hcons⟩ := pathPieces_cons hd cs
      rw [hlast] at hcs
      have hadd (x : List Char) (hx : ∀ c ∈ x, isSlash kind c = false) {first' : List Char}
          {rest' : List (List Char)} (h : front ++ [last ++ x] = first' :: rest') :
          pathPieces kind (d :: cs ++ x) = (d :: first') :: rest' := by
        obtain ⟨first'', rest'', hcs', hcons'⟩ := pathPieces_cons hd (cs ++ x)
        rw [hadded x hx, h] at hcs'
        obtain ⟨rfl, rfl⟩ := List.cons.inj hcs'
        exact hcons'
      cases front with
      | nil =>
        obtain ⟨rfl, rfl⟩ := List.cons.inj hcs
        exact ⟨[], d :: last, hcons, fun x hx => hadd x hx rfl⟩
      | cons p front =>
        obtain ⟨rfl, rfl⟩ := List.cons.inj hcs
        exact ⟨(d :: p) :: front, last, hcons, fun x hx => hadd x hx rfl⟩

/-- What a piece makes of the segments before it when there are more pieces. -/
def pass (kind : Kind) (segments : List (List Char)) (piece : List Char) : List (List Char) :=
  if isAbove piece then leave segments
  else if isHere piece then segments
  else addPiece kind segments piece

/-- **Pieces are worked through** one after the other: those in front do not know what the others are. -/
theorem addPieces_append (kind : Kind) (segments front : List (List Char)) {more : List (List Char)}
    (h : more ≠ []) :
    addPieces kind segments (front ++ more) = addPieces kind (front.foldl (pass kind) segments) more := by
  induction front generalizing segments with
  | nil => rfl
  | cons piece front ih =>
    obtain ⟨next, rest, hnext⟩ := List.exists_cons_of_ne_nil
      (List.append_ne_nil_of_right_ne_nil front h)
    rw [List.cons_append, hnext, addPieces, ← hnext, List.foldl_cons, pass]
    · split
      · exact ih _
      · split
        · exact ih _
        · exact ih _
    · simp

/-- The last piece is worked through as if others followed, and closes with an empty segment when it
stands for a place. -/
theorem addPieces_singleton (segments : List (List Char)) (piece : List Char) :
    addPieces .web segments [piece] = [] :: pass .web segments piece ∨
      (addPieces .web segments [piece] = pass .web segments piece ∧
        pass .web segments piece = escape escapesInPath piece :: segments) := by
  unfold pass addPieces
  split
  · exact .inl rfl
  · split
    · exact .inl rfl
    · exact .inr ⟨rfl, rfl⟩

theorem addPieces_replicate (segments : List (List Char)) (n : Nat) :
    addPieces .web segments (List.replicate n []) = List.replicate n [] ++ segments := by
  induction n generalizing segments with
  | zero => rfl
  | succ n ih =>
    cases n with
    | zero => rfl
    | succ n =>
      show addPieces .web ([] :: segments) (List.replicate (n + 1) []) = _
      rw [ih, List.replicate_succ' (n := n + 1)]
      simp

/-- The text of segments that are last first. -/
def pathChars (segments : List (List Char)) : List Char := segments.reverse.flatMap ('/' :: ·)

theorem pathChars_cons (s : List Char) (segments : List (List Char)) :
    pathChars (s :: segments) = pathChars segments ++ '/' :: s := by
  simp [pathChars]

theorem pathChars_replicate (n : Nat) (segments : List (List Char)) :
    pathChars (List.replicate n [] ++ segments) = pathChars segments ++ List.replicate n '/' := by
  induction n with
  | zero => simp
  | succ n ih =>
    rw [List.replicate_succ, List.cons_append, pathChars_cons, ih, List.replicate_succ']
    simp

theorem text_segments (segments : List (List Char)) :
    (Path.segments (segments.reverse.map String.ofList)).text.toList = pathChars segments := by
  simp only [Path.text, String.toList_join, pathChars, List.flatMap_map, List.map_map]
  simp

/-! ### Escaped pieces -/

theorem escapeByte_noSlash (b : UInt8) : '/' ∉ escapeByte b := by
  have h : ∀ n < 16, escapeDigit n ≠ '/' := by decide
  have hb := b.toNat_lt
  simp only [escapeByte, List.mem_cons, List.not_mem_nil, or_false, not_or]
  exact ⟨by decide, (h _ (by omega)).symm, (h _ (by omega)).symm⟩

theorem mem_of_mem_escape {must : Char → Bool} {cs : List Char} (h : '/' ∈ escape must cs) :
    '/' ∈ cs := by
  obtain ⟨c, hc, hmem⟩ := List.mem_flatMap.1 h
  unfold escapeChar at hmem
  split at hmem
  · obtain ⟨b, -, hb⟩ := List.mem_flatMap.1 hmem
    exact absurd hb (escapeByte_noSlash b)
  · rwa [List.mem_singleton.1 hmem]

theorem escapeChar_ne_nil (must : Char → Bool) (c : Char) : escapeChar must c ≠ [] := by
  have hbytes : Bytes.ofText (String.singleton c) ≠ [] := by
    intro h
    have hsize := congrArg List.length h
    simp [Bytes.ofText] at hsize
  unfold escapeChar
  split
  · obtain ⟨b, rest, hb⟩ := List.exists_cons_of_ne_nil hbytes
    simp [hb, escapeByte]
  · simp

/-- What stands before an escaped text that does not end in a slash makes no difference to its end. -/
theorem getLast_append_escape {must : Char → Bool} {c : Char} (h : c ≠ '/') (a cs : List Char) :
    (a ++ escape must (cs ++ [c])).getLast? ≠ some '/' := by
  have hone : escape must [c] = escapeChar must c := by simp [escape]
  have hlast : (a ++ escape must (cs ++ [c])).getLast? = (escape must [c]).getLast? := by
    rw [escape_append, ← List.append_assoc, List.getLast?_append, hone,
      List.getLast?_eq_some_getLast (escapeChar_ne_nil must c), Option.some_or]
  rw [hlast]
  intro hslash
  have hmem := mem_of_mem_escape (List.mem_of_getLast? hslash)
  exact h (List.mem_singleton.1 hmem).symm

/-! ### Points -/

/-- Other characters than points and escaped points stay. -/
theorem mem_plainPoints {piece : List Char} {c : Char} (h : c ∈ piece) (hc : c ∉ "%2eE.".toList) :
    c ∈ plainPoints piece := by
  have hne (d : Char) (hd : d ∈ "%2eE.".toList) : c ≠ d := fun heq => hc (heq ▸ hd)
  have hpoint {rest : List Char} {d : Char} (hd : d ∈ "%2eE.".toList)
      (h : c ∈ '%' :: '2' :: d :: rest) : c ∈ rest := by
    simpa [hne '%' (by decide), hne '2' (by decide), hne d hd] using h
  fun_induction plainPoints piece with
  | case1 rest ih => exact List.mem_cons_of_mem _ (ih (hpoint (by decide) h))
  | case2 rest ih => exact List.mem_cons_of_mem _ (ih (hpoint (by decide) h))
  | case3 d rest _ _ ih =>
    rcases List.mem_cons.1 h with rfl | h
    · exact List.mem_cons_self
    · exact List.mem_cons_of_mem _ (ih h)
  | case4 => cases h

/-! ### The path behind an authority -/

/-- The segments that the characters behind an authority come to when a slash follows them. -/
def passed : List Char → List (List Char)
  | [] => []
  | _ :: rest => (pathPieces .web rest).foldl (pass .web) []

theorem readPath_of_all {cs : List Char} (h : ∀ c ∈ cs, endsPath c = false) :
    readPath .web [] cs =
      .segments ((addPieces .web [] (pathPieces .web cs)).reverse.map String.ofList) := by
  have htake : cs.takeWhile (fun c => !endsPath c) = cs := by
    have happend : (cs ++ []).takeWhile (fun c => !endsPath c) = cs ++ [] :=
      List.takeWhile_append_of_pos fun c hc => by simp [h c hc]
    rwa [List.append_nil] at happend
  simp [readPath, htake]

section

variable {front : List Char}

/-- **A path to which more is added** begins with what the characters in front of it come to. -/
theorem readPathAfterHost_append (hslash : ∀ c ∈ front.head?, isSlash .web c = true)
    (hends : ∀ c ∈ front, endsPath c = false) {y : List Char} (hy : ∀ c ∈ y, endsPath c = false) :
    readPathAfterHost .web (front ++ '/' :: y) =
      .segments ((addPieces .web (passed front) (pathPieces .web y)).reverse.map String.ofList) := by
  cases front with
  | nil =>
    rw [← List.nil_append y] at hy ⊢
    exact readPath_of_all hy
  | cons c front =>
    have hread : readPathAfterHost .web (c :: front ++ '/' :: y) =
        readPath .web [] (front ++ '/' :: y) := if_pos (hslash c rfl)
    rw [hread, readPath_of_all, pathPieces_append rfl,
      addPieces_append _ _ _ (pathPieces_ne_nil .web y)]
    · rfl
    · intro d hd
      rcases List.mem_append.1 hd with hd | hd
      · exact hends d (List.mem_cons_of_mem _ hd)
      · rcases List.mem_cons.1 hd with rfl | hd
        · rfl
        · exact hy d hd

/-- What a path is read as that goes on behind its first slash. -/
theorem text_readPathAfterHost {c : Char} (hslash : isSlash .web c = true)
    (hends : ∀ d ∈ front, endsPath d = false) {pieces : List (List Char)}
    (hpieces : pathPieces .web front = pieces) :
    (readPathAfterHost .web (c :: front)).text.toList = pathChars (addPieces .web [] pieces) := by
  have hread : readPathAfterHost .web (c :: front) = readPath .web [] front := if_pos hslash
  rw [hread, readPath_of_all hends, text_segments, hpieces]

theorem passed_cons {c : Char} {pieces : List (List Char)} {last : List Char}
    (h : pathPieces .web front = pieces ++ [last]) :
    passed (c :: front) = pass .web (pieces.foldl (pass .web) []) last := by
  rw [passed, h, List.foldl_append]
  rfl

/-- A path that does not end in a slash comes to the same, and closes with a slash when its last piece
stands for a place. -/
theorem readPathAfterHost_self (hslash : ∀ c ∈ front.head?, isSlash .web c = true)
    (hends : ∀ c ∈ front, endsPath c = false) (hlast : ∀ c ∈ front.getLast?, isSlash .web c = false) :
    (readPathAfterHost .web front).text.toList = pathChars (passed front) ++ ['/'] ∨
      ((readPathAfterHost .web front).text.toList = pathChars (passed front) ∧
        (pathChars (passed front)).getLast? ≠ some '/') := by
  cases front with
  | nil => exact .inl rfl
  | cons c front =>
    cases hfront : front.getLast? with
    | none =>
      obtain rfl := List.getLast?_eq_none_iff.1 hfront
      exact absurd ((hslash c rfl).symm.trans (hlast c rfl)) (by simp)
    | some d =>
      obtain ⟨cs, rfl⟩ := List.getLast?_eq_some_iff.1 hfront
      have hd : isSlash .web d = false := by
        refine hlast d ?_
        rw [← List.cons_append, List.getLast?_append]
        rfl
      have hne : d ≠ '/' := by
        rintro rfl
        cases hd
      obtain ⟨pieces, last, -, hadded⟩ := exists_lastPiece .web cs
      have hpieces := hadded [d] (by simpa using hd)
      rw [text_readPathAfterHost (hslash c rfl) (fun d hd => hends d (List.mem_cons_of_mem _ hd)) hpieces,
        addPieces_append _ _ _ (by simp), passed_cons hpieces]
      rcases addPieces_singleton (pieces.foldl (pass .web) []) (last ++ [d]) with h | ⟨h, hw⟩
      · exact .inl (by rw [h, pathChars_cons])
      · refine .inr ⟨by rw [h], ?_⟩
        rw [hw, pathChars_cons, List.append_cons]
        exact getLast_append_escape hne _ last

/-- A path that ends in a slash comes to the same as when a slash follows. -/
theorem readPathAfterHost_slash (hslash : ∀ c ∈ front.head?, isSlash .web c = true)
    (hends : ∀ c ∈ front, endsPath c = false) {d : Char} (hlast : front.getLast? = some d)
    (hd : isSlash .web d = true) :
    (readPathAfterHost .web front).text.toList = pathChars (passed front) ∧
      (pathChars (passed front)).getLast? = some '/' := by
  cases front with
  | nil => cases hlast
  | cons c front =>
    obtain ⟨pieces, hpieces⟩ : ∃ pieces, pathPieces .web front = pieces ++ [[]] := by
      cases hfront : front.getLast? with
      | none => exact ⟨[], by rw [List.getLast?_eq_none_iff.1 hfront]; rfl⟩
      | some e =>
        obtain ⟨cs, rfl⟩ := List.getLast?_eq_some_iff.1 hfront
        rw [← List.cons_append, List.getLast?_append] at hlast
        obtain rfl := Option.some.inj hlast
        exact ⟨_, pathPieces_append hd cs []⟩
    have hpassed : passed (c :: front) = [] :: pieces.foldl (pass .web) [] := passed_cons hpieces
    have hadded : addPieces .web [] (pathPieces .web front) = [] :: pieces.foldl (pass .web) [] := by
      rw [hpieces, addPieces_append _ _ _ (by simp)]
      rfl
    rw [text_readPathAfterHost (hslash c rfl) (fun d hd => hends d (List.mem_cons_of_mem _ hd)) rfl, hadded,
      hpassed, pathChars_cons, List.getLast?_append]
    exact ⟨rfl, rfl⟩

/-- A piece with another character than points and escaped points stands for no place. -/
theorem pass_of_mem {piece : List Char} {c : Char} (h : c ∈ piece) (hc : c ∉ "%2eE.".toList)
    (segments : List (List Char)) :
    pass .web segments piece = escape escapesInPath piece :: segments := by
  have hmem : c ∈ plainPoints piece := mem_plainPoints h hc
  have hpoint : c ≠ '.' := fun heq => hc (heq ▸ by decide)
  have habove : isAbove piece = false := by
    refine decide_eq_false fun heq => ?_
    rw [heq] at hmem
    simp [hpoint] at hmem
  have hhere : isHere piece = false := by
    refine decide_eq_false fun heq => ?_
    rw [heq] at hmem
    simp [hpoint] at hmem
  rw [pass, habove, hhere, if_neg Bool.false_ne_true, if_neg Bool.false_ne_true]
  rfl

/-- A piece adds no more than itself. -/
theorem length_pass (segments : List (List Char)) (piece : List Char) :
    (pathChars (pass .web segments piece)).length ≤
      (pathChars segments).length + (escape escapesInPath piece).length + 1 := by
  have hleave : (pathChars (leave segments)).length ≤ (pathChars segments).length := by
    cases segments with
    | nil => exact Nat.le_refl _
    | cons last rest =>
      cases hdrive : isDrive last with
      | true => simp [leave, hdrive]
      | false => simp [leave, hdrive, pathChars_cons]
  unfold pass
  split
  · omega
  · split
    · omega
    · show (pathChars (escape escapesInPath piece :: segments)).length ≤ _
      simp only [pathChars_cons, List.length_append, List.length_cons]
      omega

/-- **A path that more than a slash is added to** comes to less than what stands before the slash then. -/
theorem readPathAfterHost_shorter (hslash : ∀ c ∈ front.head?, isSlash .web c = true)
    (hends : ∀ c ∈ front, endsPath c = false) (hne : front ≠ []) {x : List Char} {c : Char}
    (hx : ∀ d ∈ x, isSlash .web d = false) (hmem : c ∈ x) (hc : c ∉ "%2eE.".toList) :
    ∃ shown j, (readPathAfterHost .web front).text.toList = shown ++ List.replicate j '/' ∧
      shown.length < (pathChars (passed (front ++ x))).length := by
  obtain ⟨s, front, rfl⟩ := List.exists_cons_of_ne_nil hne
  obtain ⟨pieces, last, hpieces, hadded⟩ := exists_lastPiece .web front
  have hshown := text_readPathAfterHost (hslash s rfl)
    (fun d hd => hends d (List.mem_cons_of_mem _ hd)) hpieces
  have hlonger : pass .web (pieces.foldl (pass .web) []) (last ++ x) =
      escape escapesInPath (last ++ x) :: pieces.foldl (pass .web) [] :=
    pass_of_mem (List.mem_append_right _ hmem) hc _
  have hpositive : 0 < (escape escapesInPath x).length := by
    obtain ⟨a, b, rfl⟩ := List.append_of_mem hmem
    have := List.length_pos_iff.2 (escapeChar_ne_nil escapesInPath c)
    simp only [escape, List.flatMap_append, List.flatMap_cons, List.length_append]
    omega
  rw [addPieces_append _ _ _ (by simp)] at hshown
  rw [List.cons_append, passed_cons (hadded x hx), hlonger, pathChars_cons, escape_append]
  generalize pieces.foldl (pass .web) [] = segments at hshown ⊢
  have hpass := length_pass segments last
  have hlength : (pathChars (pass .web segments last)).length <
      (pathChars segments ++ '/' :: (escape escapesInPath last ++ escape escapesInPath x)).length := by
    simp only [List.length_append, List.length_cons]
    omega
  rcases addPieces_singleton segments last with h | ⟨h, -⟩
  · exact ⟨_, 1, by rw [hshown, h, pathChars_cons]; rfl, hlength⟩
  · exact ⟨_, 0, by rw [hshown, h]; exact (List.append_nil _).symm, hlength⟩

end

/-! ## Query and fragment -/

/-- There is neither query nor fragment when nothing ends the path. -/
theorem readTail_eq_none_iff (cs : List Char) :
    ((readTail .web (cs.dropWhile fun c => !endsPath c)).1 = none ∧
      (readTail .web (cs.dropWhile fun c => !endsPath c)).2 = none) ↔ ∀ c ∈ cs, endsPath c = false := by
  have hhead := head_dropWhile (p := fun c => !endsPath c) cs
  cases hrest : cs.dropWhile fun c => !endsPath c with
  | nil =>
    have htake : cs.takeWhile (fun c => !endsPath c) = cs := by
      simpa [hrest] using List.takeWhile_append_dropWhile (p := fun c => !endsPath c) (l := cs)
    have hall : ∀ c ∈ cs, endsPath c = false := by
      simpa [htake] using List.all_takeWhile (p := fun c => !endsPath c) (l := cs)
    simpa [readTail] using hall
  | cons c rest =>
    rw [hrest] at hhead
    have hc : endsPath c = true := by simpa using hhead c rfl
    have hmem : c ∈ cs := (List.dropWhile_sublist _).subset (hrest ▸ List.mem_cons_self)
    have hsome : ¬ ((readTail .web (c :: rest)).1 = none ∧ (readTail .web (c :: rest)).2 = none) := by
      simp only [endsPath, Bool.or_eq_true, decide_eq_true_iff] at hc
      rcases hc with rfl | rfl
      · simp [readTail]
      · simp [readTail]
    exact iff_of_false hsome fun hall => absurd (hall c hmem) (by simp [hc])

end ContentCache.Url
