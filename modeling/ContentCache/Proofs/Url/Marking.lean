import ContentCache.Http.Target
import ContentCache.Proofs.Url.Cutting

/-!
# URLs without their query

The query of a URL begins with a question mark, and nothing before it depends on it. So texts that agree
up to a question mark are both no URLs, for one reason, or are URLs that agree in all but query and
fragment. And a reference that is read against such URLs leads to one place from both, unless it is empty
or a fragment only: then each of them stays, with another fragment.

* `Url.bare`: a URL without query and fragment.
* `SameReference`: what two bases make of one reference.

Main statements: `read_mark` and `readFrom_bare`.
-/

namespace ContentCache.Url

/-- A URL without query and fragment. -/
def bare (u : Url) : Url := { u with query := none, fragment := none }

section

variable {u v : Url}

/-- What does not depend on query and fragment. -/
theorem eq_of_bare {β : Type} (f : Url → β) (hf : ∀ u, f u.bare = f u) (h : u.bare = v.bare) :
    f u = f v := by
  rw [← hf u, h, hf v]

theorem scheme_of_bare (h : u.bare = v.bare) : u.scheme = v.scheme := eq_of_bare scheme (fun _ => rfl) h

theorem authority_of_bare (h : u.bare = v.bare) : u.authority = v.authority :=
  eq_of_bare authority (fun _ => rfl) h

theorem path_of_bare (h : u.bare = v.bare) : u.path = v.path := eq_of_bare path (fun _ => rfl) h

end

/-! ## Up to a question mark -/

theorem takeWhile_mark {p : Char → Bool} (h : p '?' = false) (front a : List Char) :
    (front ++ '?' :: a).takeWhile p = front.takeWhile p :=
  takeWhile_append (by simpa using h) front

theorem dropWhile_mark {p : Char → Bool} (h : p '?' = false) (front a : List Char) :
    (front ++ '?' :: a).dropWhile p = front.dropWhile p ++ '?' :: a :=
  dropWhile_append (by simpa using h) front

theorem isSlash_mark (kind : Kind) : isSlash kind '?' = false := by cases kind <;> rfl

/-- What counts before the question mark does not depend on what follows it: the blanks at the end are all
behind it. -/
theorem counted_mark (front : List Char) :
    ∃ front', ∀ a, ∃ a', counted (front ++ '?' :: a) = front' ++ '?' :: a' := by
  refine ⟨(front.dropWhile isOuterBlank).filter fun c => !isBreak c, fun a =>
    ⟨(a.reverse.dropWhile isOuterBlank).reverse.filter fun c => !isBreak c, ?_⟩⟩
  have hend : ((front.dropWhile isOuterBlank ++ '?' :: a).reverse.dropWhile isOuterBlank).reverse =
      front.dropWhile isOuterBlank ++ '?' :: (a.reverse.dropWhile isOuterBlank).reverse := by
    rw [List.reverse_append, List.reverse_cons, List.append_assoc, List.singleton_append,
      dropWhile_mark (by decide)]
    simp
  have hmark : isBreak '?' = false := by decide
  unfold counted
  rw [dropWhile_mark (by decide)]
  simp only [hend]
  simp [hmark]

/-! ## The parts of a URL -/

/-- The scheme ends before the question mark, or there is none. -/
theorem splitScheme_mark (front a : List Char) :
    splitScheme (front ++ '?' :: a) =
      (splitScheme front).map fun p => (p.1, p.2 ++ '?' :: a) :=
  splitScheme_append (by simpa using (by decide : isSchemeChar '?' = false)) front

theorem readPath_mark (kind : Kind) (base : List (List Char)) (front a : List Char) :
    readPath kind base (front ++ '?' :: a) = readPath kind base front := by
  unfold readPath
  rw [takeWhile_mark (by decide)]

theorem readPathAfterHost_mark (kind : Kind) (front a b : List Char) :
    readPathAfterHost kind (front ++ '?' :: a) = readPathAfterHost kind (front ++ '?' :: b) := by
  cases front with
  | nil =>
    have hslash := isSlash_mark kind
    have hpath := (readPath_mark kind [] [] a).trans (readPath_mark kind [] [] b).symm
    rw [List.nil_append, List.nil_append] at hpath
    simp [readPathAfterHost, hslash, hpath]
  | cons c front =>
    have hpath := (readPath_mark kind [] (c :: front) a).trans (readPath_mark kind [] (c :: front) b).symm
    rw [List.cons_append, List.cons_append] at hpath
    simp only [List.cons_append, readPathAfterHost, readPath_mark, hpath]

/-- The question mark ends the authority at the latest. -/
theorem readAuthority_mark (kind : Kind) (scheme front a b : List Char) :
    (readAuthority kind scheme (front ++ '?' :: a)).map bare =
      (readAuthority kind scheme (front ++ '?' :: b)).map bare := by
  have hmark : (!endsAuthority kind '?') = false := by cases kind <;> rfl
  have hle : (front.takeWhile fun c => !endsAuthority kind c).length ≤ front.length :=
    (List.takeWhile_prefix _).length_le
  unfold readAuthority
  rw [takeWhile_mark hmark, takeWhile_mark hmark]
  simp only [List.drop_append_of_le_length hle]
  generalize front.takeWhile (fun c => !endsAuthority kind c) = chars
  have hrest : ∀ t, (front.drop chars.length ++ '?' :: t).isEmpty = false := by simp
  simp only [hrest, Bool.not_false, Bool.and_true]
  split
  · rfl
  · generalize readHostPort kind scheme _ _ = read
    cases read with
    | error e => rfl
    | ok p =>
      obtain ⟨authority, left⟩ := p
      have hpath := readPathAfterHost_mark kind (left ++ front.drop chars.length) a b
      rw [List.append_assoc, List.append_assoc] at hpath
      simp only [bind, Except.bind, pure, Except.pure, Except.map, bare, hpath]

/-- A file's path before the question mark. Only a drive at its front looks at what follows: it is none
when the question mark comes first. -/
theorem fileUrl_mark (host : Option Host) (front a b : List Char) :
    (fileUrl host (front ++ '?' :: a)).bare = (fileUrl host (front ++ '?' :: b)).bare := by
  have hpath := readPathAfterHost_mark .file front a b
  cases front with
  | nil =>
    have hempty (a : List Char) : readPathAfterHost .file ('?' :: a) = .segments [""] := by
      show readPath .file [] ([] ++ '?' :: a) = _
      rw [readPath_mark]
      rfl
    simp [fileUrl, bare, hempty, isDrive]
  | cons c front =>
    have hstart : ((front ++ '?' :: a).head?.map (isSlash .file)) =
        ((front ++ '?' :: b).head?.map (isSlash .file)) := by
      cases front <;> rfl
    simp only [fileUrl, bare, List.cons_append, List.drop_succ_cons, List.drop_zero] at hpath ⊢
    simp only [hpath, hstart]

theorem readFile_mark (front a b : List Char) :
    (readFile (front ++ '?' :: a)).map bare = (readFile (front ++ '?' :: b)).map bare := by
  have plain (slash : Bool) (front : List Char) :
      (fileUrl none (if slash then front ++ '?' :: a else '/' :: (front ++ '?' :: a))).bare =
        (fileUrl none (if slash then front ++ '?' :: b else '/' :: (front ++ '?' :: b))).bare := by
    cases slash with
    | true => exact fileUrl_mark none front a b
    | false => exact fileUrl_mark none ('/' :: front) a b
  match front with
  | [] =>
    have hread (a : List Char) : readFile ('?' :: a) = .ok (fileUrl none ('/' :: '?' :: a)) := by
      cases a <;> simp [readFile, isSlash_mark]
    simp only [List.nil_append, hread, Except.map]
    exact congrArg Except.ok (plain false [])
  | [c] =>
    simp only [List.singleton_append, readFile, isSlash_mark, Bool.and_false, Bool.false_eq_true,
      if_false, Except.map]
    exact congrArg Except.ok (plain (isSlash .file c) [c])
  | c :: d :: front =>
    simp only [List.cons_append, readFile]
    split
    · have hmark : (!endsAuthority .file '?') = false := rfl
      have hle : (front.takeWhile fun c => !endsAuthority .file c).length ≤ front.length :=
        (List.takeWhile_prefix _).length_le
      rw [takeWhile_mark hmark, takeWhile_mark hmark]
      simp only [List.drop_append_of_le_length hle]
      split
      · exact congrArg Except.ok (fileUrl_mark none ('/' :: front) a b)
      · split
        · exact congrArg Except.ok (fileUrl_mark none _ a b)
        · split
          · rfl
          · exact congrArg Except.ok (fileUrl_mark _ _ a b)
    · exact congrArg Except.ok (plain (isSlash .file c) (c :: d :: front))

theorem readOther_mark (scheme front a b : List Char) :
    (readOther scheme (front ++ '?' :: a)).map bare =
      (readOther scheme (front ++ '?' :: b)).map bare := by
  have hflat (front : List Char) : ((front ++ '?' :: a).takeWhile fun c => !endsPath c) =
      (front ++ '?' :: b).takeWhile fun c => !endsPath c :=
    (takeWhile_mark rfl front a).trans (takeWhile_mark rfl front b).symm
  match front with
  | [] => simp [readOther, endsPath, Except.map, bare]
  | [c] =>
    by_cases hc : c = '/'
    · subst hc
      have hpath := (readPath_mark .other [] [] a).trans (readPath_mark .other [] [] b).symm
      simp only [List.nil_append] at hpath
      simp [readOther, Except.map, bare, hpath]
    · have hflat := hflat [c]
      simp only [List.singleton_append] at hflat
      simp [readOther, hc, Except.map, bare, hflat]
  | c :: d :: front =>
    by_cases hc : c = '/'
    · subst hc
      by_cases hd : d = '/'
      · subst hd
        exact readAuthority_mark .other scheme front a b
      · have hpath := (readPath_mark .other [] (d :: front) a).trans
          (readPath_mark .other [] (d :: front) b).symm
        simp only [List.cons_append] at hpath
        simp [readOther, hd, Except.map, bare, hpath]
    · have hflat := hflat (c :: d :: front)
      simp only [List.cons_append] at hflat
      simp [readOther, hc, Except.map, bare, hflat]

/-- **What stands after a question mark** is read into query and fragment. -/
theorem read_mark (front a b : List Char) :
    (read (String.ofList (front ++ '?' :: a))).map bare =
      (read (String.ofList (front ++ '?' :: b))).map bare := by
  obtain ⟨counts, hcounts⟩ := counted_mark front
  obtain ⟨a', ha⟩ := hcounts a
  obtain ⟨b', hb⟩ := hcounts b
  simp only [read, String.toList_ofList, ha, hb, splitScheme_mark]
  cases splitScheme counts with
  | none => rfl
  | some p =>
    obtain ⟨scheme, rest⟩ := p
    simp only [Option.map_some, readAfterScheme]
    cases Kind.ofScheme scheme with
    | file => exact readFile_mark rest a' b'
    | web =>
      simp only [dropWhile_mark (isSlash_mark .web)]
      exact readAuthority_mark .web scheme _ a' b'
    | other => exact readOther_mark scheme rest a' b'

/-! ## References -/

/-- What two bases make of one reference: the same, or each of them stays with another fragment. -/
inductive SameReference (u v : Url) : Except Error Url → Except Error Url → Prop
  | same (r : Except Error Url) : SameReference u v r r
  | kept (f : Option String) :
      SameReference u v (.ok { u with fragment := f }) (.ok { v with fragment := f })

theorem readRelative_bare {u v : Url} (h : u.bare = v.bare) (kind : Kind) (cs : List Char) :
    SameReference u v (readRelative kind u cs) (readRelative kind v cs) := by
  obtain ⟨scheme, authority, path, query, fragment⟩ := u
  obtain ⟨scheme', authority', path', query', fragment'⟩ := v
  simp only [bare, Url.mk.injEq, and_true] at h
  obtain ⟨rfl, rfl, rfl⟩ := h
  cases cs with
  | nil => exact .kept none
  | cons c rest =>
    by_cases hquery : c = '?'
    · subst hquery
      exact .same _
    · by_cases hfragment : c = '#'
      · subst hfragment
        exact .kept _
      · simp only [readRelative]
        exact .same _

/-- **Query and fragment of a base** make no difference to where a reference leads. -/
theorem readFrom_bare {u v : Url} (h : u.bare = v.bare) (reference : String) :
    SameReference u v (readFrom u reference) (readFrom v reference) := by
  have hrelative := readRelative_bare h
  unfold readFrom
  rw [scheme_of_bare h, path_of_bare h]
  simp only
  split
  · split
    · exact hrelative _ _
    · exact .same _
  · split
    · exact hrelative _ _
    · exact .same _
    · exact hrelative _ _

end ContentCache.Url
