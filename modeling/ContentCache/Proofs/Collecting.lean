import Mathlib.Data.List.Sort
import ContentCache.Proofs.Text.ByteOrder

/-!
# Labels that are given one after the other

Labels may be given in any order, and a name more than once. What is kept of them is a list in the byte
order of the names, with each name that was given once, and with the value that was given for it last.
These three things leave only one list.

* `GivenLast`: a value that was given for a name, and after which none was given for it.
* `Collects`: a list that keeps of others what counts.

Main statement: `Labels.collects_iff` (a set of labels is what is kept of a list exactly when it has been made
of that list).
-/

namespace ContentCache

/-! ## What was given last -/

/-- The value was given for the name, and none was given for it afterwards. -/
def GivenLast (given : List (String × String)) (name value : String) : Prop :=
  ∃ front back, given = front ++ (name, value) :: back ∧ ∀ p ∈ back, p.1 ≠ name

theorem givenLast_cons {p : String × String} {given : List (String × String)} {name value : String} :
    GivenLast (p :: given) name value ↔
      GivenLast given name value ∨ p = (name, value) ∧ ∀ q ∈ given, q.1 ≠ name := by
  constructor
  · rintro ⟨front, back, hgiven, hback⟩
    cases front with
    | nil =>
      obtain ⟨rfl, rfl⟩ := List.cons.inj hgiven
      exact .inr ⟨rfl, hback⟩
    | cons q front =>
      obtain ⟨-, rfl⟩ := List.cons.inj hgiven
      exact .inl ⟨front, back, rfl, hback⟩
  · rintro (⟨front, back, rfl, hback⟩ | ⟨rfl, hrest⟩)
    · exact ⟨p :: front, back, rfl, hback⟩
    · exact ⟨[], given, rfl, hrest⟩

/-- For each name that was given there is a last value. -/
theorem exists_givenLast_iff {given : List (String × String)} {name : String} :
    (∃ value, GivenLast given name value) ↔ name ∈ given.map Prod.fst := by
  induction given with
  | nil => simp [GivenLast]
  | cons p given ih =>
    simp only [givenLast_cons, exists_or, ih, List.map_cons, List.mem_cons]
    constructor
    · rintro (hrest | ⟨value, rfl, -⟩)
      · exact .inr hrest
      · exact .inl rfl
    · rintro (rfl | hrest)
      · by_cases hagain : p.1 ∈ given.map Prod.fst
        · exact .inl hagain
        · refine .inr ⟨p.2, rfl, fun q hq hsame => hagain ?_⟩
          rw [← hsame]
          exact List.mem_map_of_mem hq
      · exact .inl hrest

/-! ## What is kept -/

/-- The list has the names that were given in strictly ascending byte order, each with the value that was
given for it last. -/
structure Collects (kept given : List (String × String)) : Prop where
  ascending : kept.Pairwise fun a b => Bytes.ofText a.1 < Bytes.ofText b.1
  names : ∀ name, name ∈ kept.map Prod.fst ↔ name ∈ given.map Prod.fst
  last : ∀ name value, (name, value) ∈ kept ↔ GivenLast given name value

/-- The same is kept in one way only. -/
theorem Collects.unique {kept others given : List (String × String)} (h : Collects kept given)
    (h' : Collects others given) : kept = others := by
  have hirrefl : Std.Irrefl fun a b : String × String => Bytes.ofText a.1 < Bytes.ofText b.1 :=
    ⟨fun _ => List.lt_irrefl _⟩
  have hantisymm : Std.Antisymm fun a b : String × String => Bytes.ofText a.1 < Bytes.ofText b.1 :=
    ⟨fun _ _ hab hba => absurd hba (List.lt_asymm hab)⟩
  refine h.ascending.eq_of_mem_iff h'.ascending fun ⟨name, value⟩ => ?_
  rw [h.last, h'.last]

namespace Labels

/-- What an ascending list of labels has for a name stands in it, and nothing else does. -/
theorem mem_iff_lookupLabel {labels : List (String × String)} (h : Ascending labels)
    {name value : String} : (name, value) ∈ labels ↔ lookupLabel name labels = some value := by
  induction labels with
  | nil => simp [lookupLabel]
  | cons p labels ih =>
    obtain ⟨n, v⟩ := p
    obtain ⟨hfirst, hrest⟩ := List.pairwise_cons.1 h
    rw [List.mem_cons, lookupLabel, ih hrest]
    split
    · next hsame =>
      subst hsame
      have hnone : lookupLabel name labels ≠ some value := fun hv =>
        String.lt_irrefl name (hfirst _ ((ih hrest).2 hv))
      simp [hnone, eq_comm]
    · next hother => simp [hother]

theorem mem_toList_iff {l : Labels} {name value : String} :
    (name, value) ∈ l.toList ↔ l.get? name = some value :=
  mem_iff_lookupLabel l.ascending

theorem mem_names_iff {l : Labels} {name : String} :
    name ∈ l.toList.map Prod.fst ↔ ∃ value, l.get? name = some value := by
  simp [← mem_toList_iff]

/-- **The value of a name is the one that was given for it last**, or the one it had when none was given. -/
theorem get?_foldl_insert {given : List (String × String)} {l : Labels} {name value : String} :
    (given.foldl (fun l p => l.insert p.1 p.2) l).get? name = some value ↔
      GivenLast given name value ∨ l.get? name = some value ∧ ∀ p ∈ given, p.1 ≠ name := by
  induction given generalizing l with
  | nil => simp [GivenLast]
  | cons p given ih =>
    obtain ⟨n, v⟩ := p
    rw [List.foldl_cons, ih, get?_insert, givenLast_cons]
    by_cases hsame : name = n
    · subst hsame
      simp
    · simp [hsame, eq_comm]

theorem get?_ofList {given : List (String × String)} {name value : String} :
    (ofList given).get? name = some value ↔ GivenLast given name value := by
  rw [ofList, get?_foldl_insert]
  simp

/-- The labels of a set count as given before others. -/
theorem ofList_toList_append (l : Labels) (given : List (String × String)) :
    ofList (l.toList ++ given) = given.foldl (fun l p => l.insert p.1 p.2) l := by
  have hown : l.toList.foldl (fun l p => l.insert p.1 p.2) empty = l := ofList_toList l
  rw [ofList, List.foldl_append, hown]

theorem collects_ofList (given : List (String × String)) : Collects (ofList given).toList given where
  ascending := (ofList given).ascending.imp Bytes.ofText_lt_iff.2
  names := fun name => by
    rw [mem_names_iff, ← exists_givenLast_iff]
    simp only [get?_ofList]
  last := fun name value => mem_toList_iff.trans get?_ofList

/-- **A set of labels is what is kept of a list** exactly when it has been made of that list. -/
theorem collects_iff {l : Labels} {given : List (String × String)} :
    Collects l.toList given ↔ l = ofList given :=
  ⟨fun h => ext (h.unique (collects_ofList given)), fun h => h ▸ collects_ofList given⟩

end Labels

end ContentCache
