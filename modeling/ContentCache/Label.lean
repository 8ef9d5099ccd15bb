/-!
# Labels

An artifact carries labels: names with a value each. A set of labels is kept as a list in strictly
ascending order of names, so that equal sets are equal lists and the list is the order in which
labels are written. A filter is a list of equalities, all of which have to hold.

Main statements: `get?_insert` (the last value given for a name counts, and no other name changes),
`ofList_toList` (a set of labels is recovered from its list).
-/

namespace ContentCache

/-- Puts a label into an ascending list, in place of an older one of that name. -/
def insertLabel (name value : String) : List (String × String) → List (String × String)
  | [] => [(name, value)]
  | (n, v) :: rest =>
    if name < n then (name, value) :: (n, v) :: rest
    else if name = n then (name, value) :: rest
    else (n, v) :: insertLabel name value rest

/-- The value of a name in a list of labels. -/
def lookupLabel (name : String) : List (String × String) → Option String
  | [] => none
  | (n, v) :: rest => if name = n then some v else lookupLabel name rest

/-- Strictly ascending names. -/
def Ascending (labels : List (String × String)) : Prop :=
  labels.Pairwise fun a b => a.1 < b.1

theorem mem_insertLabel {name value : String} {labels : List (String × String)}
    {p : String × String} (h : p ∈ insertLabel name value labels) :
    p = (name, value) ∨ p ∈ labels := by
  fun_induction insertLabel name value labels with
  | case1 => simpa using h
  | case2 n v rest hlt => simpa using h
  | case3 v rest hlt =>
    simp only [List.mem_cons] at h ⊢
    rcases h with h | h
    · exact .inl h
    · exact .inr (.inr h)
  | case4 n v rest hlt hne ih =>
    simp only [List.mem_cons] at h ⊢
    rcases h with h | h
    · exact .inr (.inl h)
    · rcases ih h with h | h
      · exact .inl h
      · exact .inr (.inr h)

theorem string_lt_of_not_lt {a b : String} (h : ¬ a < b) (hne : a ≠ b) : b < a :=
  Std.lt_of_le_of_ne h (Ne.symm hne)

theorem ascending_insertLabel {name value : String} {labels : List (String × String)}
    (h : Ascending labels) : Ascending (insertLabel name value labels) := by
  unfold Ascending at *
  fun_induction insertLabel name value labels with
  | case1 => simp
  | case2 n v rest hlt =>
    refine List.pairwise_cons.2 ⟨fun p hp => ?_, h⟩
    rcases List.mem_cons.1 hp with rfl | hp
    · exact hlt
    · exact String.lt_trans hlt ((List.pairwise_cons.1 h).1 p hp)
  | case3 v rest hlt =>
    exact List.pairwise_cons.2 ⟨(List.pairwise_cons.1 h).1, (List.pairwise_cons.1 h).2⟩
  | case4 n v rest hlt hne ih =>
    have h' := List.pairwise_cons.1 h
    refine List.pairwise_cons.2 ⟨fun p hp => ?_, ih h'.2⟩
    rcases mem_insertLabel hp with rfl | hp
    · exact string_lt_of_not_lt hlt hne
    · exact h'.1 p hp

theorem lookup_insertLabel (name value name' : String) (labels : List (String × String))
    (h : Ascending labels) :
    lookupLabel name' (insertLabel name value labels) =
      if name' = name then some value else lookupLabel name' labels := by
  unfold Ascending at h
  fun_induction insertLabel name value labels with
  | case1 => simp [lookupLabel]
  | case2 n v rest hlt => simp [lookupLabel]
  | case3 v rest hlt =>
    by_cases hn : name' = name <;> simp [lookupLabel, hn]
  | case4 n v rest hlt hne ih =>
    have ih := ih (List.pairwise_cons.1 h).2
    by_cases hn : name' = n
    · subst hn
      simp [lookupLabel, Ne.symm hne]
    · simp [lookupLabel, hn, ih]

/-- A set of labels. -/
structure Labels where
  toList : List (String × String)
  ascending : Ascending toList

namespace Labels

theorem ext {a b : Labels} (h : a.toList = b.toList) : a = b := by
  cases a; cases b; simp_all

instance : DecidableEq Labels := fun a b =>
  if h : a.toList = b.toList then isTrue (ext h) else isFalse fun hab => h (congrArg _ hab)

def empty : Labels := ⟨[], List.Pairwise.nil⟩

instance : Inhabited Labels := ⟨empty⟩

def insert (l : Labels) (name value : String) : Labels :=
  ⟨insertLabel name value l.toList, ascending_insertLabel l.ascending⟩

def get? (l : Labels) (name : String) : Option String := lookupLabel name l.toList

/-- The labels given one after the other. -/
def ofList (given : List (String × String)) : Labels :=
  given.foldl (fun l p => l.insert p.1 p.2) empty

@[simp] theorem get?_empty (name : String) : empty.get? name = none := rfl

/-- The last value given for a name counts, and no other name changes. -/
theorem get?_insert (l : Labels) (name value name' : String) :
    (l.insert name value).get? name' = if name' = name then some value else l.get? name' :=
  lookup_insertLabel name value name' l.toList l.ascending

/-- A label with a name past all others goes to the end. -/
theorem insertLabel_of_forall_lt {name value : String} {labels : List (String × String)}
    (h : ∀ p ∈ labels, p.1 < name) : insertLabel name value labels = labels ++ [(name, value)] := by
  fun_induction insertLabel name value labels with
  | case1 => rfl
  | case2 n v rest hlt =>
    exact absurd (String.lt_trans hlt (h (n, v) (by simp))) (String.lt_irrefl _)
  | case3 v rest hlt => exact absurd (h (name, v) (by simp)) hlt
  | case4 n v rest hlt hne ih =>
    rw [ih fun p hp => h p (List.mem_cons_of_mem _ hp)]; rfl

theorem toList_foldl_insert (l : Labels) (rest : List (String × String))
    (h : Ascending (l.toList ++ rest)) :
    (rest.foldl (fun l p => l.insert p.1 p.2) l).toList = l.toList ++ rest := by
  induction rest generalizing l with
  | nil => simp
  | cons p rest ih =>
    have hp : ∀ q ∈ l.toList, q.1 < p.1 := fun q hq =>
      (List.pairwise_append.1 h).2.2 q hq p (by simp)
    have hi : (l.insert p.1 p.2).toList = l.toList ++ [p] := insertLabel_of_forall_lt hp
    rw [List.foldl_cons, ih]
    · rw [hi]; simp
    · rw [hi]; simpa using h

/-- A set of labels is recovered from its list. -/
theorem ofList_toList (l : Labels) : ofList l.toList = l :=
  ext (toList_foldl_insert empty l.toList l.ascending)

end Labels

/-! ## Filters -/

/-- One equality of a filter. -/
structure LabelCondition where
  name : String
  value : String
  deriving DecidableEq, Repr

/-- A conjunction of equalities, in the order in which they were added. -/
abbrev LabelFilter := List LabelCondition

/-- Whether labels satisfy every equality. -/
def LabelFilter.accepts (f : LabelFilter) (l : Labels) : Bool :=
  f.all fun c => l.get? c.name = some c.value

end ContentCache
