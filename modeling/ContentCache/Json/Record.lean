import ContentCache.Json.Value

/-!
# Records in JSON

A record is written as an object, where unknown members are passed over and no known one may be
repeated, or as an array of its fields in their order, where the last ones may be left out.

Main statement: `mapM_eq_some_iff` (a list is read item by item).
-/

namespace ContentCache.Json

def membersNamed (name : String) (members : List (Option String × Json)) : List Json :=
  members.filterMap fun m => if m.1 = some name then some m.2 else none

/-- The one value of a field, if there is any; nothing when the name is repeated. -/
def field? (members : List (Option String × Json)) (name : String) : Option (Option Json) :=
  match membersNamed name members with
  | [] => some none
  | [value] => some (some value)
  | _ => none

/-- The fields of a record by their names, absent ones marked as such. -/
def record? (names : List String) : Json → Option (List (Option Json))
  | .array items =>
    if items.length ≤ names.length then
      some (items.map some ++ List.replicate (names.length - items.length) none)
    else none
  | .object members =>
    if members.all fun m => m.1.isSome then names.mapM (field? members) else none
  | _ => none

theorem mapM_eq_some_iff {α β : Type} {f : α → Option β} {items : List α} {values : List β} :
    items.mapM f = some values ↔ items.map f = values.map some := by
  induction items generalizing values with
  | nil => cases values <;> simp
  | cons item items ih =>
    cases values with
    | nil => simp [List.mapM_cons, Option.bind_eq_some_iff]
    | cons value values => simp [List.mapM_cons, Option.bind_eq_some_iff, ih]

/-- An object of texts: the last value of a repeated name is not decided here. -/
def texts? : Json → Option (List (String × String))
  | .object members => members.mapM fun m => do
    let name ← m.1
    let value ← m.2.text?
    pure (name, value)
  | _ => none

/-- A natural number of at most `largest`. -/
def natural? (largest : Nat) : Json → Option Nat
  | .integer n => if 0 ≤ n && n ≤ largest then some n.toNat else none
  | _ => none

def bool? : Json → Option Bool
  | .bool b => some b
  | _ => none

/-- A value that may be null. -/
def nullable? {α : Type} (read : Json → Option α) : Json → Option (Option α)
  | .null => some none
  | value => (read value).map some

/-- A field that has a default. -/
def fieldOr {α : Type} (default : α) (read : Json → Option α) : Option Json → Option α
  | none => some default
  | some value => read value

end ContentCache.Json
