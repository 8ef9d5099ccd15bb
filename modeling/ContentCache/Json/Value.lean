/-!
# JSON values

A value of JSON keeps what a reader may ask for: the members of an object in their order, repeated
names included, integers apart from other numbers, and texts as far as they are texts. An escaped
surrogate without its partner makes a string that is no text; such a string can be passed over but
not used.
-/

namespace ContentCache

inductive Json where
  | null
  | bool (b : Bool)
  /-- A number without fraction or exponent. -/
  | integer (n : Int)
  /-- Any other number, as it is written. -/
  | real (written : String)
  /-- A string: a text, or nothing when it holds an unpaired surrogate. -/
  | string (text : Option String)
  | array (items : List Json)
  | object (members : List (Option String × Json))

namespace Json

def ofText (s : String) : Json := .string (some s)

def ofMembers (members : List (String × Json)) : Json :=
  .object (members.map fun m => (some m.1, m.2))

def text? : Json → Option String
  | .string text => text
  | _ => none

def items? : Json → Option (List Json)
  | .array items => some items
  | _ => none

end Json

end ContentCache
