import ContentCache.Bytes
import ContentCache.Json.Token

/-!
# Reading JSON

Tokens become a value. The arrays and objects that are not yet closed are kept in a list, innermost
first, so that the reader goes once through the tokens and nesting has no limit.
-/

namespace ContentCache.Json

/-- An array or object that is not yet closed, with its items or members so far, last first. -/
inductive Frame where
  | array (items : List Json)
  | object (members : List (Option String × Json)) (name : Option String)

/-- What may come next. -/
inductive Expect where
  | value
  /-- A value or the end of an array that has just begun. -/
  | valueOrEnd
  | name (members : List (Option String × Json))
  /-- The name of a member or the end of an object that has just begun. -/
  | nameOrEnd
  /-- The colon after a name. -/
  | colon (members : List (Option String × Json)) (name : Option String)
  /-- What follows a value. -/
  | after (value : Json)

/-- A token where a value may begin. -/
def readValueToken (token : Token) (open_ : List Frame) : Option (Expect × List Frame) :=
  match token with
  | .leftBrace => some (.nameOrEnd, open_)
  | .leftBracket => some (.valueOrEnd, .array [] :: open_)
  | .string text => some (.after (.string text), open_)
  | .scalar value => some (.after value, open_)
  | _ => none

def readToken (expect : Expect) (token : Token) (open_ : List Frame) : Option (Expect × List Frame) :=
  match expect, token, open_ with
  | .value, token, open_ => readValueToken token open_
  | .valueOrEnd, .rightBracket, .array items :: outer => some (.after (.array items.reverse), outer)
  | .valueOrEnd, token, open_ => readValueToken token open_
  | .nameOrEnd, .rightBrace, open_ => some (.after (.object []), open_)
  | .nameOrEnd, .string name, open_ => some (.colon [] name, open_)
  | .name members, .string name, open_ => some (.colon members name, open_)
  | .colon members name, .colon, open_ => some (.value, .object members name :: open_)
  | .after value, .comma, .array items :: outer => some (.value, .array (value :: items) :: outer)
  | .after value, .rightBracket, .array items :: outer =>
    some (.after (.array (value :: items).reverse), outer)
  | .after value, .comma, .object members name :: outer =>
    some (.name ((name, value) :: members), outer)
  | .after value, .rightBrace, .object members name :: outer =>
    some (.after (.object ((name, value) :: members).reverse), outer)
  | _, _, _ => none

/-- Reads the tokens that are left. -/
def readTokens : (expect : Expect) → List Token → (open_ : List Frame) → Option Json
  | .after value, [], [] => some value
  | _, [], _ => none
  | expect, token :: rest, open_ =>
    match readToken expect token open_ with
    | some (expect, open_) => readTokens expect rest open_
    | none => none

/-- Reads a document that is one value and nothing else. -/
def read? (s : String) : Option Json := do readTokens .value (← tokens? s) []

/-- Reads a document from its bytes. When they are no text, strings that are malformed are no texts. -/
def ofBytes? (bs : Bytes) : Option Json :=
  match bs.text? with
  | some s => read? s
  | none => do readTokens .value (← lexAll .between bs.chars []) []

end ContentCache.Json
