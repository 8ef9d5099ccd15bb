import ContentCache.Http.Message

/-!
# Servers

A server answers a complete request, and what it answers may depend on the requests that it has got
before. A script is a server that has a list of answers for each of its routes, given one after the
other, the last one again and again; everything else is dropped.

Main statement: `answer_ofScript_dropped` (a request without a route is dropped).
-/

namespace ContentCache.Http

/-- A server: from the complete requests before and a complete request to what it does. -/
structure Server where
  answer : (before : List Request) → Request → Answer

/-- The answers for requests of one method to one URL. -/
structure Route where
  method : Method
  /-- A URL in normal form without user name, password and fragment. -/
  url : Url
  answers : List Answer
  deriving DecidableEq

def Route.serves (route : Route) (r : Request) : Bool := r.method = route.method && r.url = route.url

/-- The answer to a request that follows `earlier` ones of the same route. -/
def Route.answer (route : Route) (earlier : Nat) : Answer :=
  match route.answers[earlier]? with
  | some a => a
  | none => route.answers.getLast?.getD .dropped

/-- The server that follows a script. -/
def Server.ofScript (routes : List Route) : Server where
  answer before r :=
    match routes.find? (·.serves r) with
    | none => .dropped
    | some route => route.answer (before.countP route.serves)

/-- The server that gives one answer after the other, whatever it is asked, and then drops
everything. -/
def Server.ofAnswers (answers : List Answer) : Server :=
  ⟨fun before _ => answers[before.length]?.getD .dropped⟩

/-- A request that belongs to no route is dropped. -/
theorem answer_ofScript_dropped {routes : List Route} {r : Request}
    (h : ∀ route ∈ routes, route.serves r = false) (before : List Request) :
    (Server.ofScript routes).answer before r = .dropped := by
  have hf : routes.find? (·.serves r) = none := List.find?_eq_none.2 fun x hx => by simp [h x hx]
  simp [Server.ofScript, hf]

end ContentCache.Http
