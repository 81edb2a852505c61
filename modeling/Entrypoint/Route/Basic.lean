/-! Routes: what a request is matched by, a verb and a path. -/

namespace Entrypoint

/-- A request verb. -/
inductive Verb
  | get
  | post
  | put
  | patch
  | delete
  deriving DecidableEq, Repr

namespace Verb

/-- The verbs, in their order. -/
def all : List Verb := [.get, .post, .put, .patch, .delete]

/-- The name of a verb as it stands in a request. -/
def name : Verb → String
  | get => "GET"
  | post => "POST"
  | put => "PUT"
  | patch => "PATCH"
  | delete => "DELETE"

/-- The verb of a name; names are in upper case. -/
def ofName? : String → Option Verb
  | "GET" => some get
  | "POST" => some post
  | "PUT" => some put
  | "PATCH" => some patch
  | "DELETE" => some delete
  | _ => none

theorem ofName?_name (verb : Verb) : ofName? verb.name = some verb := by
  cases verb <;> rfl

end Verb

/-- A verb and a path. -/
structure Route where
  verb : Verb
  path : String
  deriving DecidableEq, Repr

/-- The text of a route in messages. -/
def Route.text (r : Route) : String := r.verb.name ++ " " ++ r.path

end Entrypoint
