/-! The roles a declaration can carry. -/

namespace Entrypoint

/-- What a tagged declaration is. The first three stand on declarations, the others on fields. -/
inductive RoleKind
  | service
  | initializer
  | handler
  | pathVariable
  | queryVariable
  | body
  deriving DecidableEq, Repr

namespace RoleKind

/-- The word for a role in a tag. -/
def token : RoleKind → String
  | service => "service"
  | initializer => "service_init"
  | handler => "handler"
  | pathVariable => "pathvar"
  | queryVariable => "queryvar"
  | body => "body"

/-- The role of a word. -/
def ofToken? : String → Option RoleKind
  | "service" => some service
  | "service_init" => some initializer
  | "handler" => some handler
  | "pathvar" => some pathVariable
  | "queryvar" => some queryVariable
  | "body" => some body
  | _ => none

end RoleKind

/-- A role with its arguments as written. -/
structure Role where
  kind : RoleKind
  args : String
  deriving DecidableEq, Repr

end Entrypoint
