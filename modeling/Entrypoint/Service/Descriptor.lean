import Entrypoint.Json.Shape
import Entrypoint.Service.Basic

/-! Route descriptors: the verb and the effective path of a handler, for the tools that deploy it.
A descriptor is written as one line of JSON. -/

namespace Entrypoint

/-- The route of a handler as deployment tools read it. -/
structure RouteDescriptor where
  verb : String
  path : String
  deriving DecidableEq, Repr

namespace RouteDescriptor

/-- The descriptor of a handler of a service. -/
def ofHandler (service : Service) (handler : Handler) : RouteDescriptor :=
  ⟨handler.verb.name, service.effectivePath handler⟩

/-- The JSON of a descriptor. -/
def toJson (d : RouteDescriptor) : Json :=
  .object [("method", .text d.verb), ("path", .text d.path)]

/-- The text of a descriptor: one line. -/
def text (d : RouteDescriptor) : String := d.toJson.render ++ "\n"

/-- The shape of a descriptor. -/
def shape : Shape := .record [("method", .text), ("path", .text)]

/-- The descriptor that data of its shape holds. -/
def ofJson? : Json → Option RouteDescriptor
  | .object [("method", .text verb), ("path", .text path)] => some ⟨verb, path⟩
  | _ => none

/-- What is written for a descriptor reads back as it. -/
theorem ofJson?_toJson (d : RouteDescriptor) : ofJson? d.toJson = some d := rfl

end RouteDescriptor

end Entrypoint
