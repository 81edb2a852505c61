import Entrypoint.Name
import Entrypoint.Route.Basic
import Entrypoint.Route.Path
import Entrypoint.Scalar
import Entrypoint.Keyed

/-! Services: an initializer that makes the service, and handlers, each bound to a route and
called with the request context and perhaps a config filled from the request. -/

namespace Entrypoint

/-- What a variable of a request is converted to: a scalar, or a struct read from the body. -/
inductive VariableType
  | scalar (scalar : Scalar)
  | struct (name : QualifiedName)
  deriving DecidableEq, Repr

/-- A variable of a request and the config field it fills. -/
structure Variable where
  externalName : String
  type : VariableType
  fieldName : String
  deriving DecidableEq, Repr

/-- The config of a handler's requests. -/
structure RequestConfig where
  typeRef : QualifiedName
  pathVariables : List Variable
  queryVariables : List Variable
  body : Option Variable
  /-- The struct has fields that no variable fills. -/
  hasOtherFields : Bool
  deriving DecidableEq, Repr

/-- How a handler takes the request context. -/
inductive ContextPassing
  | byValue
  | byReference
  deriving DecidableEq, Repr

/-- What a handler returns: a result, whose error becomes an error answer, or a plain value. -/
inductive ReturnShape
  | result
  | plain
  deriving DecidableEq, Repr

/-- A method of a service that answers the requests of a route. -/
structure Handler where
  verb : Verb
  path : String
  config : Option RequestConfig
  function : String
  isAsync : Bool
  context : ContextPassing
  returns : ReturnShape
  deriving DecidableEq, Repr

/-- The function that makes a service, free or associated with the service's type. -/
structure Initializer where
  function : QualifiedName
  isAssociated : Bool
  isAsync : Bool
  deriving DecidableEq, Repr

/-- A service. -/
structure Service where
  typeRef : QualifiedName
  settings : Settings
  initializer : Initializer
  handlers : List Handler
  deriving DecidableEq, Repr

/-- The path that an initializer is called by. An associated one is reached through the type. -/
def Initializer.callPath (i : Initializer) (service : QualifiedName) : String :=
  if i.isAssociated then service.path ++ "::" ++ i.function.name else i.function.path

namespace Service

/-- The name of a service. -/
def name (service : Service) : String := service.typeRef.name

/-- The setting that goes before the routes of a service. -/
def basePathKey : String := "base_path"

/-- The path before the routes of a service. -/
def basePath? (service : Service) : Option String := Keyed.value? service.settings basePathKey

/-- The path of a handler's route, in clean form. -/
def effectivePath (service : Service) (handler : Handler) : String :=
  Route.combinePaths (service.basePath?.getD "") handler.path

/-- The route of a handler. -/
def route (service : Service) (handler : Handler) : Route :=
  ⟨handler.verb, service.effectivePath handler⟩

/-- The place of a handler's output, named after the service and the function. -/
def location (service : Service) (handler : Handler) : String :=
  service.name ++ "_" ++ handler.function

/-- The number of handlers of services. -/
def handlerCount (services : List Service) : Nat := (services.flatMap (·.handlers)).length

end Service

end Entrypoint
