import Entrypoint.Role.Basic
import Entrypoint.Route.Basic

/-! What can go wrong, as causes, and the wording of each. A fault of one declaration leaves that
declaration out; a fault of a module's initializers, routes, locations or sources leaves the module
out; faults of writing and rendering end a run. What a run reports besides its result goes to a log. -/

namespace Entrypoint

/-- How serious a log entry is. -/
inductive LogLevel
  | error
  | warn
  | info
  deriving DecidableEq, Repr

/-- A log entry. -/
structure LogEntry where
  level : LogLevel
  text : String
  deriving DecidableEq, Repr

/-- A declaration that does not keep to the shapes the generator can call. -/
inductive Breach
  | roleOnStruct (role : RoleKind)
  | producesNoService
  | handlerIsFree
  | notAService (name : String)
  | noInitializer
  | manyInitializers (declarations : List String)
  | resultRequired
  | resultArity (found : Nat)
  | initializerTakesSelf
  | selfOutsideImpl
  | notAnError (type : String)
  | noReceiver
  | receiverShape (receiver : String)
  | parameterCount (found : Nat)
  | contextMissing (type : String)
  | returnMissing
  | configShape (type : String)
  | configNotFound (name : String)
  | configUnnamed (name : String)
  | bodyShape (type : String)
  | bodyNotFound (name : String)
  | roleOnField (role : RoleKind)
  deriving DecidableEq, Repr

/-- The wording of a breach. -/
def Breach.message : Breach → String
  | roleOnStruct role => "role `" ++ role.token ++ "` is not valid on a struct"
  | producesNoService => "initializer does not return any service type"
  | handlerIsFree => "handler must be a method of a service, not a free function"
  | notAService name => "`" ++ name ++ "` is not a service"
  | noInitializer => "no initializer found for service"
  | manyInitializers names => "multiple initializers found: " ++ ", ".intercalate names
  | resultRequired => "initializer must return `Result<Service, Error>`"
  | resultArity found =>
    "initializer result must have exactly two type arguments, found " ++ toString found
  | initializerTakesSelf => "initializer must not take `self`"
  | selfOutsideImpl => "`Self` is only valid in an associated initializer"
  | notAnError type => "`" ++ type ++ "` is not an error type"
  | noReceiver => "handler must take `self` as receiver"
  | receiverShape receiver =>
    "receiver must be `self`, `&self` or `&mut self`, found `" ++ receiver ++ "`"
  | parameterCount found =>
    "handler takes a context and an optional request config, found " ++ toString found ++
      " parameter(s)"
  | contextMissing type =>
    "first parameter must be the request context, found `" ++ type ++ "`"
  | returnMissing => "handler must return a value"
  | configShape type => "request config must be a plain struct type, found `" ++ type ++ "`"
  | configNotFound name => "request config struct `" ++ name ++ "` not found"
  | configUnnamed name => "request config `" ++ name ++ "` must have named fields"
  | bodyShape type => "body must be a plain struct type, found `" ++ type ++ "`"
  | bodyNotFound name => "body type `" ++ name ++ "` not found"
  | roleOnField role => "role `" ++ role.token ++ "` is not valid on a field"

/-- Why a source file yields no declarations. -/
inductive SourceFault
  | unreadable
  | malformed
  deriving DecidableEq, Repr

/-- The wording of a source fault. -/
def SourceFault.message : SourceFault → String
  | unreadable => "Failed to read file"
  | malformed => "Failed to parse Rust syntax"

/-- Why an entry point cannot be rendered. -/
inductive RenderFault
  | invalidPath (path : String)
  | invalidIdentifier (name : String)
  | notScalar (location name : String)
  | bodyNotStruct (field : String)
  | malformedProgram
  deriving DecidableEq, Repr

/-- The wording of a render fault. -/
def RenderFault.message : RenderFault → String
  | invalidPath path => "`" ++ path ++ "` is not a valid path"
  | invalidIdentifier name => "`" ++ name ++ "` is not a valid identifier"
  | notScalar location name => location ++ " variable `" ++ name ++ "` is not a scalar"
  | bodyNotStruct field => "body `" ++ field ++ "` is not a struct"
  | malformedProgram => "generated code does not parse"

/-- Why the arguments of a handler bind it to no route. -/
inductive BindingFault
  /-- They are not one of the words for verbs and a path. -/
  | malformed (found : String)
  /-- The word stands for no verb. -/
  | unsupportedVerb (word : String)
  deriving DecidableEq, Repr

/-- The wording of a binding fault. -/
def BindingFault.message : BindingFault → String
  | malformed found => "expected `<METHOD> <path>` after handler role, got `" ++ found ++ "`"
  | unsupportedVerb word => "unsupported method `" ++ word ++ "`"

/-- Anything that can go wrong with declarations, modules and units. -/
inductive Fault
  | binding (declaration : String) (fault : BindingFault)
  | breach (declaration : String) (breach : Breach)
  /-- A path or query variable that is no scalar. -/
  | unsupportedType (field type : String)
  | duplicateRoute (route : Route)
  | duplicateOutput (location : String)
  | source (file : String) (fault : SourceFault)
  | io (path : String)
  | render (unit : String) (fault : RenderFault)
  deriving DecidableEq, Repr

/-- The wording of a fault. -/
def Fault.message : Fault → String
  | binding declaration fault => "parse error in `" ++ declaration ++ "`: " ++ fault.message
  | breach declaration b => "validation error in `" ++ declaration ++ "`: " ++ b.message
  | unsupportedType field type => "unsupported type `" ++ type ++ "` on field `" ++ field ++ "`"
  | duplicateRoute route => "route " ++ route.text ++ " is already mapped"
  | duplicateOutput location => "output location `" ++ location ++ "` is already registered"
  | source file fault => "source error in " ++ file ++ ": " ++ fault.message
  | io path => "IO error at " ++ path
  | render unit fault => "render error for `" ++ unit ++ "`: " ++ fault.message

end Entrypoint
