import Entrypoint.Service.RequestConfig

/-! Handlers. A tagged method of a service is a handler if its route can be read, it takes a plain
receiver, the request context and at most one config, and it returns something. The first breach in
that order is its fault. -/

namespace Entrypoint

namespace TypeExpr

/-- The type is the implementing type itself. -/
def isSelf : TypeExpr → Bool
  | .path (.mk false [] last) => last.isPlain && last.name.text == "Self"
  | _ => false

/-- The type behind one reference, or the type itself. -/
def referent : TypeExpr → TypeExpr
  | .reference _ _ target => target
  | type => type

/-- The names of the request context. -/
def contextNames : List String := ["Context", "lambda_http::Context", "lambda_runtime::Context"]

/-- The type is the request context. -/
def isContext (type : TypeExpr) : Bool :=
  type.writtenName?.any fun written =>
    contextNames.contains (String.ofList (Text.dropColons written.text.toList))

/-- How a parameter of this type takes the context, if it does. -/
def contextPassing? : TypeExpr → Option ContextPassing
  | .reference _ false target => if target.isContext then some .byReference else none
  | .reference _ true _ => none
  | type => if type.isContext then some .byValue else none

end TypeExpr

/-- The receiver is the service or a reference to it. -/
def Receiver.isPlain (receiver : Receiver) : Bool := receiver.type.referent.isSelf

/-- The breach of a handler's receiver, if there is one. -/
def Signature.receiverBreach? (signature : Signature) : Option Breach :=
  match signature.receiver with
  | none => some .noReceiver
  | some receiver =>
    if receiver.isPlain then none
    else some (.receiverShape (TokenTree.textAll receiver.tokens))

/-- The context and config parameters of a handler, or the breach of its parameters. -/
def Signature.handlerParameters (signature : Signature) :
    Except Breach (ContextPassing × Option TypeExpr) :=
  match signature.parameters with
  | [context] => (passing context).map (·, none)
  | [context, config] => (passing context).map (·, some config)
  | parameters => .error (.parameterCount parameters.length)
where
  /-- How the context is taken, or the breach. -/
  passing (type : TypeExpr) : Except Breach ContextPassing :=
    match type.contextPassing? with
    | some context => .ok context
    | none => .error (.contextMissing type.text)

/-- The shape of what a handler returns, or the breach of returning nothing. -/
def Signature.returnShape (signature : Signature) : Except Breach ReturnShape :=
  match signature.result with
  | none => .error .returnMissing
  | some type => .ok (if type.lastName? = some "Result" then .result else .plain)

/-- The calling shape of a handler: its context, its config parameter and its result. -/
def Signature.handlerShape (signature : Signature) :
    Except Breach (ContextPassing × Option TypeExpr × ReturnShape) := do
  if let some breach := signature.receiverBreach? then .error breach
  let (context, config) ← signature.handlerParameters
  let returns ← signature.returnShape
  return (context, config, returns)

namespace TaggedCatalog

/-- The handler of a method with a role's arguments, written in a scope, or its fault. -/
def handler (t : TaggedCatalog) (scope declaration : String) (signature : Signature)
    (args : String) : Except Fault Handler := do
  let binding ← RoleArgs.handlerBinding declaration args
  let (context, config, returns) ← signature.handlerShape.mapError (.breach declaration)
  let config ← config.mapM (t.requestConfig scope declaration)
  return ⟨binding.verb, binding.path, config, signature.name.text, signature.isAsync, context,
    returns⟩

/-- What building a handler reports. -/
def handlerNotes (t : TaggedCatalog) (scope declaration : String) (signature : Signature)
    (args : String) : List LogEntry :=
  match RoleArgs.handlerBinding declaration args, signature.handlerShape with
  | .ok _, .ok (_, some config, _) => t.configNotes scope declaration config
  | _, _ => []

/-- The tagged handlers of a block of methods, with their arguments. -/
def taggedHandlers (t : TaggedCatalog) (block : CatalogMethods) : List (Function × String) :=
  block.methods.filterMap fun m =>
    (t.role? m.documentation).bind fun role =>
      if role.kind = .handler then some (m, role.args) else none

/-- The handlers of the methods of a name, each as it was read. -/
def handlerResults (t : TaggedCatalog) (service : String) : List (Except Fault Handler) :=
  (t.catalog.methodsOf service).flatMap fun block =>
    (t.taggedHandlers block).map fun (m, args) =>
      t.handler block.scope (service ++ "::" ++ m.name) m.signature args

/-- What reading the handlers of a name reports. -/
def handlerResultNotes (t : TaggedCatalog) (service : String) : List LogEntry :=
  (t.catalog.methodsOf service).flatMap fun block =>
    (t.taggedHandlers block).flatMap fun (m, args) =>
      t.handlerNotes block.scope (service ++ "::" ++ m.name) m.signature args

/-- Faults of free functions tagged as handlers. -/
def freeHandlers (t : TaggedCatalog) : List Fault :=
  (t.catalog.functions.filter fun f => t.hasRole .handler f.function.documentation).map fun f =>
    .breach (f.scope ++ "::" ++ f.function.name) .handlerIsFree

/-- Faults of handlers of types that are no services. -/
def orphanedHandlers (t : TaggedCatalog) : List Fault :=
  (t.catalog.methods.filter fun block => !t.isServiceName block.selfName).flatMap fun block =>
    (block.methods.filter fun m => t.hasRole .handler m.documentation).map fun m =>
      .breach (block.selfName ++ "::" ++ m.name) (.notAService block.selfName)

end TaggedCatalog

end Entrypoint
