import Entrypoint.Fault
import Entrypoint.Service.Basic
import Entrypoint.Source.Nesting

/-! The program of a handler, as data: the initializer that is called, the request values that are
taken, the config that they fill and the method that answers. Names are checked when the program is
built, so every program can be written. -/

namespace Entrypoint

/-- Where a request variable stands. -/
inductive Origin
  | path
  | query
  deriving DecidableEq, Repr

/-- The name of a place in messages. -/
def Origin.label : Origin → String
  | path => "path"
  | query => "query"

/-- How a value is taken from the request: a variable converted to a scalar, or the body decoded to
a struct. -/
inductive Extraction
  | converted (origin : Origin) (scalar : Scalar) (externalName : String)
  | decoded (type : PathExpr)

/-- A value for a field of the config. -/
structure Assignment where
  field : Ident
  extraction : Extraction

/-- The config literal of a program. -/
structure ConfigLiteral where
  type : PathExpr
  assignments : List Assignment
  /-- Fields without a value have their default. -/
  hasRest : Bool

/-- The program of a handler. -/
structure Program where
  initializer : PathExpr
  awaitsInitializer : Bool
  config : Option ConfigLiteral
  method : Ident
  awaitsMethod : Bool
  context : ContextPassing
  returns : ReturnShape

/-! Not every path can stand where a program puts it. -/

namespace PathExpr

/-- Every list of arguments in angle brackets is marked by a double colon, as expressions need. -/
def isExpression (p : PathExpr) : Bool :=
  p.segments.all fun s =>
    match s.arguments with
    | .angle marked _ _ => marked
    | _ => true

/-- The path begins with the word `try`. -/
def leadsWithTry (p : PathExpr) : Bool :=
  !p.rooted && p.segments.head?.any (·.name.text == "try")

/-- The path is the word `try`, which begins a block. -/
def isTry (p : PathExpr) : Bool := p.leadsWithTry && p.parents.isEmpty

end PathExpr

/-- A value's type can stand in its declaration. -/
def Extraction.isPlaceable : Extraction → Bool
  | converted .. => true
  | decoded type => !type.leadsWithTry

/-- The literal can be written. Behind the word `try` alone, braces hold statements. -/
def ConfigLiteral.isPlaceable (l : ConfigLiteral) : Bool :=
  l.type.isExpression && (!l.type.isTry || l.assignments.isEmpty) &&
    l.assignments.all fun a => a.extraction.isPlaceable

namespace Program

/-- Every path can stand where the program puts it. -/
def isPlaceable (p : Program) : Bool :=
  p.initializer.isExpression && !p.initializer.isTry && p.config.all (·.isPlaceable)

/-- A path of a program. -/
def path (text : String) : Except RenderFault PathExpr :=
  match PathExpr.ofText? text with
  | some p => .ok p
  | none => .error (.invalidPath text)

/-- The identifier of a text, which may have blanks and comments around it. -/
def ident? (text : String) : Option Ident :=
  match TokenTree.ofText? text with
  | some [.word w] => w.ident?
  | _ => none

/-- An identifier of a program. -/
def ident (text : String) : Except RenderFault Ident :=
  match ident? text with
  | some i => .ok i
  | none => .error (.invalidIdentifier text)

/-- The assignment of a path or query variable, which must be a scalar. -/
def scalarAssignment (origin : Origin) (v : Variable) : Except RenderFault Assignment :=
  match v.type with
  | .scalar scalar =>
    (ident v.fieldName).map fun field => ⟨field, .converted origin scalar v.externalName⟩
  | .struct _ => .error (.notScalar origin.label v.externalName)

/-- The assignment of a body, which must be a struct. -/
def bodyAssignment (v : Variable) : Except RenderFault Assignment :=
  match v.type with
  | .struct name => do
    let type ← path name.path
    let field ← ident v.fieldName
    return ⟨field, .decoded type⟩
  | .scalar _ => .error (.bodyNotStruct v.fieldName)

/-- The assignments of a config: path variables, query variables, and the body. -/
def assignments (config : RequestConfig) : Except RenderFault (List Assignment) := do
  let paths ← config.pathVariables.mapM (scalarAssignment .path)
  let queries ← config.queryVariables.mapM (scalarAssignment .query)
  let body ← config.body.toList.mapM bodyAssignment
  return paths ++ queries ++ body

/-- The literal of a config. -/
def literal (config : RequestConfig) : Except RenderFault ConfigLiteral := do
  let assigned ← assignments config
  let type ← path config.typeRef.path
  return ⟨type, assigned, config.hasOtherFields⟩

/-- The program of a handler of a service, or the first fault of a name in it. -/
def ofHandler (service : Service) (handler : Handler) : Except RenderFault Program := do
  let initializer ← path (service.initializer.callPath service.typeRef)
  let config ← handler.config.mapM literal
  let method ← ident handler.function
  let program : Program := ⟨initializer, service.initializer.isAsync, config, method,
    handler.isAsync, handler.context, handler.returns⟩
  if program.isPlaceable then return program else .error .malformedProgram

end Program

end Entrypoint
