import Entrypoint.Service.Basic
import Entrypoint.Service.TaggedCatalog

/-! Initializers. A tagged function or method is a candidate for the service that it returns, seen
through results, boxes and `Self`. A service needs exactly one candidate, and that one must return a
result with an error type and take no receiver. -/

namespace Entrypoint

/-- A bound of a boxed object names an error. -/
def Bound.namesError : Bound → Bool
  | .named _ _ path => Text.hasInfix "Error".toList path.last.name.text.toList
  | _ => false

mutual

/-- A type counts as an error type: its name ends in `Error`, or it is a box of one or of an object
bounded by one. -/
def TypeExpr.isErrorLike : TypeExpr → Bool
  | .path (.mk _ _ last) => last.isErrorLike
  | .projection _ _ _ last => last.isErrorLike
  | _ => false

/-- The last segment of a type makes it an error type. -/
def Segment.isErrorLike : Segment → Bool
  | .mk name arguments =>
    if name.text = "Box" then arguments.boxError else "Error".toList.isSuffixOf name.text.toList

/-- A box with these arguments holds an error. -/
def Arguments.boxError : Arguments → Bool
  | .angle _ items _ => Argument.firstIsError items
  | _ => false

/-- The first type among arguments is an error in a box. -/
def Argument.firstIsError : List Argument → Bool
  | [] => false
  | .type (.object _ bounds _) :: _ => bounds.any (·.namesError)
  | .type type :: _ => type.isErrorLike
  | _ :: rest => Argument.firstIsError rest

end

namespace TypeExpr

/-- The type inside a box, or the type itself. -/
def unboxed (type : TypeExpr) : TypeExpr :=
  ((type.argumentsOf? "Box").bind (·.head?)).getD type

/-- The type that a function with this result makes: the first argument of a result, without its
box. A result without type arguments makes none. -/
def produced? (type : TypeExpr) : Option TypeExpr :=
  match type.argumentsOf? "Result" with
  | some args => args.head?.map unboxed
  | none => some type.unboxed

end TypeExpr

/-- A tagged initializer before it belongs to a service. Methods have the name of their type. -/
structure Candidate where
  declaration : String
  function : QualifiedName
  selfName : Option String
  signature : Signature

namespace Candidate

/-- The candidate of a free function. -/
def ofFunction (f : CatalogFunction) : Candidate :=
  ⟨f.qualifiedName.path, f.qualifiedName, none, f.function.signature⟩

/-- The candidate of a method. -/
def ofMethod (block : CatalogMethods) (method : Function) : Candidate :=
  ⟨block.selfName ++ "::" ++ method.name, ⟨block.scope, method.name⟩, some block.selfName,
    method.signature⟩

/-- The name of the type that a candidate makes. -/
def target? (candidate : Candidate) : Option String :=
  (candidate.signature.result.bind (·.produced?)).bind fun type =>
    type.lastName?.bind fun name => if name = "Self" then candidate.selfName else some name

/-- A candidate for the service of a name: it makes the service, and it is free or a method of the
service. -/
def isFor (service : String) (candidate : Candidate) : Bool :=
  candidate.selfName.all (· == service) && candidate.target? == some service

/-- The breach of a candidate's signature, if there is one. -/
def breach? (candidate : Candidate) : Option Breach :=
  match candidate.signature.result.bind (·.argumentsOf? "Result") with
  | none => some .resultRequired
  | some [made, error] =>
    if candidate.signature.receiver.isSome then some .initializerTakesSelf
    else if candidate.selfName.isNone ∧ made.lastName? = some "Self" then some .selfOutsideImpl
    else if error.isErrorLike then none
    else some (.notAnError error.text)
  | some args => some (.resultArity args.length)

/-- The fault of a candidate's signature, if there is one. -/
def fault? (candidate : Candidate) : Option Fault :=
  candidate.breach?.map (.breach candidate.declaration)

/-- The initializer that a candidate is. -/
def initializer (candidate : Candidate) : Initializer :=
  ⟨candidate.function, candidate.selfName.isSome, candidate.signature.isAsync⟩

end Candidate

namespace TaggedCatalog

/-- The tagged initializers: free functions first, then methods, in the order of the catalogue. -/
def candidates (t : TaggedCatalog) : List Candidate :=
  (t.catalog.functions.filter fun f => t.hasRole .initializer f.function.documentation).map
      .ofFunction ++
    t.catalog.methods.flatMap fun block =>
      (block.methods.filter fun m => t.hasRole .initializer m.documentation).map
        (Candidate.ofMethod block)

/-- The initializer of a service, or the fault: that of the first candidate with a bad signature,
or else that of a wrong number of candidates. -/
def initializer (t : TaggedCatalog) (service : String) : Except Fault Initializer :=
  let found := t.candidates.filter (·.isFor service)
  match found.findSome? (·.fault?) with
  | some fault => .error fault
  | none =>
    match found with
    | [] => .error (.breach service .noInitializer)
    | [candidate] => .ok candidate.initializer
    | _ => .error (.breach service (.manyInitializers (found.map (·.declaration))))

/-- Faults of candidates that make no service. -/
def orphanedCandidates (t : TaggedCatalog) : List Fault :=
  (t.candidates.filter fun c => !(c.target?.any t.isServiceName)).map fun c =>
    .breach c.declaration .producesNoService

end TaggedCatalog

end Entrypoint
