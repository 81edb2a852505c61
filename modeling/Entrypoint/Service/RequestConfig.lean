import Entrypoint.Role.Arguments
import Entrypoint.Service.Basic
import Entrypoint.Service.TaggedCatalog
import Entrypoint.Text.CamelCase

/-! The config of a handler's requests, built from a struct. A field with a role becomes a variable;
a struct with fields of other kinds is refused at its first offending field. -/

namespace Entrypoint.TaggedCatalog

/-- What a field contributes to a config. -/
inductive FieldPart
  | path (v : Variable)
  | query (v : Variable)
  | body (v : Variable)
  | other

namespace FieldPart

/-- The path variable of a part. -/
def path? : FieldPart → Option Variable
  | path v => some v
  | _ => none

/-- The query variable of a part. -/
def query? : FieldPart → Option Variable
  | query v => some v
  | _ => none

/-- The body of a part. -/
def body? : FieldPart → Option Variable
  | body v => some v
  | _ => none

/-- The part fills no variable. -/
def isOther : FieldPart → Bool
  | other => true
  | _ => false

end FieldPart

/-- The name of a field in messages. -/
def fieldLabel (s : CatalogStruct) (field : Field) : String := s.name ++ "." ++ field.name.text

/-- The external name of a field: the one its role gives, or the field's name in camel case. -/
def externalName (role : Role) (field : Field) : String :=
  (RoleArgs.externalName? role.args).getD (Text.lowerCamel field.name.text)

/-- The variable of a path or query field. -/
def scalarVariable (t : TaggedCatalog) (s : CatalogStruct) (field : Field) (role : Role) :
    Except Fault Variable :=
  match t.catalog.scalar? s.scope field.type with
  | some scalar => .ok ⟨externalName role field, .scalar scalar, field.name.text⟩
  | none => .error (.unsupportedType (fieldLabel s field) field.type.text)

/-- The variable of a body field. -/
def bodyVariable (t : TaggedCatalog) (s : CatalogStruct) (field : Field) (role : Role) :
    Except Fault Variable :=
  match field.type.writtenName? with
  | none => .error (.breach (fieldLabel s field) (.bodyShape field.type.text))
  | some written =>
    match t.catalog.typeName? s.scope written with
    | none => .error (.breach (fieldLabel s field) (.bodyNotFound written.text))
    | some name => .ok ⟨externalName role field, .struct name, field.name.text⟩

/-- What a field of a config struct contributes, or its fault. -/
def fieldPart (t : TaggedCatalog) (s : CatalogStruct) (field : Field) : Except Fault FieldPart :=
  match t.role? field.documentation with
  | none => .ok .other
  | some role =>
    match role.kind with
    | .pathVariable => (t.scalarVariable s field role).map .path
    | .queryVariable => (t.scalarVariable s field role).map .query
    | .body => (t.bodyVariable s field role).map .body
    | kind => .error (.breach (fieldLabel s field) (.roleOnField kind))

/-- The config of a struct from the parts of its fields. Of several bodies the last counts. -/
def configOfParts (typeRef : QualifiedName) (parts : List FieldPart) : RequestConfig where
  typeRef := typeRef
  pathVariables := parts.filterMap (·.path?)
  queryVariables := parts.filterMap (·.query?)
  body := (parts.filterMap (·.body?)).getLast?
  hasOtherFields := parts.any (·.isOther)

/-- The config of a struct with named fields. -/
def namedConfig (t : TaggedCatalog) (s : CatalogStruct) (fields : List Field) :
    Except Fault RequestConfig :=
  (fields.mapM (t.fieldPart s)).map (configOfParts s.qualifiedName)

/-- The config that a parameter type of a declaration written in a scope stands for. -/
def requestConfig (t : TaggedCatalog) (scope declaration : String) (type : TypeExpr) :
    Except Fault RequestConfig :=
  match type.writtenName? with
  | none => .error (.breach declaration (.configShape type.text))
  | some written =>
    match t.catalog.findStruct? scope written with
    | none => .error (.breach declaration (.configNotFound written.text))
    | some s =>
      match s.item.fields with
      | .named fields => t.namedConfig s fields
      | .absent => .ok (configOfParts s.qualifiedName [])
      | .positional => .error (.breach declaration (.configUnnamed written.text))

/-! ### What is reported -/

/-- The report of a chain of aliases that comes back to itself. -/
def circularNote (key : String) : LogEntry := ⟨.warn, "Circular type alias detected: " ++ key⟩

/-- What the resolution of a path or query field reports. -/
def resolutionNotes (t : TaggedCatalog) (s : CatalogStruct) (field : Field) : List LogEntry :=
  if t.hasRole .pathVariable field.documentation || t.hasRole .queryVariable field.documentation then
    match t.catalog.resolve s.scope field.type with
    | .circular key => [circularNote key]
    | _ => []
  else []

/-- The report of a body that takes the place of an earlier one. -/
def replacedBodyNote (declaration : String) (field previous : String) : LogEntry :=
  ⟨.warn, declaration ++ ": body field `" ++ field ++ "` replaces earlier body field `" ++
    previous ++ "`"⟩

/-- What reading fields reports, up to the first fault. `previous` is the body field so far. -/
def fieldNotes (t : TaggedCatalog) (declaration : String) (s : CatalogStruct)
    (previous : Option String) : List Field → List LogEntry
  | [] => []
  | field :: rest =>
    t.resolutionNotes s field ++
      match t.fieldPart s field with
      | .error _ => []
      | .ok (.body v) =>
        (previous.map (replacedBodyNote declaration v.fieldName)).toList ++
          t.fieldNotes declaration s (some v.fieldName) rest
      | .ok _ => t.fieldNotes declaration s previous rest

/-- What building a config reports. -/
def configNotes (t : TaggedCatalog) (scope declaration : String) (type : TypeExpr) :
    List LogEntry :=
  match type.writtenName?.bind (t.catalog.findStruct? scope) with
  | none => []
  | some s =>
    match s.item.fields with
    | .named fields => t.fieldNotes declaration s none fields
    | _ => []

end Entrypoint.TaggedCatalog
