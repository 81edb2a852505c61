import Entrypoint.Proofs.Results
import Entrypoint.Service.RequestConfig

/-! The config of a struct, field by field. A field contributes by its role; the variables of the
config are those of the fields with their role, in the order of the struct, except that of several
bodies the last one is left. -/

namespace Entrypoint.TaggedCatalog

variable {t : TaggedCatalog} {s : CatalogStruct} {field : Field} {fields : List Field}
variable {part : FieldPart} {parts : List FieldPart}

/-- A field without a role. -/
def isUntagged (t : TaggedCatalog) (field : Field) : Bool := (t.role? field.documentation).isNone

/-- The fields with a role of a kind. -/
def withRole (t : TaggedCatalog) (kind : RoleKind) (fields : List Field) : List Field :=
  fields.filter fun field => t.hasRole kind field.documentation

/-- What a field gives to the config of its struct. The external name is the one that its role gives,
or else its own name in camel case. -/
inductive Gives (t : TaggedCatalog) (s : CatalogStruct) (field : Field) : FieldPart → Prop
  | other (hrole : t.role? field.documentation = none) : Gives t s field .other
  | path {role : Role} {scalar : Scalar} (hrole : t.role? field.documentation = some role)
      (hkind : role.kind = .pathVariable)
      (hscalar : t.catalog.scalar? s.scope field.type = some scalar) :
      Gives t s field (.path ⟨(RoleArgs.externalName? role.args).getD
        (Text.lowerCamel field.name.text), .scalar scalar, field.name.text⟩)
  | query {role : Role} {scalar : Scalar} (hrole : t.role? field.documentation = some role)
      (hkind : role.kind = .queryVariable)
      (hscalar : t.catalog.scalar? s.scope field.type = some scalar) :
      Gives t s field (.query ⟨(RoleArgs.externalName? role.args).getD
        (Text.lowerCamel field.name.text), .scalar scalar, field.name.text⟩)
  | body {role : Role} {written : WrittenName} {name : QualifiedName}
      (hrole : t.role? field.documentation = some role) (hkind : role.kind = .body)
      (hwritten : field.type.writtenName? = some written)
      (hname : t.catalog.typeName? s.scope written = some name) :
      Gives t s field (.body ⟨(RoleArgs.externalName? role.args).getD
        (Text.lowerCamel field.name.text), .struct name, field.name.text⟩)

/-- What a field contributes to a config, whatever the scalars are. -/
inductive Contributes (t : TaggedCatalog) (s : CatalogStruct) (field : Field) : FieldPart → Prop
  | other (hrole : t.role? field.documentation = none) : Contributes t s field .other
  | path {role : Role} {scalar : Scalar} (hrole : t.role? field.documentation = some role)
      (hkind : role.kind = .pathVariable) :
      Contributes t s field (.path ⟨externalName role field, .scalar scalar, field.name.text⟩)
  | query {role : Role} {scalar : Scalar} (hrole : t.role? field.documentation = some role)
      (hkind : role.kind = .queryVariable) :
      Contributes t s field (.query ⟨externalName role field, .scalar scalar, field.name.text⟩)
  | body {role : Role} {written : WrittenName} {name : QualifiedName}
      (hrole : t.role? field.documentation = some role) (hkind : role.kind = .body)
      (hwritten : field.type.writtenName? = some written)
      (hname : t.catalog.typeName? s.scope written = some name) :
      Contributes t s field (.body ⟨externalName role field, .struct name, field.name.text⟩)

theorem scalarVariable_eq_ok {role : Role} {v : Variable} :
    t.scalarVariable s field role = .ok v ↔
      ∃ scalar, t.catalog.scalar? s.scope field.type = some scalar ∧
        v = ⟨externalName role field, .scalar scalar, field.name.text⟩ := by
  rw [scalarVariable]
  cases t.catalog.scalar? s.scope field.type with
  | none => simp
  | some scalar => simp [eq_comm]

theorem bodyVariable_eq_ok {role : Role} {v : Variable} :
    t.bodyVariable s field role = .ok v ↔
      ∃ written name, field.type.writtenName? = some written ∧
        t.catalog.typeName? s.scope written = some name ∧
          v = ⟨externalName role field, .struct name, field.name.text⟩ := by
  rw [bodyVariable]
  cases field.type.writtenName? with
  | none => simp
  | some written =>
    cases hname : t.catalog.typeName? s.scope written with
    | none => simp [hname]
    | some name => simp [hname, eq_comm]

theorem fieldPart_eq_ok : t.fieldPart s field = .ok part ↔ t.Gives s field part := by
  constructor
  · intro h
    unfold fieldPart at h
    split at h
    · cases h
      exact .other ‹_›
    rename_i role hrole
    split at h
    · obtain ⟨v, hv, rfl⟩ := Results.map_eq_ok.mp h
      obtain ⟨scalar, hscalar, rfl⟩ := scalarVariable_eq_ok.mp hv
      exact .path hrole ‹_› hscalar
    · obtain ⟨v, hv, rfl⟩ := Results.map_eq_ok.mp h
      obtain ⟨scalar, hscalar, rfl⟩ := scalarVariable_eq_ok.mp hv
      exact .query hrole ‹_› hscalar
    · obtain ⟨v, hv, rfl⟩ := Results.map_eq_ok.mp h
      obtain ⟨written, name, hwritten, hname, rfl⟩ := bodyVariable_eq_ok.mp hv
      exact .body hrole ‹_› hwritten hname
    · cases h
  · intro h
    cases h with
    | other hrole => simp only [fieldPart, hrole]
    | path hrole hkind hscalar =>
      simp only [fieldPart, hrole, hkind, Results.map_eq_ok]
      exact ⟨_, scalarVariable_eq_ok.mpr ⟨_, hscalar, rfl⟩, rfl⟩
    | query hrole hkind hscalar =>
      simp only [fieldPart, hrole, hkind, Results.map_eq_ok]
      exact ⟨_, scalarVariable_eq_ok.mpr ⟨_, hscalar, rfl⟩, rfl⟩
    | body hrole hkind hwritten hname =>
      simp only [fieldPart, hrole, hkind, Results.map_eq_ok]
      exact ⟨_, bodyVariable_eq_ok.mpr ⟨_, _, hwritten, hname, rfl⟩, rfl⟩

theorem Gives.contributes (h : t.Gives s field part) : t.Contributes s field part := by
  cases h with
  | other hrole => exact .other hrole
  | path hrole hkind => exact .path hrole hkind
  | query hrole hkind => exact .query hrole hkind
  | body hrole hkind hwritten hname => exact .body hrole hkind hwritten hname

theorem contributes_of_fieldPart (h : t.fieldPart s field = .ok part) :
    t.Contributes s field part := (fieldPart_eq_ok.mp h).contributes

theorem contributes_all (h : fields.mapM (t.fieldPart s) = .ok parts) :
    List.Forall₂ (t.Contributes s) fields parts :=
  (Results.mapM_eq_ok.mp h).imp fun _ _ => contributes_of_fieldPart

theorem hasRole_eq {kind : RoleKind} {role : Role}
    (hrole : t.role? field.documentation = some role) :
    t.hasRole kind field.documentation = (role.kind == kind) := by
  rw [hasRole, hrole, Option.any_some]

theorem hasRole_of_none {kind : RoleKind} (hrole : t.role? field.documentation = none) :
    t.hasRole kind field.documentation = false := by
  rw [hasRole, hrole, Option.any_none]

/-- The name of a field with a role of a kind. -/
def nameIf (t : TaggedCatalog) (kind : RoleKind) (field : Field) : Option String :=
  if t.hasRole kind field.documentation then some field.name.text else none

/-- A field gives its name to the variable of its role. -/
theorem Contributes.names (hfield : t.Contributes s field part) :
    part.path?.map (·.fieldName) = t.nameIf .pathVariable field ∧
      part.query?.map (·.fieldName) = t.nameIf .queryVariable field ∧
        part.body?.map (·.fieldName) = t.nameIf .body field := by
  unfold nameIf
  cases hfield with
  | other hrole =>
    simp [FieldPart.path?, FieldPart.query?, FieldPart.body?, hasRole_of_none hrole]
  | path hrole hkind =>
    simp [FieldPart.path?, FieldPart.query?, FieldPart.body?, hasRole_eq hrole, hkind]
  | query hrole hkind =>
    simp [FieldPart.path?, FieldPart.query?, FieldPart.body?, hasRole_eq hrole, hkind]
  | body hrole hkind =>
    simp [FieldPart.path?, FieldPart.query?, FieldPart.body?, hasRole_eq hrole, hkind]

/-- The variables of a kind of part have the names of the fields with a role, if each field gives
its name to the part. -/
theorem map_filterMap_part {part? : FieldPart → Option Variable} {kind : RoleKind}
    (h : ∀ field part, t.Contributes s field part →
      (part? part).map (·.fieldName) = t.nameIf kind field)
    (hall : List.Forall₂ (t.Contributes s) fields parts) :
    (parts.filterMap part?).map (·.fieldName) = (t.withRole kind fields).map (·.name.text) := by
  induction hall with
  | nil => rfl
  | @cons field part fields parts hfield _ ih =>
    have hpart := h field part hfield
    rw [withRole] at ih ⊢
    rw [nameIf] at hpart
    rw [List.filter_cons]
    by_cases hrole : t.hasRole kind field.documentation = true
    · rw [if_pos hrole] at hpart ⊢
      obtain ⟨v, hv, hname⟩ := Option.map_eq_some_iff.mp hpart
      rw [List.filterMap_cons_some hv, List.map_cons, List.map_cons, ih, hname]
    · rw [if_neg hrole] at hpart ⊢
      rw [List.filterMap_cons_none (Option.map_eq_none_iff.mp hpart), ih]

theorem isOther_eq (hfield : t.Contributes s field part) : part.isOther = t.isUntagged field := by
  cases hfield with
  | other hrole => simp [FieldPart.isOther, isUntagged, hrole]
  | path hrole => simp [FieldPart.isOther, isUntagged, hrole]
  | query hrole => simp [FieldPart.isOther, isUntagged, hrole]
  | body hrole => simp [FieldPart.isOther, isUntagged, hrole]

/-- A field that contributes has no role or one of the three kinds for fields. -/
theorem Contributes.role (hfield : t.Contributes s field part) :
    t.isUntagged field = true ∨ t.hasRole .pathVariable field.documentation = true ∨
      t.hasRole .queryVariable field.documentation = true ∨
        t.hasRole .body field.documentation = true := by
  cases hfield with
  | other hrole => simp [isUntagged, hrole]
  | path hrole hkind => simp [hasRole_eq hrole, hkind]
  | query hrole hkind => simp [hasRole_eq hrole, hkind]
  | body hrole hkind => simp [hasRole_eq hrole, hkind]

/-- **What a config says of the fields of its struct.** -/
structure Fills (t : TaggedCatalog) (s : CatalogStruct) (fields : List Field)
    (config : RequestConfig) : Prop where
  typeRef : config.typeRef = s.qualifiedName
  paths : config.pathVariables.map (·.fieldName) =
    (t.withRole .pathVariable fields).map (·.name.text)
  queries : config.queryVariables.map (·.fieldName) =
    (t.withRole .queryVariable fields).map (·.name.text)
  /-- Of several bodies the last is left. -/
  body : config.body.map (·.fieldName) = ((t.withRole .body fields).getLast?).map (·.name.text)
  hasOtherFields : config.hasOtherFields = fields.any t.isUntagged
  roles : ∀ field ∈ fields, t.isUntagged field = true ∨
    t.hasRole .pathVariable field.documentation = true ∨
      t.hasRole .queryVariable field.documentation = true ∨
        t.hasRole .body field.documentation = true

theorem any_isOther (hall : List.Forall₂ (t.Contributes s) fields parts) :
    parts.any (·.isOther) = fields.any t.isUntagged := by
  induction hall with
  | nil => rfl
  | cons hfield _ ih => rw [List.any_cons, List.any_cons, isOther_eq hfield, ih]

theorem fills_of_namedConfig {config : RequestConfig} (h : t.namedConfig s fields = .ok config) :
    t.Fills s fields config := by
  obtain ⟨parts, hparts, rfl⟩ := Results.map_eq_ok.mp h
  have hall := contributes_all hparts
  refine ⟨rfl, map_filterMap_part (fun _ _ h => h.names.1) hall,
    map_filterMap_part (fun _ _ h => h.names.2.1) hall, ?_, any_isOther hall, fun field hfield => ?_⟩
  · rw [configOfParts, ← List.getLast?_map, ← List.getLast?_map,
      map_filterMap_part (fun _ _ h => h.names.2.2) hall]
  · obtain ⟨part, _, hpart⟩ := Results.exists_of_mapM_mem hparts hfield
    exact (contributes_of_fieldPart hpart).role

end Entrypoint.TaggedCatalog
