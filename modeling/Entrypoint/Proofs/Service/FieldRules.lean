import Entrypoint.Proofs.Program.ConfigLiteral

/-! The rules for fields of configs. A field says by itself what it gives to a config or how it breaks
the rules, with its type read in the scope of the struct. A struct whose fields all keep the rules has
one config, which collects what they give; any other has the fault of its first field that does not. -/

namespace Entrypoint

namespace TaggedCatalog

variable {t : TaggedCatalog} {s : CatalogStruct} {field : Field} {fields : List Field}
variable {part : FieldPart} {parts : List FieldPart} {fault : Fault} {config : RequestConfig}

/-- How a field breaks the rules. -/
inductive Breaks (t : TaggedCatalog) (s : CatalogStruct) (field : Field) : Fault → Prop
  | misplaced {role : Role} (hrole : t.role? field.documentation = some role)
      (hkind : role.kind ∉ [.pathVariable, .queryVariable, .body]) :
      Breaks t s field (.breach (fieldLabel s field) (.roleOnField role.kind))
  | notScalar {role : Role} (hrole : t.role? field.documentation = some role)
      (hkind : role.kind = .pathVariable ∨ role.kind = .queryVariable)
      (hscalar : t.catalog.scalar? s.scope field.type = none) :
      Breaks t s field (.unsupportedType (fieldLabel s field) field.type.text)
  | notPath {role : Role} (hrole : t.role? field.documentation = some role)
      (hkind : role.kind = .body) (hwritten : field.type.writtenName? = none) :
      Breaks t s field (.breach (fieldLabel s field) (.bodyShape field.type.text))
  | unknown {role : Role} {written : WrittenName} (hrole : t.role? field.documentation = some role)
      (hkind : role.kind = .body) (hwritten : field.type.writtenName? = some written)
      (hname : t.catalog.typeName? s.scope written = none) :
      Breaks t s field (.breach (fieldLabel s field) (.bodyNotFound written.text))

/-- **The rules for a field.** A role is one for fields, a path or query variable has a scalar type,
and a body has a type that is a plain path and stands for a type in the scope of the struct. -/
structure KeepsRules (t : TaggedCatalog) (s : CatalogStruct) (field : Field) : Prop where
  kind : ∀ role ∈ t.role? field.documentation, role.kind ∈ [.pathVariable, .queryVariable, .body]
  scalar : ∀ role ∈ t.role? field.documentation,
    role.kind = .pathVariable ∨ role.kind = .queryVariable →
      (t.catalog.scalar? s.scope field.type).isSome = true
  body : ∀ role ∈ t.role? field.documentation, role.kind = .body →
    ∃ written, field.type.writtenName? = some written ∧
      (t.catalog.typeName? s.scope written).isSome = true

/-- **What a config collects.** Its path and query variables are those of the fields with the role,
in the order of the struct, and its body is that of the last body field. -/
structure Collects (t : TaggedCatalog) (s : CatalogStruct) (fields : List Field)
    (config : RequestConfig) : Prop where
  typeRef : config.typeRef = s.qualifiedName
  paths : List.Forall₂ (fun field v => t.Gives s field (.path v))
    (t.withRole .pathVariable fields) config.pathVariables
  queries : List.Forall₂ (fun field v => t.Gives s field (.query v))
    (t.withRole .queryVariable fields) config.queryVariables
  body : Option.Rel (fun field v => t.Gives s field (.body v))
    (t.withRole .body fields).getLast? config.body
  hasOtherFields : config.hasOtherFields = true ↔
    ∃ field ∈ fields, t.role? field.documentation = none

/-! ### One field -/

theorem scalarVariable_eq_error {role : Role} :
    t.scalarVariable s field role = .error fault ↔
      t.catalog.scalar? s.scope field.type = none ∧
        fault = .unsupportedType (fieldLabel s field) field.type.text := by
  rw [scalarVariable]
  cases t.catalog.scalar? s.scope field.type with
  | none => simp [eq_comm]
  | some scalar => simp

theorem bodyVariable_eq_error {role : Role} :
    t.bodyVariable s field role = .error fault ↔
      (field.type.writtenName? = none ∧
        fault = .breach (fieldLabel s field) (.bodyShape field.type.text)) ∨
      ∃ written, field.type.writtenName? = some written ∧
        t.catalog.typeName? s.scope written = none ∧
          fault = .breach (fieldLabel s field) (.bodyNotFound written.text) := by
  rw [bodyVariable]
  cases field.type.writtenName? with
  | none => simp [eq_comm]
  | some written =>
    cases hname : t.catalog.typeName? s.scope written with
    | none => simp [hname, eq_comm]
    | some name => simp [hname]

theorem fieldPart_eq_error : t.fieldPart s field = .error fault ↔ t.Breaks s field fault := by
  constructor
  · intro h
    unfold fieldPart at h
    split at h
    · cases h
    rename_i role hrole
    split at h
    · obtain ⟨hscalar, rfl⟩ := scalarVariable_eq_error.mp (Results.map_eq_error.mp h)
      exact .notScalar hrole (.inl ‹_›) hscalar
    · obtain ⟨hscalar, rfl⟩ := scalarVariable_eq_error.mp (Results.map_eq_error.mp h)
      exact .notScalar hrole (.inr ‹_›) hscalar
    · rcases bodyVariable_eq_error.mp (Results.map_eq_error.mp h) with
        ⟨hwritten, rfl⟩ | ⟨written, hwritten, hname, rfl⟩
      · exact .notPath hrole ‹_› hwritten
      · exact .unknown hrole ‹_› hwritten hname
    · rename_i hpath hquery hbody
      cases h
      exact .misplaced hrole (by simpa using ⟨hpath, hquery, hbody⟩)
  · intro h
    cases h with
    | @misplaced role hrole hkind =>
      simp only [fieldPart, hrole]
      cases hrole' : role.kind with
      | service | initializer | handler => rfl
      | pathVariable | queryVariable | body => exact absurd (by simp [hrole']) hkind
    | notScalar hrole hkind hscalar =>
      obtain hkind | hkind := hkind
      all_goals
        simp only [fieldPart, hrole, hkind, Results.map_eq_error]
        exact scalarVariable_eq_error.mpr ⟨hscalar, rfl⟩
    | notPath hrole hkind hwritten =>
      simp only [fieldPart, hrole, hkind, Results.map_eq_error]
      exact bodyVariable_eq_error.mpr (.inl ⟨hwritten, rfl⟩)
    | unknown hrole hkind hwritten hname =>
      simp only [fieldPart, hrole, hkind, Results.map_eq_error]
      exact bodyVariable_eq_error.mpr (.inr ⟨_, hwritten, hname, rfl⟩)

/-- A field keeps the rules exactly if it gives something. -/
theorem keepsRules_iff : t.KeepsRules s field ↔ ∃ part, t.fieldPart s field = .ok part := by
  constructor
  · intro h
    cases hpart : t.fieldPart s field with
    | ok part => exact ⟨part, rfl⟩
    | error fault =>
      exfalso
      cases fieldPart_eq_error.mp hpart with
      | misplaced hrole hkind => exact hkind (h.kind _ hrole)
      | notScalar hrole hkind hscalar =>
        exact absurd (h.scalar _ hrole hkind) (by simp [hscalar])
      | notPath hrole hkind hwritten =>
        obtain ⟨written, hwritten', -⟩ := h.body _ hrole hkind
        exact Option.some_ne_none _ (hwritten'.symm.trans hwritten)
      | unknown hrole hkind hwritten hname =>
        obtain ⟨written, hwritten', hname'⟩ := h.body _ hrole hkind
        obtain rfl := Option.some.inj (hwritten.symm.trans hwritten')
        exact absurd hname' (by simp [hname])
  · rintro ⟨part, hpart⟩
    cases fieldPart_eq_ok.mp hpart with
    | other hrole => exact ⟨by simp [hrole], by simp [hrole], by simp [hrole]⟩
    | path hrole hkind hscalar =>
      exact ⟨by simp [hrole, hkind], by simp [hscalar], by simp [hrole, hkind]⟩
    | query hrole hkind hscalar =>
      exact ⟨by simp [hrole, hkind], by simp [hscalar], by simp [hrole, hkind]⟩
    | body hrole hkind hwritten hname =>
      exact ⟨by simp [hrole, hkind], by simp [hrole, hkind], fun _ _ _ => ⟨_, hwritten, by simp [hname]⟩⟩

/-! ### The fields of a struct -/

/-- The variables of a kind of part are given by the fields with a role, one by each. -/
theorem forall₂_withRole {part? : FieldPart → Option Variable} {toPart : Variable → FieldPart}
    {kind : RoleKind} (hpart : ∀ {part v}, part? part = some v → part = toPart v)
    (hrole : ∀ {field part}, t.Gives s field part →
      (part? part).isSome = t.hasRole kind field.documentation)
    (hall : List.Forall₂ (t.Gives s) fields parts) :
    List.Forall₂ (fun field v => t.Gives s field (toPart v)) (t.withRole kind fields)
      (parts.filterMap part?) := by
  induction hall with
  | nil => exact .nil
  | @cons field part fields parts hgives _ ih =>
    have hrole := hrole hgives
    rw [withRole, List.filter_cons]
    cases hv : part? part with
    | none =>
      rw [hv] at hrole
      rw [← hrole, List.filterMap_cons_none hv]
      exact ih
    | some v =>
      rw [hv] at hrole
      rw [← hrole, List.filterMap_cons_some hv]
      exact .cons (hpart hv ▸ hgives) ih

theorem isSome_nameIf (kind : RoleKind) :
    (t.nameIf kind field).isSome = t.hasRole kind field.documentation := by
  rw [nameIf]
  split <;> simp_all

/-- A field gives a variable of the kind of its role. -/
theorem Gives.isSome (h : t.Gives s field part) :
    part.path?.isSome = t.hasRole .pathVariable field.documentation ∧
      part.query?.isSome = t.hasRole .queryVariable field.documentation ∧
        part.body?.isSome = t.hasRole .body field.documentation := by
  obtain ⟨hpath, hquery, hbody⟩ := h.contributes.names
  rw [← isSome_nameIf, ← isSome_nameIf, ← isSome_nameIf, ← hpath, ← hquery, ← hbody]
  simp only [Option.isSome_map, and_self]

theorem rel_getLast? {α β : Type} {R : α → β → Prop} {list : List α} {list' : List β}
    (h : List.Forall₂ R list list') : Option.Rel R list.getLast? list'.getLast? := by
  induction h with
  | nil => exact .none
  | cons hhead htail ih =>
    cases htail with
    | nil => exact .some hhead
    | cons => exact ih

theorem collects_configOfParts (hall : List.Forall₂ (t.Gives s) fields parts) :
    t.Collects s fields (configOfParts s.qualifiedName parts) where
  typeRef := rfl
  paths := by
    refine forall₂_withRole (fun {part v} h => ?_) (fun h => h.isSome.1) hall
    cases part <;> cases h
    rfl
  queries := by
    refine forall₂_withRole (fun {part v} h => ?_) (fun h => h.isSome.2.1) hall
    cases part <;> cases h
    rfl
  body := by
    refine rel_getLast? (forall₂_withRole (fun {part v} h => ?_) (fun h => h.isSome.2.2) hall)
    cases part <;> cases h
    rfl
  hasOtherFields := by
    rw [configOfParts, any_isOther (hall.imp fun _ _ h => h.contributes), List.any_eq_true]
    simp only [isUntagged, Option.isNone_iff_eq_none]

theorem rightUnique_gives : Relator.RightUnique (t.Gives s) := fun _ _ _ h h' =>
  Except.ok.inj ((fieldPart_eq_ok.mpr h).symm.trans (fieldPart_eq_ok.mpr h'))

/-- A config is known by what it collects. -/
theorem Collects.unique {config' : RequestConfig} (h : t.Collects s fields config)
    (h' : t.Collects s fields config') : config = config' := by
  have hpath : Relator.RightUnique fun field v => t.Gives s field (.path v) :=
    fun _ _ _ h h' => FieldPart.path.inj (rightUnique_gives h h')
  have hquery : Relator.RightUnique fun field v => t.Gives s field (.query v) :=
    fun _ _ _ h h' => FieldPart.query.inj (rightUnique_gives h h')
  have hbody : config.body = config'.body := by
    have hrel := h.body
    have hrel' := h'.body
    generalize (t.withRole .body fields).getLast? = last at hrel hrel'
    generalize config.body = body at hrel ⊢
    generalize config'.body = body' at hrel' ⊢
    cases hrel with
    | none =>
      cases hrel'
      rfl
    | some hgives =>
      cases hrel' with
      | some hgives' =>
        exact congrArg some (FieldPart.body.inj (rightUnique_gives hgives hgives'))
  have hother : config.hasOtherFields = config'.hasOtherFields :=
    Bool.eq_iff_iff.mpr (h.hasOtherFields.trans h'.hasOtherFields.symm)
  have hpaths := hpath.forall₂ h.paths h'.paths
  have hqueries := hquery.forall₂ h.queries h'.queries
  have htypeRef := h.typeRef.trans h'.typeRef.symm
  cases config
  cases config'
  simp_all

/-- **What a struct is built into.** -/
theorem namedConfig_eq_ok : t.namedConfig s fields = .ok config ↔
    (∀ field ∈ fields, t.KeepsRules s field) ∧ t.Collects s fields config := by
  simp only [namedConfig, Results.map_eq_ok, Results.mapM_eq_ok, fieldPart_eq_ok]
  constructor
  · rintro ⟨parts, hall, rfl⟩
    refine ⟨fun field hfield => ?_, collects_configOfParts hall⟩
    obtain ⟨part, -, hpart⟩ := Results.exists_of_mapM_mem
      (Results.mapM_eq_ok.mpr (hall.imp fun _ _ => fieldPart_eq_ok.mpr)) hfield
    exact keepsRules_iff.mpr ⟨part, hpart⟩
  · rintro ⟨hrules, hcollects⟩
    obtain ⟨parts, hparts⟩ :=
      Results.exists_mapM fun field hfield => keepsRules_iff.mp (hrules field hfield)
    have hall := (Results.mapM_eq_ok.mp hparts).imp fun _ _ => fieldPart_eq_ok.mp
    exact ⟨parts, hall, (collects_configOfParts hall).unique hcollects⟩

theorem namedConfig_eq_error : t.namedConfig s fields = .error fault ↔
    ∃ before field after, fields = before ++ field :: after ∧
      (∀ earlier ∈ before, t.KeepsRules s earlier) ∧ t.Breaks s field fault := by
  rw [namedConfig, Results.map_eq_error]
  constructor
  · intro h
    obtain ⟨before, field, after, rfl, hbefore, hfield⟩ := Results.exists_of_mapM_error h
    exact ⟨before, field, after, rfl, fun b hb => keepsRules_iff.mpr (hbefore b hb),
      fieldPart_eq_error.mp hfield⟩
  · rintro ⟨before, field, after, rfl, hbefore, hbreaks⟩
    obtain ⟨parts, hparts⟩ := Results.exists_mapM fun b hb => keepsRules_iff.mp (hbefore b hb)
    rw [List.mapM_append, hparts, List.mapM_cons, fieldPart_eq_error.mpr hbreaks]
    rfl

variable {scope declaration : String} {type : TypeExpr} {written : WrittenName}

/-- **Configs are exact.** Where the type of a parameter means a struct with named fields, a config is
built exactly if every field keeps the rules. It is what the fields give, and its type is the struct,
which is one of the catalogue. Otherwise the fault is that of the first field that breaks the rules. -/
theorem requestConfig_exact (hwritten : type.writtenName? = some written)
    (hfound : t.catalog.findStruct? scope written = some s)
    (hfields : s.item.fields = .named fields) :
    ((∃ config, t.requestConfig scope declaration type = .ok config) ↔
      ∀ field ∈ fields, t.KeepsRules s field) ∧
    (∀ config, t.requestConfig scope declaration type = .ok config ↔
      (∀ field ∈ fields, t.KeepsRules s field) ∧ t.Collects s fields config) ∧
    s ∈ t.catalog.structs ∧
    ∀ fault, t.requestConfig scope declaration type = .error fault ↔
      ∃ before field after, fields = before ++ field :: after ∧
        (∀ earlier ∈ before, t.KeepsRules s earlier) ∧ t.Breaks s field fault := by
  have hconfig : t.requestConfig scope declaration type = t.namedConfig s fields := by
    simp only [requestConfig, hwritten, hfound, hfields]
  rw [hconfig]
  refine ⟨⟨?_, fun hrules => ?_⟩, fun config => namedConfig_eq_ok, Catalog.findStruct?_mem hfound,
    fun fault => namedConfig_eq_error⟩
  · rintro ⟨config, h⟩
    exact (namedConfig_eq_ok.mp h).1
  · obtain ⟨parts, hparts⟩ :=
      Results.exists_mapM fun field hfield => keepsRules_iff.mp (hrules field hfield)
    exact ⟨_, Results.map_eq_ok.mpr ⟨parts, hparts, rfl⟩⟩

end TaggedCatalog

namespace Sample

open TaggedCatalog

def pageSize : Ident := ⟨⟨"page_size", by decide⟩, by decide⟩

/-- A query variable with a name of its own and one without, a field without a role, and a body. -/
def mixedFields : List Field :=
  [⟨"g:queryvar,q", .ofIdent firstName, typeOf ⟨⟨"bool", by decide⟩, by decide⟩⟩,
    ⟨"g:queryvar", .ofIdent pageSize, typeOf ⟨⟨"u8", by decide⟩, by decide⟩⟩,
    ⟨"", .ofIdent configName, typeOf configName⟩, bodyField secondName (typeOf serviceName)]

def mixedStruct : CatalogStruct := ⟨"s", ⟨"", configName, .named mixedFields⟩⟩

def mixedConfig : RequestConfig :=
  ⟨⟨"s", "R"⟩, [], [⟨"q", .scalar .boolean, "a"⟩, ⟨"pageSize", .scalar (.integer .u8), "page_size"⟩],
    some lastBody, true⟩

theorem requestConfig_mixed :
    (typeOf configName).writtenName? = some (.bare "R") ∧
      (catalog mixedFields).catalog.findStruct? "s" (.bare "R") = some mixedStruct ∧
      mixedStruct.item.fields = .named mixedFields ∧
      (catalog mixedFields).requestConfig "s" "S.h" (typeOf configName) = .ok mixedConfig ∧
      (catalog mixedFields).Collects mixedStruct mixedFields mixedConfig := by
  have hwritten : (typeOf configName).writtenName? = some (.bare "R") := by decide +kernel
  have hfound : (catalog mixedFields).catalog.findStruct? "s" (.bare "R") = some mixedStruct := rfl
  have hconfig : (catalog mixedFields).requestConfig "s" "S.h" (typeOf configName) =
      .ok mixedConfig := Results.eq_ok_of_toOption (by decide +kernel)
  exact ⟨hwritten, hfound, rfl, hconfig,
    (((requestConfig_exact hwritten hfound rfl).2.1 mixedConfig).mp hconfig).2⟩

end Sample

end Entrypoint
