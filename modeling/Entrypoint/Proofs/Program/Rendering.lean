import Entrypoint.Program.Statement
import Entrypoint.Proofs.Catalog.Paths
import Entrypoint.Proofs.Program.ConfigLiteral
import Entrypoint.Proofs.Program.Rows

/-! What is built is rendered. The names of a built service come from declarations, scopes and
imports, which are spelled by names, so a program can be made of every handler. It can be written
too, unless the type of a body leads with the word `try`, which opens a block there. No path of such
a program has arguments. -/

namespace Entrypoint

open Scope (IsPath IsModulePath)

namespace Program

/-- A path is read, and leads with the word `try` if its text does. -/
theorem path_of_isPath {text : String} (h : IsPath text) :
    ∃ p, path text = .ok p ∧ p.isExpression = true ∧
      p.leadsWithTry = ((Scope.segments text).head? == some "try") := by
  obtain ⟨names, hne, rfl⟩ := h
  obtain ⟨first, names, rfl⟩ := List.exists_cons_of_ne_nil hne
  refine ⟨.ofNames false first names, ?_, PathExpr.isExpression_ofNames, ?_⟩
  · rw [path, PathExpr.ofText?_spell]
  · rw [PathExpr.leadsWithTry_ofNames, PathWord.segments_spell hne]
    rfl

/-- A module path does not lead with the word `try`, which is no identifier. -/
theorem path_of_isModulePath {text : String} (h : IsModulePath text) :
    ∃ p, path text = .ok p ∧ p.isExpression = true ∧ p.leadsWithTry = false := by
  obtain ⟨first, names, rfl⟩ := h
  refine ⟨.ofNames false (.ofIdent first) names, ?_, PathExpr.isExpression_ofNames, ?_⟩
  · rw [path, PathExpr.ofText?_spell]
  · rw [PathExpr.leadsWithTry_ofNames, Bool.not_false, Bool.true_and, beq_eq_false_iff_ne]
    intro htry
    have hkeyword := first.isKeyword_word
    rw [Word.isKeyword, show first.word.text = "try" from htry] at hkeyword
    exact absurd hkeyword (by decide)

/-- A path of names has no arguments. -/
theorem isPlain_of_isPath {text : String} {p : PathExpr} (h : IsPath text)
    (hp : path text = .ok p) : p.isPlain = true := by
  obtain ⟨names, hne, rfl⟩ := h
  obtain ⟨first, names, rfl⟩ := List.exists_cons_of_ne_nil hne
  rw [path, PathExpr.ofText?_spell] at hp
  cases hp
  exact PathExpr.isPlain_ofNames

theorem ident_text (i : Ident) : ident i.text = .ok i := by
  rw [ident, ident?_text]

end Program

/-! ### Built names -/

/-- The named fields of a struct have names. -/
def CatalogStruct.NamesFields (s : CatalogStruct) : Prop :=
  ∀ fields, s.item.fields = .named fields → ∀ field ∈ fields, field.name.text ≠ "_"

theorem NameOr.exists_ident {name : NameOr ["_"]} (h : name.text ≠ "_") :
    ∃ i : Ident, name.text = i.text := by
  rcases name.isName_word with hkeyword | hunderscore
  · exact ⟨⟨name.word, hkeyword⟩, rfl⟩
  · exact absurd (List.mem_singleton.mp hunderscore) h

/-- The types of a built config are named by paths. -/
structure RequestConfig.HasPaths (config : RequestConfig) : Prop where
  typeRef : IsModulePath config.typeRef.path
  body : ∀ v, config.body = some v → ∃ name : QualifiedName, v.type = .struct name ∧ IsPath name.path

/-- **The names of a built config.** -/
structure RequestConfig.IsNamed (config : RequestConfig) : Prop extends config.HasPaths where
  pathVariables : ∀ v ∈ config.pathVariables,
    (∃ scalar, v.type = .scalar scalar) ∧ ∃ i : Ident, v.fieldName = i.text
  queryVariables : ∀ v ∈ config.queryVariables,
    (∃ scalar, v.type = .scalar scalar) ∧ ∃ i : Ident, v.fieldName = i.text
  bodyField : ∀ v, config.body = some v → ∃ i : Ident, v.fieldName = i.text

namespace TaggedCatalog

variable {t : TaggedCatalog} {s : CatalogStruct} {fields : List Field} {config : RequestConfig}
variable {outcome : Outcome} {service : Service} {handler : Handler}

theorem exists_contributes {part? : FieldPart → Option Variable} {parts : List FieldPart}
    {v : Variable} (hparts : fields.mapM (t.fieldPart s) = .ok parts)
    (hv : v ∈ parts.filterMap part?) :
    ∃ field ∈ fields, ∃ part, t.Contributes s field part ∧ part? part = some v := by
  obtain ⟨part, hpart, hv⟩ := List.mem_filterMap.mp hv
  obtain ⟨field, hfield, h⟩ := Results.exists_of_mem_mapM hparts hpart
  exact ⟨field, hfield, part, contributes_of_fieldPart h, hv⟩

/-- The types of a config in a scoped catalogue are named by paths. -/
theorem hasPaths_of_namedConfig (H : t.catalog.IsScoped) (hs : s ∈ t.catalog.structs)
    (h : t.namedConfig s fields = .ok config) : config.HasPaths := by
  obtain ⟨parts, hparts, rfl⟩ := Results.map_eq_ok.mp h
  refine ⟨H.isModulePath_struct hs, fun v hv => ?_⟩
  obtain ⟨_, _, part, hpart, hv⟩ := exists_contributes hparts (List.mem_of_getLast? hv)
  cases hpart with
  | body _ _ hwritten hname =>
    cases hv
    exact ⟨_, rfl, H.isPath_typeName? (H.structs s hs) (TypeExpr.isSpelled_writtenName? hwritten)
      hname⟩
  | _ => cases hv

/-- The config of a struct of a scoped catalogue has names. -/
theorem isNamed_of_namedConfig (H : t.catalog.IsScoped) (hs : s ∈ t.catalog.structs)
    (hnames : ∀ field ∈ fields, field.name.text ≠ "_") (h : t.namedConfig s fields = .ok config) :
    config.IsNamed := by
  refine ⟨hasPaths_of_namedConfig H hs h, ?_, ?_, ?_⟩ <;>
    obtain ⟨parts, hparts, rfl⟩ := Results.map_eq_ok.mp h <;> intro v hv
  · obtain ⟨field, hfield, part, hpart, hv⟩ := exists_contributes hparts hv
    cases hpart with
    | path => cases hv; exact ⟨⟨_, rfl⟩, NameOr.exists_ident (hnames field hfield)⟩
    | _ => cases hv
  · obtain ⟨field, hfield, part, hpart, hv⟩ := exists_contributes hparts hv
    cases hpart with
    | query => cases hv; exact ⟨⟨_, rfl⟩, NameOr.exists_ident (hnames field hfield)⟩
    | _ => cases hv
  · obtain ⟨field, hfield, part, hpart, hv⟩ :=
      exists_contributes hparts (List.mem_of_getLast? hv)
    cases hpart with
    | body => cases hv; exact NameOr.exists_ident (hnames field hfield)
    | _ => cases hv

/-- The types of a handler's config are named by paths. -/
theorem hasPaths_of_handler {scope declaration args : String} {signature : Signature}
    (H : t.catalog.IsScoped) (h : t.handler scope declaration signature args = .ok handler)
    (hconfig : handler.config = some config) : config.HasPaths := by
  obtain ⟨s, fields, hs, -, hnamed⟩ := (handler_eq_ok h).2 config hconfig
  exact hasPaths_of_namedConfig H (mem_of_configStruct? hs) hnamed

/-- The config of a handler has names. -/
theorem isNamed_of_handler {scope declaration args : String} {signature : Signature}
    (H : t.catalog.IsScoped) (hnames : ∀ s ∈ t.catalog.structs, s.NamesFields)
    (h : t.handler scope declaration signature args = .ok handler)
    (hconfig : handler.config = some config) : config.IsNamed := by
  obtain ⟨s, fields, hs, hfields, hnamed⟩ := (handler_eq_ok h).2 config hconfig
  have hmem := mem_of_configStruct? hs
  refine isNamed_of_namedConfig H hmem (fun field hfield => ?_) hnamed
  cases hitem : s.item.fields with
  | named named =>
    rw [hitem] at hfields
    cases hfields
    exact hnames s hmem _ hitem field hfield
  | positional =>
    rw [hitem] at hfields
    cases hfields
  | absent =>
    rw [hitem] at hfields
    cases hfields
    cases hfield

/-- The initializer of a built service is called by a module path. -/
theorem isModulePath_callPath (H : t.catalog.IsScoped) (hs : s ∈ t.catalog.structs)
    {candidate : Candidate} (h : candidate ∈ t.candidates) :
    IsModulePath (candidate.initializer.callPath s.qualifiedName) := by
  rcases mem_candidates h with ⟨f, hf, rfl⟩ | ⟨block, hblock, method, hmethod, rfl⟩
  · exact QualifiedName.path_isModulePath (H.functions f hf) (.ofIdent f.function.signature.name)
  · exact (H.isModulePath_struct hs).child (.ofIdent method.signature.name)

end TaggedCatalog

/-! ### Programs of built names -/

/-- The type of a config's body leads with the word `try`. -/
def RequestConfig.bodyLeadsWithTry (config : RequestConfig) : Bool :=
  config.body.any fun v =>
    match v.type with
    | .struct name => (Scope.segments name.path).head? == some "try"
    | .scalar _ => false

/-- The type of a handler's body leads with the word `try`. -/
def Handler.bodyLeadsWithTry (handler : Handler) : Bool :=
  handler.config.any (·.bodyLeadsWithTry)

/-- The variables of a config pass the checks of a program. -/
structure RequestConfig.Passes (config : RequestConfig) : Prop where
  typeRef : ∃ p, Program.path config.typeRef.path = .ok p
  pathVariables : ∀ v ∈ config.pathVariables,
    (∃ scalar, v.type = .scalar scalar) ∧ ∃ i, Program.ident v.fieldName = .ok i
  queryVariables : ∀ v ∈ config.queryVariables,
    (∃ scalar, v.type = .scalar scalar) ∧ ∃ i, Program.ident v.fieldName = .ok i
  body : ∀ v, config.body = some v →
    (∃ name : QualifiedName, v.type = .struct name ∧ ∃ p, Program.path name.path = .ok p) ∧
      ∃ i, Program.ident v.fieldName = .ok i

/-- The names of a handler pass the checks of a program. -/
structure Handler.Passes (service : Service) (handler : Handler) : Prop where
  initializer : ∃ p, Program.path (service.initializer.callPath service.typeRef) = .ok p
  method : ∃ i, Program.ident handler.function = .ok i
  config : ∀ config, handler.config = some config → config.Passes

theorem Program.exists_ident {text : String} (h : ∃ i : Ident, text = i.text) :
    ∃ i, Program.ident text = .ok i := by
  obtain ⟨i, rfl⟩ := h
  exact ⟨i, ident_text i⟩

theorem RequestConfig.IsNamed.passes {config : RequestConfig} (H : config.IsNamed) :
    config.Passes := by
  obtain ⟨p, hp, _⟩ := Program.path_of_isModulePath H.typeRef
  refine ⟨⟨p, hp⟩, fun v hv => ?_, fun v hv => ?_, fun v hv => ?_⟩
  · exact (H.pathVariables v hv).imp_right Program.exists_ident
  · exact (H.queryVariables v hv).imp_right Program.exists_ident
  · obtain ⟨name, hname, hpath⟩ := H.body v hv
    obtain ⟨p, hp, _⟩ := Program.path_of_isPath hpath
    exact ⟨⟨name, hname, p, hp⟩, Program.exists_ident (H.bodyField v hv)⟩

namespace Program

variable {config : RequestConfig} {service : Service} {handler : Handler} {v : Variable}

theorem exists_scalarAssignment {origin : Origin}
    (h : (∃ scalar, v.type = .scalar scalar) ∧ ∃ i : Ident, v.fieldName = i.text) :
    ∃ a, scalarAssignment origin v = .ok a := by
  obtain ⟨⟨scalar, hscalar⟩, i, hi⟩ := h
  simp only [scalarAssignment, hscalar, hi, ident_text]
  exact ⟨_, rfl⟩

theorem isPlaceable_of_scalarAssignment {origin : Origin} {a : Assignment}
    (h : scalarAssignment origin v = .ok a) : a.extraction.isPlaceable = true := by
  unfold scalarAssignment at h
  split at h
  · obtain ⟨i, _, rfl⟩ := Results.map_eq_ok.mp h
    rfl
  · cases h

/-- The scalar variables of a config are assigned, and their values can be taken anywhere. -/
theorem exists_scalarAssignments (origin : Origin) {vs : List Variable}
    (h : ∀ v ∈ vs, (∃ scalar, v.type = .scalar scalar) ∧ ∃ i : Ident, v.fieldName = i.text) :
    ∃ assigned, vs.mapM (scalarAssignment origin) = .ok assigned ∧
      (assigned.all fun a => a.extraction.isPlaceable) = true := by
  obtain ⟨assigned, hassigned⟩ := Results.exists_mapM fun v hv => exists_scalarAssignment (h v hv)
  refine ⟨assigned, hassigned, List.all_eq_true.mpr fun a ha => ?_⟩
  obtain ⟨v, _, hv⟩ := Results.exists_of_mem_mapM hassigned ha
  exact isPlaceable_of_scalarAssignment hv

/-- The body of a config is assigned. Its type can be declared unless it leads with `try`. -/
theorem exists_bodyAssignment (H : config.IsNamed) :
    ∃ assigned, config.body.toList.mapM bodyAssignment = .ok assigned ∧
      (assigned.all fun a => a.extraction.isPlaceable) = !config.bodyLeadsWithTry := by
  cases hbody : config.body with
  | none => exact ⟨[], rfl, by simp [RequestConfig.bodyLeadsWithTry, hbody]⟩
  | some v =>
    obtain ⟨name, hname, hpath⟩ := H.body v hbody
    obtain ⟨i, hi⟩ := H.bodyField v hbody
    obtain ⟨p, hp, _, htry⟩ := path_of_isPath hpath
    have hassignment : bodyAssignment v = .ok ⟨i, .decoded p⟩ := by
      simp only [bodyAssignment, hname, hp, hi, ident_text]
      rfl
    refine ⟨[⟨i, .decoded p⟩], Results.mapM_eq_ok.mpr (.cons hassignment .nil), ?_⟩
    simp [RequestConfig.bodyLeadsWithTry, hbody, hname, Extraction.isPlaceable, htry]

/-- The literal of a config with names can be written unless its body leads with `try`. -/
theorem exists_literal (H : config.IsNamed) :
    ∃ l, literal config = .ok l ∧ l.isPlaceable = !config.bodyLeadsWithTry := by
  obtain ⟨paths, hpaths, hpathsPlaceable⟩ := exists_scalarAssignments .path H.pathVariables
  obtain ⟨queries, hqueries, hqueriesPlaceable⟩ := exists_scalarAssignments .query H.queryVariables
  obtain ⟨body, hbody, hbodyPlaceable⟩ := exists_bodyAssignment H
  obtain ⟨type, htype, hexpression, htry⟩ := path_of_isModulePath H.typeRef
  refine ⟨⟨type, paths ++ queries ++ body, config.hasOtherFields⟩, ?_, ?_⟩
  · have hassignments : assignments config = .ok (paths ++ queries ++ body) := by
      simp only [assignments, hpaths, hqueries, hbody]
      rfl
    simp only [literal, hassignments, htype]
    rfl
  · simp only [ConfigLiteral.isPlaceable, hexpression, PathExpr.isTry_of_leadsWithTry htry,
      List.all_append, hpathsPlaceable, hqueriesPlaceable, hbodyPlaceable]
    rfl

/-- A handler with names has a program, or its body leads with `try`. -/
theorem ofHandler_of_isNamed
    (hinitializer : IsModulePath (service.initializer.callPath service.typeRef))
    (hfunction : ∃ i : Ident, handler.function = i.text)
    (hconfig : ∀ config, handler.config = some config → config.IsNamed) :
    if handler.bodyLeadsWithTry then ofHandler service handler = .error .malformedProgram
    else ∃ p, ofHandler service handler = .ok p := by
  obtain ⟨initializer, hcall, hexpression, htry⟩ := path_of_isModulePath hinitializer
  obtain ⟨i, hi⟩ := hfunction
  obtain ⟨found, hfound, hplaceable⟩ : ∃ found, handler.config.mapM literal = .ok found ∧
      found.all (·.isPlaceable) = !handler.bodyLeadsWithTry := by
    cases hcase : handler.config with
    | none => exact ⟨none, rfl, by simp [Handler.bodyLeadsWithTry, hcase]⟩
    | some config =>
      obtain ⟨l, hl, hplaceable⟩ := exists_literal (hconfig config hcase)
      refine ⟨some l, Results.mapM_option_eq_ok.mpr (.inr ⟨config, l, rfl, hl, rfl⟩), ?_⟩
      simpa [Handler.bodyLeadsWithTry, hcase] using hplaceable
  have hprogram : ofHandler service handler =
      if !handler.bodyLeadsWithTry then .ok ⟨initializer, service.initializer.isAsync, found, i,
        handler.isAsync, handler.context, handler.returns⟩
      else .error .malformedProgram := by
    simp only [ofHandler, hcall, hfound, hi, ident_text, bind, Except.bind, isPlaceable,
      hexpression, PathExpr.isTry_of_leadsWithTry htry, hplaceable]
    rfl
  rw [hprogram]
  cases handler.bodyLeadsWithTry with
  | true => rfl
  | false => exact ⟨_, rfl⟩

/-! ### Paths without arguments -/

theorem isPlain_of_scalarAssignment {origin : Origin} {a : Assignment}
    (h : scalarAssignment origin v = .ok a) : a.extraction.isPlain = true := by
  unfold scalarAssignment at h
  split at h
  · obtain ⟨i, _, rfl⟩ := Results.map_eq_ok.mp h
    rfl
  · cases h

theorem isPlain_of_bodyAssignment {a : Assignment}
    (hpath : ∃ name : QualifiedName, v.type = .struct name ∧ IsPath name.path)
    (h : bodyAssignment v = .ok a) : a.extraction.isPlain = true := by
  obtain ⟨name, hname, hpath⟩ := hpath
  simp only [bodyAssignment, hname] at h
  obtain ⟨type, htype, h⟩ := Results.bind_eq_ok.mp h
  obtain ⟨field, _, h⟩ := Results.bind_eq_ok.mp h
  cases h
  exact isPlain_of_isPath hpath htype

theorem isPlain_of_literal {l : ConfigLiteral} (H : config.HasPaths) (h : literal config = .ok l) :
    l.isPlain = true := by
  obtain ⟨assigned, hassigned, h⟩ := Results.bind_eq_ok.mp h
  obtain ⟨type, htype, h⟩ := Results.bind_eq_ok.mp h
  obtain ⟨paths, hpaths, hassigned⟩ := Results.bind_eq_ok.mp hassigned
  obtain ⟨queries, hqueries, hassigned⟩ := Results.bind_eq_ok.mp hassigned
  obtain ⟨body, hbody, hassigned⟩ := Results.bind_eq_ok.mp hassigned
  cases h
  cases hassigned
  rw [ConfigLiteral.isPlain, isPlain_of_isPath H.typeRef.isPath htype, Bool.true_and,
    List.all_eq_true]
  intro a ha
  rw [List.mem_append, List.mem_append] at ha
  rcases ha with (ha | ha) | ha
  · obtain ⟨v, _, hv⟩ := Results.exists_of_mem_mapM hpaths ha
    exact isPlain_of_scalarAssignment hv
  · obtain ⟨v, _, hv⟩ := Results.exists_of_mem_mapM hqueries ha
    exact isPlain_of_scalarAssignment hv
  · obtain ⟨v, hmem, hv⟩ := Results.exists_of_mem_mapM hbody ha
    exact isPlain_of_bodyAssignment (H.body v (Option.mem_toList.mp hmem)) hv

/-- The program of a handler whose types are named by paths has no arguments in its paths. -/
theorem isPlain_of_ofHandler {p : Program}
    (hinitializer : IsModulePath (service.initializer.callPath service.typeRef))
    (hconfig : ∀ config, handler.config = some config → config.HasPaths)
    (h : ofHandler service handler = .ok p) : p.isPlain = true := by
  obtain ⟨initializer, hcall, h⟩ := Results.bind_eq_ok.mp h
  obtain ⟨found, hfound, h⟩ := Results.bind_eq_ok.mp h
  obtain ⟨method, _, h⟩ := Results.bind_eq_ok.mp h
  dsimp only at h
  split at h
  · cases h
    rw [isPlain, isPlain_of_isPath hinitializer.isPath hcall, Bool.true_and]
    rcases Results.mapM_option_eq_ok.mp hfound with ⟨_, rfl⟩ | ⟨config, l, hsome, hl, rfl⟩
    · rfl
    · exact isPlain_of_literal (hconfig config hsome) hl
  · cases h

end Program

namespace TaggedCatalog

variable {files : List SourceFile} {owner : String} {outcome : Outcome} {service : Service}
variable {handler : Handler}

/-- The initializer of a built service is called by a module path. -/
theorem isModulePath_of_build {t : TaggedCatalog} (H : t.catalog.IsScoped)
    (hbuild : t.build = .ok outcome) (hservice : service ∈ outcome.services) :
    IsModulePath (service.initializer.callPath service.typeRef) := by
  obtain ⟨s, hs, initializer, hinitializer, rfl⟩ := exists_of_mem_build hbuild hservice
  obtain ⟨candidate, hcandidate, rfl⟩ := exists_candidate hinitializer
  exact isModulePath_callPath H hs hcandidate

/-- **What is built is rendered.** In files of module paths with named fields, the names of every
built handler pass the checks of a program, and the program is rendered under every policy, unless
the type of the handler's body leads with the word `try`; that program does not parse. -/
theorem render_of_build (hscopes : ∀ file ∈ files, file.HasModuleScope)
    (hnames : ∀ s ∈ (Catalog.ofFiles files).structs, s.NamesFields)
    (hbuild : (TaggedCatalog.mk owner (Catalog.ofFiles files)).build = .ok outcome)
    (hservice : service ∈ outcome.services) (hhandler : handler ∈ service.handlers) :
    handler.Passes service ∧ ∀ policy,
      if handler.bodyLeadsWithTry then
        service.render policy handler =
          .error (.render (service.location handler) .malformedProgram)
      else ∃ text, service.render policy handler = .ok text := by
  have H : (Catalog.ofFiles files).IsScoped := Catalog.isScoped_ofFiles hscopes
  obtain ⟨origin⟩ := exists_origin_of_build hbuild hservice hhandler
  have hcall := isModulePath_of_build H hbuild hservice
  have hfunction : ∃ i : Ident, handler.function = i.text :=
    ⟨origin.method.signature.name, (handler_eq_ok origin.handler_eq).1⟩
  have hconfig : ∀ config, handler.config = some config → config.IsNamed :=
    fun config hsome => isNamed_of_handler H hnames origin.handler_eq hsome
  obtain ⟨p, hp, _⟩ := Program.path_of_isModulePath hcall
  refine ⟨⟨⟨p, hp⟩, Program.exists_ident hfunction, fun config h => (hconfig config h).passes⟩,
    fun policy => ?_⟩
  have hprogram := Program.ofHandler_of_isNamed hcall hfunction hconfig
  split
  · rename_i htry
    rw [if_pos htry] at hprogram
    rw [Service.render, hprogram]
    rfl
  · rename_i htry
    rw [if_neg htry] at hprogram
    obtain ⟨p, hp⟩ := hprogram
    exact ⟨p.text policy, by rw [Service.render, hp]; rfl⟩

/-- In files of module paths no path of the program of a built handler has arguments. -/
theorem isPlain_of_build {p : Program} (hscopes : ∀ file ∈ files, file.HasModuleScope)
    (hbuild : (TaggedCatalog.mk owner (Catalog.ofFiles files)).build = .ok outcome)
    (hservice : service ∈ outcome.services) (hhandler : handler ∈ service.handlers)
    (hp : Program.ofHandler service handler = .ok p) : p.isPlain = true := by
  have H : (Catalog.ofFiles files).IsScoped := Catalog.isScoped_ofFiles hscopes
  obtain ⟨origin⟩ := exists_origin_of_build hbuild hservice hhandler
  exact Program.isPlain_of_ofHandler (isModulePath_of_build H hbuild hservice)
    (fun config hconfig => hasPaths_of_handler H origin.handler_eq hconfig) hp

end TaggedCatalog

namespace Sample

/-- The word `try`, which leads paths but names nothing. -/
def tryWord : PathWord := ⟨⟨"try", by decide⟩, .inr (by decide)⟩

def outsideName : Ident := ⟨⟨"T", by decide⟩, by decide⟩

/-- A body of a type in the crate `try`. -/
def tryBody : List Field :=
  [bodyField firstName (.path (.mk true [.plain tryWord] (.plain (.ofIdent outsideName))))]

def outsideBody : Variable := ⟨"a", .struct ⟨"try", "T"⟩, "a"⟩

theorem file_hasModuleScope (fields : List Field) :
    ∀ f ∈ [file fields], f.HasModuleScope := by
  intro f hf
  rw [List.mem_singleton.mp hf]
  exact ⟨[⟨⟨"s", by decide⟩, by decide⟩], List.cons_ne_nil _ _, rfl⟩

theorem structs_namesFields {fields : List Field}
    (h : ∀ field ∈ fields, field.name.text ≠ "_") :
    ∀ s ∈ (Catalog.ofFiles [file fields]).structs, s.NamesFields := by
  intro s hs named hnamed
  rcases List.mem_cons.mp hs with rfl | hs
  · cases hnamed
  · obtain rfl := List.mem_singleton.mp hs
    cases hnamed
    exact h

theorem build_tryBody : (catalog tryBody).build = .ok ⟨[service outsideBody], []⟩ :=
  Results.eq_ok_of_toOption (by decide +kernel)

theorem render_of_build_twoBodies :
    (∀ f ∈ [file twoBodies], f.HasModuleScope) ∧
      (∀ s ∈ (Catalog.ofFiles [file twoBodies]).structs, s.NamesFields) ∧
        (catalog twoBodies).build = .ok ⟨[service lastBody], []⟩ ∧
          (handler lastBody).Passes (service lastBody) ∧
            ∃ text, (service lastBody).render .abort (handler lastBody) = .ok text := by
  have hscopes := file_hasModuleScope twoBodies
  have hnames := structs_namesFields (show ∀ field ∈ twoBodies, field.name.text ≠ "_" by decide)
  have htry : ¬ (handler lastBody).bodyLeadsWithTry = true := by
    decide
  obtain ⟨hpasses, hrender⟩ := TaggedCatalog.render_of_build hscopes hnames build_twoBodies
    (List.mem_singleton_self _) (List.mem_singleton_self (handler lastBody))
  have habort := hrender .abort
  rw [if_neg htry] at habort
  exact ⟨hscopes, hnames, build_twoBodies, hpasses, habort⟩

/-- Not every built handler is rendered: a body's type may lead with `try`. -/
theorem not_render_of_tryBody :
    ¬ ∀ (files : List SourceFile) (owner : String) (outcome : Outcome) (service : Service)
        (handler : Handler), (∀ file ∈ files, file.HasModuleScope) →
      (∀ s ∈ (Catalog.ofFiles files).structs, s.NamesFields) →
      (TaggedCatalog.mk owner (Catalog.ofFiles files)).build = .ok outcome →
      service ∈ outcome.services → handler ∈ service.handlers →
      handler.Passes service ∧ ∀ policy, ∃ text, service.render policy handler = .ok text := by
  intro H
  have hnames : ∀ field ∈ tryBody, field.name.text ≠ "_" := by
    decide
  obtain ⟨text, htext⟩ := (H [file tryBody] "g" _ _ _ (file_hasModuleScope tryBody)
    (structs_namesFields hnames) build_tryBody (List.mem_singleton_self _)
    (List.mem_singleton_self (handler outsideBody))).2 .respond
  have hnone :
      ((service outsideBody).render .respond (handler outsideBody)).toOption.isSome = false := by
    decide +kernel
  rw [htext] at hnone
  cases hnone

end Sample

end Entrypoint
