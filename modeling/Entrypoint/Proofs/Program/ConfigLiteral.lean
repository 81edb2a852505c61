import Mathlib.Data.List.Nodup
import Entrypoint.Proofs.Program.Spelling
import Entrypoint.Proofs.Service.Origin
import Entrypoint.Proofs.Service.RequestConfig
import Entrypoint.Proofs.Source.PathReading

/-! The config literal of a program. It assigns fields of the config struct, each once. The fields
that it leaves out are those without a role, which have their default, and every body but the last,
which has nothing. -/

namespace Entrypoint

open Text (StandsIn)

variable {t : TaggedCatalog} {s : CatalogStruct} {fields : List Field} {config : RequestConfig}

namespace TaggedCatalog

/-- The fields that the literal of a config assigns. -/
def assigned (t : TaggedCatalog) (fields : List Field) : List Field :=
  t.withRole .pathVariable fields ++ t.withRole .queryVariable fields ++
    (t.withRole .body fields).getLast?.toList

variable {field : Field} {kind kind' : RoleKind}

theorem mem_withRole :
    field ∈ t.withRole kind fields ↔ field ∈ fields ∧ t.hasRole kind field.documentation = true :=
  List.mem_filter

theorem hasRole_unique (h : t.hasRole kind field.documentation = true)
    (h' : t.hasRole kind' field.documentation = true) : kind = kind' := by
  rw [hasRole, Option.any_eq_true] at h h'
  obtain ⟨role, hrole, hkind⟩ := h
  obtain ⟨role', hrole', hkind'⟩ := h'
  cases hrole.symm.trans hrole'
  exact (beq_iff_eq.mp hkind).symm.trans (beq_iff_eq.mp hkind')

theorem notMem_withRole (hne : kind ≠ kind') (h : field ∈ t.withRole kind fields) :
    field ∉ t.withRole kind' fields :=
  fun h' => hne (hasRole_unique (mem_withRole.mp h).2 (mem_withRole.mp h').2)

theorem mem_assigned : field ∈ t.assigned fields ↔
    field ∈ t.withRole .pathVariable fields ∨ field ∈ t.withRole .queryVariable fields ∨
      (t.withRole .body fields).getLast? = some field := by
  rw [assigned, List.mem_append, List.mem_append, Option.mem_toList, or_assoc]

theorem assigned_subset : t.assigned fields ⊆ fields := by
  intro field hfield
  rcases mem_assigned.mp hfield with h | h | h
  · exact (mem_withRole.mp h).1
  · exact (mem_withRole.mp h).1
  · exact (mem_withRole.mp (List.mem_of_getLast? h)).1

theorem nodup_assigned (h : fields.Nodup) : (t.assigned fields).Nodup := by
  have hwithRole (kind) : (t.withRole kind fields).Nodup := h.filter _
  rw [assigned, List.append_assoc, List.nodup_append, List.nodup_append]
  refine ⟨hwithRole _, ⟨hwithRole _, ?_, ?_⟩, ?_⟩
  · cases (t.withRole .body fields).getLast? <;> simp
  · rintro field hquery body hbody rfl
    have hbody := List.mem_of_getLast? (Option.mem_toList.mp hbody)
    exact notMem_withRole (by decide) hquery hbody
  · rintro field hpath other hother rfl
    rcases List.mem_append.mp hother with hquery | hbody
    · exact notMem_withRole (by decide) hpath hquery
    · have hbody := List.mem_of_getLast? (Option.mem_toList.mp hbody)
      exact notMem_withRole (by decide) hpath hbody

/-- A body that is not the last is not assigned. -/
theorem length_bodies_le (hnodup : fields.Nodup) (h : ∀ field ∈ fields, field ∈ t.assigned fields) :
    (t.withRole .body fields).length ≤ 1 := by
  have hbodies : (t.withRole .body fields).Nodup := hnodup.filter _
  cases hlist : t.withRole .body fields with
  | nil => exact Nat.zero_le 1
  | cons first rest =>
    have hfirst : first ∈ t.withRole .body fields := hlist ▸ List.mem_cons_self
    rcases mem_assigned.mp (h first (mem_withRole.mp hfirst).1) with hpath | hquery | hlast
    · exact absurd hpath (notMem_withRole (by decide) hfirst)
    · exact absurd hquery (notMem_withRole (by decide) hfirst)
    · -- The first body is assigned as the last, so no other comes after it.
      cases rest with
      | nil => exact Nat.le_refl 1
      | cons second rest =>
        rw [hlist] at hlast hbodies
        rw [List.getLast?_cons_cons] at hlast
        exact absurd (List.mem_of_getLast? hlast) (List.nodup_cons.mp hbodies).1

/-- What a literal leaves out has its default unless a body was replaced. -/
theorem assigned_all_or_rest_iff (hnodup : fields.Nodup) (hfills : t.Fills s fields config) :
    ((∀ field ∈ fields, field ∈ t.assigned fields) ∨ config.hasOtherFields = true) ↔
      fields.any t.isUntagged = true ∨ (t.withRole .body fields).length ≤ 1 := by
  rw [hfills.hasOtherFields]
  refine ⟨fun h => h.symm.imp_right (length_bodies_le hnodup), fun h => ?_⟩
  by_cases huntagged : fields.any t.isUntagged = true
  · exact .inr huntagged
  have hlength := h.resolve_left huntagged
  refine .inl fun field hfield => mem_assigned.mpr ?_
  rcases hfills.roles field hfield with hnone | hpath | hquery | hbody
  · exact absurd (List.any_eq_true.mpr ⟨field, hfield, hnone⟩) huntagged
  · exact .inl (mem_withRole.mpr ⟨hfield, hpath⟩)
  · exact .inr (.inl (mem_withRole.mpr ⟨hfield, hquery⟩))
  · have hmem : field ∈ t.withRole .body fields := mem_withRole.mpr ⟨hfield, hbody⟩
    cases hlist : t.withRole .body fields with
    | nil => exact nomatch hlist ▸ hmem
    | cons first rest =>
      rw [hlist] at hlength hmem
      obtain rfl : rest = [] := List.length_eq_zero_iff.mp (by simpa using hlength)
      exact .inr (.inr (congrArg some (List.mem_singleton.mp hmem).symm))

end TaggedCatalog

/-! ### The names that a literal assigns -/

namespace ConfigLiteral

/-- The names of the fields that a literal assigns. -/
def fieldNames (l : ConfigLiteral) : List String := l.assignments.map (·.field.text)

/-- The statement of a literal is spelled with the names of its fields. -/
theorem text_binding (l : ConfigLiteral) (policy : FailurePolicy) : l.binding.text policy =
    Spelling.config (TokenTree.textAll l.type.tokens) l.fieldNames l.hasRest := by
  have hnumbered : (l.assignments.mapIdx fun index a => (a.field, index)) =
      (l.assignments.map (·.field)).mapIdx fun index field => (field, index) := by
    refine List.ext_getElem? fun index => ?_
    simp only [List.getElem?_map, List.getElem?_mapIdx, Option.map_map]
    rfl
  rw [binding, hnumbered, Statement.text_config, List.map_map]
  rfl

end ConfigLiteral

namespace Program

theorem ident?_underscore : ident? "_" = none := by
  decide

/-- What is read as an identifier from the name of a field has its text. -/
theorem text_of_ident {name : NameOr ["_"]} {i : Ident} (h : ident name.text = .ok i) :
    i.text = name.text := by
  unfold ident at h
  split at h
  · rename_i found hfound
    cases h
    rcases name.isName_word with hkeyword | hunderscore
    · exact congrArg Ident.text (Option.some.inj (hfound.symm.trans (ident?_text ⟨name.word, hkeyword⟩)))
    · have htext : name.text = "_" := List.mem_singleton.mp hunderscore
      rw [htext, ident?_underscore] at hfound
      cases hfound
  · cases h

theorem ident_of_scalarAssignment {origin : Origin} {v : Variable} {a : Assignment}
    (h : scalarAssignment origin v = .ok a) : ident v.fieldName = .ok a.field := by
  unfold scalarAssignment at h
  split at h
  · obtain ⟨i, hi, rfl⟩ := Results.map_eq_ok.mp h
    exact hi
  · cases h

theorem ident_of_bodyAssignment {v : Variable} {a : Assignment} (h : bodyAssignment v = .ok a) :
    ident v.fieldName = .ok a.field := by
  unfold bodyAssignment at h
  split at h
  · obtain ⟨type, _, h⟩ := Results.bind_eq_ok.mp h
    obtain ⟨i, hi, h⟩ := Results.bind_eq_ok.mp h
    cases h
    exact hi
  · cases h

/-- Assignments keep the names of their variables, if these are names of fields. -/
theorem fieldNames_of_mapM {assignment : Variable → Except RenderFault Assignment}
    (hident : ∀ v a, assignment v = .ok a → ident v.fieldName = .ok a.field)
    {vs : List Variable} {assignments : List Assignment}
    (hnames : vs.map (·.fieldName) ⊆ fields.map (·.name.text))
    (h : vs.mapM assignment = .ok assignments) :
    assignments.map (·.field.text) = vs.map (·.fieldName) := by
  have hall := Results.mapM_eq_ok.mp h
  clear h
  induction hall with
  | nil => rfl
  | @cons v a vs assignments hv _ ih =>
    rw [List.map_cons, List.cons_subset] at hnames
    obtain ⟨field, _, hfield⟩ := List.mem_map.mp hnames.1
    have htext : a.field.text = v.fieldName := by
      rw [← hfield]
      exact text_of_ident (hfield ▸ hident v a hv)
    rw [List.map_cons, List.map_cons, htext, ih hnames.2]

/-- What the literal of a config is made of. -/
theorem literal_eq_ok {l : ConfigLiteral} (h : literal config = .ok l) :
    assignments config = .ok l.assignments ∧ path config.typeRef.path = .ok l.type ∧
      l.hasRest = config.hasOtherFields := by
  obtain ⟨assigned, hassigned, h⟩ := Results.bind_eq_ok.mp h
  obtain ⟨type, htype, h⟩ := Results.bind_eq_ok.mp h
  cases h
  exact ⟨hassigned, htype, rfl⟩

/-- The assignments of a config are those of its path variables, its query variables and its
body. -/
theorem assignments_eq_ok {assigned : List Assignment} (h : assignments config = .ok assigned) :
    ∃ paths queries body, config.pathVariables.mapM (scalarAssignment .path) = .ok paths ∧
      config.queryVariables.mapM (scalarAssignment .query) = .ok queries ∧
        config.body.toList.mapM bodyAssignment = .ok body ∧ assigned = paths ++ queries ++ body := by
  obtain ⟨paths, hpaths, h⟩ := Results.bind_eq_ok.mp h
  obtain ⟨queries, hqueries, h⟩ := Results.bind_eq_ok.mp h
  obtain ⟨body, hbody, h⟩ := Results.bind_eq_ok.mp h
  cases h
  exact ⟨paths, queries, body, hpaths, hqueries, hbody, rfl⟩

/-- The literal of a config assigns the fields with a role, of several bodies the last. -/
theorem fieldNames_of_literal {l : ConfigLiteral} (hfills : t.Fills s fields config)
    (h : literal config = .ok l) : l.fieldNames = (t.assigned fields).map (·.name.text) := by
  obtain ⟨paths, queries, body, hpaths, hqueries, hbody, hassigned⟩ :=
    assignments_eq_ok (literal_eq_ok h).1
  have hsubset (kind) : (t.withRole kind fields).map (·.name.text) ⊆ fields.map (·.name.text) :=
    List.map_subset _ (List.filter_subset_self fields)
  have hlast : config.body.toList.map (·.fieldName) =
      (t.withRole .body fields).getLast?.toList.map (·.name.text) := by
    rw [← Option.toList_map, hfills.body, Option.toList_map]
  have hlastSubset : config.body.toList.map (·.fieldName) ⊆ fields.map (·.name.text) := by
    rw [hlast]
    refine List.map_subset _ fun field hfield => ?_
    exact (TaggedCatalog.mem_withRole.mp (List.mem_of_getLast? (Option.mem_toList.mp hfield))).1
  rw [ConfigLiteral.fieldNames, hassigned, TaggedCatalog.assigned, List.map_append, List.map_append,
    List.map_append, List.map_append,
    fieldNames_of_mapM (fun _ _ => ident_of_scalarAssignment) (hfills.paths ▸ hsubset _) hpaths,
    fieldNames_of_mapM (fun _ _ => ident_of_scalarAssignment) (hfills.queries ▸ hsubset _) hqueries,
    fieldNames_of_mapM (fun _ _ => ident_of_bodyAssignment) hlastSubset hbody,
    hfills.paths, hfills.queries, hlast]

/-- A program has the literal of the handler's config. -/
theorem config_of_ofHandler {service : Service} {handler : Handler} {p : Program}
    (h : ofHandler service handler = .ok p) (hconfig : handler.config = some config) :
    ∃ l, literal config = .ok l ∧ p.config = some l := by
  obtain ⟨initializer, _, h⟩ := Results.bind_eq_ok.mp h
  obtain ⟨found, hfound, h⟩ := Results.bind_eq_ok.mp h
  obtain ⟨method, _, h⟩ := Results.bind_eq_ok.mp h
  rw [hconfig] at hfound
  rcases Results.mapM_option_eq_ok.mp hfound with ⟨hnone, _⟩ | ⟨_, l, hsome, hl, rfl⟩
  · cases hnone
  cases hsome
  dsimp only at h
  split at h
  · cases h
    exact ⟨l, hl, rfl⟩
  · cases h

end Program

theorem Service.render_eq_ok {policy : FailurePolicy} {service : Service} {handler : Handler}
    {text : String} (h : service.render policy handler = .ok text) :
    ∃ p, Program.ofHandler service handler = .ok p ∧ p.text policy = text := by
  obtain ⟨p, hp, rfl⟩ := Results.map_eq_ok.mp h
  exact ⟨p, Results.mapError_eq_ok.mp hp, rfl⟩

/-- Every field of a struct with these fields is assigned, or the others have their default. -/
def ConfigLiteral.IsComplete (l : ConfigLiteral) (fields : List Field) : Prop :=
  (∀ field ∈ fields, field.name.text ∈ l.fieldNames) ∨ l.hasRest = true

/-- The literal of a config assigns fields of its struct, none twice, and is complete exactly if
some field has no role or no body takes the place of another. -/
theorem ConfigLiteral.of_fills {l : ConfigLiteral} (hfills : t.Fills s fields config)
    (hdistinct : (fields.map (·.name.text)).Nodup) (h : Program.literal config = .ok l) :
    l.fieldNames ⊆ fields.map (·.name.text) ∧ l.fieldNames.Nodup ∧
      (l.IsComplete fields ↔
        fields.any t.isUntagged = true ∨ (t.withRole .body fields).length ≤ 1) := by
  have hnames := Program.fieldNames_of_literal hfills h
  have hnodup : fields.Nodup := hdistinct.of_map _
  have hinjective := List.inj_on_of_nodup_map hdistinct
  refine ⟨hnames ▸ List.map_subset _ TaggedCatalog.assigned_subset, ?_, ?_⟩
  · rw [hnames]
    refine (TaggedCatalog.nodup_assigned hnodup).map_on fun f hf f' hf' => ?_
    exact hinjective (TaggedCatalog.assigned_subset hf) (TaggedCatalog.assigned_subset hf')
  · rw [← TaggedCatalog.assigned_all_or_rest_iff hnodup hfills, IsComplete,
      (Program.literal_eq_ok h).2.2, hnames]
    refine or_congr_left (forall₂_congr fun field hfield => ⟨fun h => ?_, fun h => ?_⟩)
    · obtain ⟨other, hother, htext⟩ := List.mem_map.mp h
      exact hinjective (TaggedCatalog.assigned_subset hother) hfield htext ▸ hother
    · exact List.mem_map_of_mem h

namespace TaggedCatalog

variable {outcome : Outcome} {service : Service} {handler : Handler}

/-- **The config literals of a build.** Where the config of a handler is a struct with named fields,
the rendered program binds a literal of that struct, which its text spells out. It assigns fields of the struct, none twice.
It assigns them all or gives the others their default exactly if some field has no role or there is
no second body: of two bodies the first is left out without a default. -/
theorem configLiteral_of_build (hbuild : t.build = .ok outcome)
    (hservice : service ∈ outcome.services) (hhandler : handler ∈ service.handlers)
    (hconfig : handler.config = some config) :
    ∃ (origin : t.HandlerOrigin service.name handler) (s : CatalogStruct),
      origin.configStruct? = some s ∧ s ∈ t.catalog.structs ∧ config.typeRef = s.qualifiedName ∧
        ∀ fields, s.item.fields = .named fields → (fields.map (·.name.text)).Nodup →
          ∀ policy text, service.render policy handler = .ok text →
            ∃ (p : Program) (l : ConfigLiteral), Program.ofHandler service handler = .ok p ∧
              p.text policy = text ∧ p.config = some l ∧ l.binding ∈ p.statements ∧
                StandsIn (Spelling.config (TokenTree.textAll l.type.tokens) l.fieldNames l.hasRest)
                  text ∧
                Program.path s.qualifiedName.path = .ok l.type ∧
                  l.fieldNames ⊆ fields.map (·.name.text) ∧ l.fieldNames.Nodup ∧
                  (l.IsComplete fields ↔
                    fields.any t.isUntagged = true ∨ (t.withRole .body fields).length ≤ 1) := by
  obtain ⟨origin⟩ := exists_origin_of_build hbuild hservice hhandler
  obtain ⟨_, hstruct⟩ := handler_eq_ok origin.handler_eq
  obtain ⟨s, fields, hs, hfields, hnamed⟩ := hstruct config hconfig
  have hfills := fills_of_namedConfig hnamed
  refine ⟨origin, s, hs, mem_of_configStruct? hs, hfills.typeRef, ?_⟩
  intro named hnamed hdistinct policy text htext
  rw [hnamed] at hfields
  cases hfields
  obtain ⟨p, hp, hrendered⟩ := Service.render_eq_ok htext
  obtain ⟨l, hl, hpl⟩ := Program.config_of_ofHandler hp hconfig
  have hbinding : l.binding ∈ p.statements := by
    simp [Program.statements, hpl, ConfigLiteral.statements]
  refine ⟨p, l, hp, hrendered, hpl, hbinding, ?_, ?_, ConfigLiteral.of_fills hfills hdistinct hl⟩
  · rw [← l.text_binding policy, ← hrendered]
    exact p.standsIn_statement hbinding
  · exact hfills.typeRef ▸ (Program.literal_eq_ok hl).2.1

end TaggedCatalog

/-! ### A service whose handler takes a config of given fields

The service `S` of the file `s` has the initializer `n` and the handler `h`, whose config is `R`. -/

namespace Sample

def serviceName : Ident := ⟨⟨"S", by decide⟩, by decide⟩

def configName : Ident := ⟨⟨"R", by decide⟩, by decide⟩

def typeOf (name : Ident) : TypeExpr := .path (.ofName (.ofIdent name))

def resultType : TypeExpr :=
  .path (.mk false [] (.mk (.ofIdent ⟨⟨"Result", by decide⟩, by decide⟩)
    (.angle false [.type (typeOf serviceName),
      .type (typeOf ⟨⟨"Error", by decide⟩, by decide⟩)] false)))

/-- The initializer, an associated function. -/
def initializer : Function :=
  ⟨"g:service_init", ⟨⟨⟨"n", by decide⟩, by decide⟩, false, none, [], some resultType⟩⟩

/-- The handler, a method that takes the context by value. -/
def method : Function :=
  ⟨"g:handler GET /", ⟨⟨⟨"h", by decide⟩, by decide⟩, false,
    some ⟨[], .path (.ofName .implementing)⟩,
    [typeOf ⟨⟨"Context", by decide⟩, by decide⟩, typeOf configName], some (typeOf serviceName)⟩⟩

def bodyField (name : Ident) (type : TypeExpr) : Field := ⟨"g:body", .ofIdent name, type⟩

def file (fields : List Field) : SourceFile :=
  ⟨"s.rs", "s", [.record ⟨"g:service", serviceName, .absent⟩,
    .methods (typeOf serviceName) [initializer, method], .record ⟨"", configName, .named fields⟩]⟩

def catalog (fields : List Field) : TaggedCatalog := ⟨"g", Catalog.ofFiles [file fields]⟩

def requestConfig (body : Variable) : RequestConfig := ⟨⟨"s", "R"⟩, [], [], some body, false⟩

def handler (body : Variable) : Handler :=
  ⟨.get, "/", some (requestConfig body), "h", false, .byValue, .plain⟩

def service (body : Variable) : Service :=
  ⟨⟨"s", "S"⟩, [], ⟨⟨"s", "n"⟩, true, false⟩, [handler body]⟩

def firstName : Ident := ⟨⟨"a", by decide⟩, by decide⟩

def secondName : Ident := ⟨⟨"b", by decide⟩, by decide⟩

/-- Two bodies of the type of the service. -/
def twoBodies : List Field :=
  [bodyField firstName (typeOf serviceName), bodyField secondName (typeOf serviceName)]

def lastBody : Variable := ⟨"b", .struct ⟨"s", "S"⟩, "b"⟩

theorem build_twoBodies : (catalog twoBodies).build = .ok ⟨[service lastBody], []⟩ :=
  Results.eq_ok_of_toOption (by decide)

/-- The literal of two bodies leaves out the first without a default. -/
theorem configLiteral_of_twoBodies :
    (catalog twoBodies).build = .ok ⟨[service lastBody], []⟩ ∧
      ∃ (p : Program) (l : ConfigLiteral),
        (service lastBody).render .respond (handler lastBody) = .ok (p.text .respond) ∧
          l.binding ∈ p.statements ∧ ¬ l.IsComplete twoBodies ∧
            StandsIn "let config = s :: R \x7b b : arg_0 , \x7d ;" (p.text .respond) := by
  have hrendered : ((service lastBody).render .respond (handler lastBody)).toOption.isSome := by
    decide +kernel
  obtain ⟨text, htext⟩ := Results.exists_of_isSome_toOption hrendered
  obtain ⟨_, s, _, hs, hname, h⟩ := TaggedCatalog.configLiteral_of_build build_twoBodies
    (List.mem_singleton_self _) (List.mem_singleton_self (handler lastBody)) rfl
  have hfields : s.item.fields = .named twoBodies := by
    rcases List.mem_cons.mp hs with rfl | hs
    · exact absurd hname (by decide)
    · exact List.mem_singleton.mp hs ▸ rfl
  obtain ⟨p, l, hprogram, hp, hl, hbinding, hstands, _, _, _, hcomplete⟩ :=
    h twoBodies hfields (by decide) _ _ htext
  have hspelled : ((Program.ofHandler (service lastBody) (handler lastBody)).toOption.bind
      (·.config)).map (fun l => Spelling.config (TokenTree.textAll l.type.tokens) l.fieldNames
        l.hasRest) = some "let config = s :: R \x7b b : arg_0 , \x7d ;" := by
    decide +kernel
  refine ⟨build_twoBodies, p, l, hp ▸ htext, hbinding, fun h => ?_, ?_⟩
  · exact absurd (hcomplete.mp h) (by decide)
  · rw [hprogram] at hspelled
    rw [Except.toOption, Option.bind_some, hl, Option.map_some, Option.some.injEq] at hspelled
    rwa [← hspelled, hp]

end Sample

end Entrypoint
