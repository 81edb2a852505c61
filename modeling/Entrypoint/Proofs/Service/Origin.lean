import Entrypoint.Proofs.Results
import Entrypoint.Service.Build

/-! Where the parts of a built service come from: the service from a struct, its initializer from a
candidate, each handler from a tagged method, and the config of a handler from the struct that the
method's second parameter means. -/

namespace Entrypoint

/-- The fields that a config is filled by. A struct with fields known by their positions has no
config; one without fields has none to fill. -/
def Fields.toFill? : Fields → Option (List Field)
  | .named fields => some fields
  | .positional => none
  | .absent => some []

namespace TaggedCatalog

variable {t : TaggedCatalog} {outcome : Outcome} {service : Service} {handler : Handler}
variable {scope declaration : String}

/-- The struct that the config parameter of a method written in a scope means. -/
def configStruct? (t : TaggedCatalog) (scope : String) (signature : Signature) :
    Option CatalogStruct :=
  match signature.parameters with
  | [_, config] => config.writtenName?.bind (t.catalog.findStruct? scope)
  | _ => none

theorem mem_of_configStruct? {signature : Signature} {s : CatalogStruct}
    (h : t.configStruct? scope signature = some s) : s ∈ t.catalog.structs := by
  unfold configStruct? at h
  split at h
  · obtain ⟨written, _, hfound⟩ := Option.bind_eq_some_iff.mp h
    exact Catalog.findStruct?_mem hfound
  · cases h

/-- The tagged method that a handler of the service of a name is read from. -/
structure HandlerOrigin (t : TaggedCatalog) (service : String) (handler : Handler) where
  block : CatalogMethods
  method : Function
  args : String
  mem_block : block ∈ t.catalog.methodsOf service
  mem_tagged : (method, args) ∈ t.taggedHandlers block
  handler_eq : t.handler block.scope (service ++ "::" ++ method.name) method.signature args =
    .ok handler

namespace HandlerOrigin

variable {name : String}

/-- The struct that the config parameter of the method means. -/
def configStruct? (origin : t.HandlerOrigin name handler) : Option CatalogStruct :=
  t.configStruct? origin.block.scope origin.method.signature

end HandlerOrigin

/-- A config is made of the fields of the struct that the parameter means. -/
theorem requestConfig_eq_ok {type : TypeExpr} {config : RequestConfig} :
    t.requestConfig scope declaration type = .ok config ↔
      ∃ s fields, type.writtenName?.bind (t.catalog.findStruct? scope) = some s ∧
        s.item.fields.toFill? = some fields ∧ t.namedConfig s fields = .ok config := by
  unfold requestConfig
  cases hwritten : type.writtenName? with
  | none => simp
  | some written =>
    cases hfound : t.catalog.findStruct? scope written with
    | none => simp [hfound]
    | some s =>
      cases hfields : s.item.fields with
      | named fields => simp [hfound, hfields, Fields.toFill?]
      | positional => simp [hfound, hfields, Fields.toFill?]
      | absent =>
        have hnone : t.namedConfig s [] = .ok (configOfParts s.qualifiedName []) := rfl
        simp [hfound, hfields, Fields.toFill?, hnone]

theorem handlerParameters_eq_ok {signature : Signature} {context : ContextPassing}
    {config : TypeExpr} (h : signature.handlerParameters = .ok (context, some config)) :
    ∃ first, signature.parameters = [first, config] := by
  unfold Signature.handlerParameters at h
  split at h
  · obtain ⟨_, _, heq⟩ := Results.map_eq_ok.mp h
    cases heq
  · rename_i first second hparameters
    obtain ⟨_, _, heq⟩ := Results.map_eq_ok.mp h
    cases heq
    exact ⟨first, hparameters⟩
  · cases h

theorem handlerShape_eq_ok {signature : Signature} {context : ContextPassing}
    {config : Option TypeExpr} {returns : ReturnShape}
    (h : signature.handlerShape = .ok (context, config, returns)) :
    signature.handlerParameters = .ok (context, config) := by
  unfold Signature.handlerShape at h
  split at h
  · cases h
  · obtain ⟨⟨_, _⟩, hparameters, h⟩ := Results.bind_eq_ok.mp h
    obtain ⟨_, _, h⟩ := Results.bind_eq_ok.mp h
    cases h
    exact hparameters

/-- **What a handler is read from.** Its function is the method, and its config is made of the
fields of the struct that the method's config parameter means. -/
theorem handler_eq_ok {signature : Signature} {args : String}
    (h : t.handler scope declaration signature args = .ok handler) :
    handler.function = signature.name.text ∧
      ∀ config, handler.config = some config →
        ∃ s fields, t.configStruct? scope signature = some s ∧
          s.item.fields.toFill? = some fields ∧ t.namedConfig s fields = .ok config := by
  unfold TaggedCatalog.handler at h
  obtain ⟨binding, _, h⟩ := Results.bind_eq_ok.mp h
  obtain ⟨⟨context, type, returns⟩, hshape, h⟩ := Results.bind_eq_ok.mp h
  obtain ⟨config, hconfig, h⟩ := Results.bind_eq_ok.mp h
  have hparameters := handlerShape_eq_ok (Results.mapError_eq_ok.mp hshape)
  cases h
  refine ⟨rfl, fun found hfound => ?_⟩
  rcases Results.mapM_option_eq_ok.mp hconfig with ⟨_, hnone⟩ | ⟨type, _, rfl, hmade, hsome⟩
  · exact nomatch hfound.symm.trans hnone
  · cases hfound.symm.trans hsome
    obtain ⟨first, hfirst⟩ := handlerParameters_eq_ok hparameters
    rw [configStruct?, hfirst]
    exact requestConfig_eq_ok.mp hmade

theorem mem_accepted {results : List (Except Fault Handler)} :
    handler ∈ accepted results ↔ .ok handler ∈ results := by
  rw [accepted, List.mem_filterMap]
  constructor
  · rintro ⟨result, hresult, h⟩
    cases result with
    | error fault => cases h
    | ok found =>
      cases h
      exact hresult
  · exact fun h => ⟨_, h, rfl⟩

theorem exists_origin {name : String} (h : handler ∈ accepted (t.handlerResults name)) :
    Nonempty (t.HandlerOrigin name handler) := by
  obtain ⟨block, hblock, h⟩ := List.mem_flatMap.mp (mem_accepted.mp h)
  obtain ⟨⟨method, args⟩, hmethod, h⟩ := List.mem_map.mp h
  exact ⟨⟨block, method, args, hblock, hmethod, h⟩⟩

/-- The service of a build is that of a service struct. -/
theorem exists_serviceStruct (h : t.build = .ok outcome) (hservice : service ∈ outcome.services) :
    ∃ s ∈ t.serviceStructs, ∃ initializer, t.initializer s.name = .ok initializer ∧
      t.serviceOf s initializer = service := by
  obtain ⟨services, hservices, rfl⟩ := Results.map_eq_ok.mp h
  obtain ⟨s, hs, h⟩ := Results.exists_of_mem_mapM hservices hservice
  obtain ⟨initializer, hinitializer, h⟩ := Results.map_eq_ok.mp h
  exact ⟨s, hs, initializer, hinitializer, h⟩

theorem exists_of_mem_build (h : t.build = .ok outcome) (hservice : service ∈ outcome.services) :
    ∃ s ∈ t.catalog.structs, ∃ initializer, t.initializer s.name = .ok initializer ∧
      t.serviceOf s initializer = service := by
  obtain ⟨s, hs, hinitializer⟩ := exists_serviceStruct h hservice
  exact ⟨s, (List.mem_filter.mp hs).1, hinitializer⟩

/-- Every handler of a build is read from a tagged method of its service. -/
theorem exists_origin_of_build (h : t.build = .ok outcome) (hservice : service ∈ outcome.services)
    (hhandler : handler ∈ service.handlers) : Nonempty (t.HandlerOrigin service.name handler) := by
  obtain ⟨s, _, initializer, _, rfl⟩ := exists_of_mem_build h hservice
  exact exists_origin hhandler

/-- The initializer of a service is that of a candidate. -/
theorem exists_candidate {name : String} {initializer : Initializer}
    (h : t.initializer name = .ok initializer) :
    ∃ candidate ∈ t.candidates, candidate.initializer = initializer := by
  simp only [TaggedCatalog.initializer] at h
  split at h
  · cases h
  split at h
  · cases h
  · rename_i candidate hfound
    cases h
    have hmem : candidate ∈ t.candidates.filter (·.isFor name) :=
      hfound ▸ List.mem_singleton_self candidate
    exact ⟨candidate, (List.mem_filter.mp hmem).1, rfl⟩
  · cases h

/-- A candidate is a free function of the catalogue or a method in one of its blocks. -/
theorem mem_candidates {candidate : Candidate} (h : candidate ∈ t.candidates) :
    (∃ f ∈ t.catalog.functions, candidate = .ofFunction f) ∨
      ∃ block ∈ t.catalog.methods, ∃ method ∈ block.methods,
        candidate = .ofMethod block method := by
  rcases List.mem_append.mp h with h | h
  · obtain ⟨f, hf, rfl⟩ := List.mem_map.mp h
    exact .inl ⟨f, (List.mem_filter.mp hf).1, rfl⟩
  · obtain ⟨block, hblock, h⟩ := List.mem_flatMap.mp h
    obtain ⟨method, hmethod, rfl⟩ := List.mem_map.mp h
    exact .inr ⟨block, hblock, method, (List.mem_filter.mp hmethod).1, rfl⟩

end TaggedCatalog

end Entrypoint
