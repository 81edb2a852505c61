import Entrypoint.Proofs.Role.HandlerArguments
import Entrypoint.Proofs.Service.Accounting
import Entrypoint.Proofs.Service.FieldRules
import Entrypoint.Proofs.Service.Initializer

/-! What becomes of tagged initializers. A build attaches an initializer to the services that it
makes, or reports that it makes none; it looks for services by the type that is made alone, but for
initializers also by the type that a method is written for. A method that makes a service of another
type than its own is therefore neither attached nor reported. All others meet one of the two fates,
and an outcome has no other reports of initializers. -/

namespace Entrypoint

/-- The report of an initializer that makes no service. -/
def Candidate.report (candidate : Candidate) : Fault :=
  .breach candidate.declaration .producesNoService

/-- The fault reports an initializer. -/
def Fault.isInitializerReport : Fault → Bool
  | .breach _ .producesNoService => true
  | _ => false

/-- What becomes of a tagged initializer. -/
inductive InitializerFate
  /-- It is the initializer of a service. -/
  | attached
  /-- It makes no service, and is reported. -/
  | reported
  /-- It makes a service, but is a method of another type. -/
  | overlooked

namespace TaggedCatalog

/-- The functions tagged as initializers: free functions, and methods of blocks. -/
inductive IsTaggedInitializer (t : TaggedCatalog) : Candidate → Prop
  | free {f : CatalogFunction} (hf : f ∈ t.catalog.functions)
      (htag : t.hasRole .initializer f.function.documentation = true) :
      IsTaggedInitializer t (.ofFunction f)
  | method {block : CatalogMethods} {m : Function} (hblock : block ∈ t.catalog.methods)
      (hm : m ∈ block.methods) (htag : t.hasRole .initializer m.documentation = true) :
      IsTaggedInitializer t (.ofMethod block m)

/-- A candidate makes a service and is a method of another type. -/
def IsOverlooked (t : TaggedCatalog) (candidate : Candidate) : Prop :=
  ∃ s ∈ t.serviceStructs, candidate.MakesType s.name ∧
    ∃ owner, candidate.selfName = some owner ∧ owner ≠ s.name

/-- A candidate is the one initializer of a service of an outcome. -/
def IsAttached (t : TaggedCatalog) (outcome : Outcome) (candidate : Candidate) : Prop :=
  ∃ service ∈ outcome.services, t.initializersOf service.name = [candidate] ∧
    service.initializer = candidate.initializer

/-- What becomes of a candidate in an outcome. -/
def HasFate (t : TaggedCatalog) (outcome : Outcome) (candidate : Candidate) :
    InitializerFate → Prop
  | .attached => t.IsAttached outcome candidate
  | .reported => ¬t.MakesService candidate ∧ candidate.report ∈ outcome.skipped
  | .overlooked => t.IsOverlooked candidate

variable {t : TaggedCatalog} {outcome : Outcome} {candidate : Candidate} {fault : Fault}
  {scope declaration : String}

theorem mem_candidates_iff : candidate ∈ t.candidates ↔ t.IsTaggedInitializer candidate := by
  rw [candidates, List.mem_append]
  constructor
  · rintro (h | h)
    · obtain ⟨f, hf, rfl⟩ := List.mem_map.mp h
      obtain ⟨hf, htag⟩ := List.mem_filter.mp hf
      exact .free hf htag
    · obtain ⟨block, hblock, h⟩ := List.mem_flatMap.mp h
      obtain ⟨m, hm, rfl⟩ := List.mem_map.mp h
      obtain ⟨hm, htag⟩ := List.mem_filter.mp hm
      exact .method hblock hm htag
  · intro h
    cases h with
    | free hf htag => exact .inl (List.mem_map_of_mem (List.mem_filter.mpr ⟨hf, htag⟩))
    | method hblock hm htag =>
      exact .inr (List.mem_flatMap.mpr
        ⟨_, hblock, List.mem_map_of_mem (List.mem_filter.mpr ⟨hm, htag⟩)⟩)

/-! ### Reports -/

theorem orphanedCandidates_eq (t : TaggedCatalog) : t.orphanedCandidates =
    (t.candidates.filter fun candidate => ¬t.MakesService candidate).map (·.report) := by
  rw [orphanedCandidates]
  refine congrArg (List.map _) (List.filter_congr fun candidate _ => ?_)
  rw [Bool.eq_iff_iff, decide_eq_true_iff, ← makesService_iff, Bool.not_eq_true',
    Bool.not_eq_true]

theorem isInitializerReport_of_requestConfig {type : TypeExpr}
    (h : t.requestConfig scope declaration type = .error fault) :
    fault.isInitializerReport = false := by
  unfold requestConfig at h
  split at h
  · cases h
    rfl
  split at h
  · cases h
    rfl
  split at h
  · obtain ⟨_, _, _, _, _, hbreaks⟩ := namedConfig_eq_error.mp h
    cases hbreaks <;> rfl
  · cases h
  · cases h
    rfl

theorem ne_producesNoService_of_receiver {signature : Signature} {breach : Breach}
    (h : signature.receiverBreach? = some breach) : breach ≠ .producesNoService := by
  unfold Signature.receiverBreach? at h
  split at h
  · cases h
    intro heq
    cases heq
  · split at h
    · cases h
    · cases h
      intro heq
      cases heq

theorem ne_producesNoService_of_parameters {signature : Signature} {breach : Breach}
    (h : signature.handlerParameters = .error breach) : breach ≠ .producesNoService := by
  have hpassing : ∀ type, Signature.handlerParameters.passing type = .error breach →
      breach ≠ .producesNoService := by
    intro type htype
    unfold Signature.handlerParameters.passing at htype
    split at htype
    · cases htype
    · cases htype
      intro heq
      cases heq
  unfold Signature.handlerParameters at h
  split at h
  · exact hpassing _ (Results.map_eq_error.mp h)
  · exact hpassing _ (Results.map_eq_error.mp h)
  · cases h
    intro heq
    cases heq

theorem ne_producesNoService_of_shape {signature : Signature} {breach : Breach}
    (h : signature.handlerShape = .error breach) : breach ≠ .producesNoService := by
  unfold Signature.handlerShape at h
  split at h
  · rename_i hreceiver
    cases h
    exact ne_producesNoService_of_receiver hreceiver
  · rcases Results.bind_eq_error.mp h with h | ⟨_, _, h⟩
    · exact ne_producesNoService_of_parameters h
    · rcases Results.bind_eq_error.mp h with h | ⟨_, _, h⟩
      · unfold Signature.returnShape at h
        split at h
        · cases h
          intro heq
          cases heq
        · cases h
      · cases h

/-- The fault of a handler is no report of an initializer. -/
theorem isInitializerReport_of_handler {signature : Signature} {args : String}
    (h : t.handler scope declaration signature args = .error fault) :
    fault.isInitializerReport = false := by
  unfold TaggedCatalog.handler at h
  rcases Results.bind_eq_error.mp h with h | ⟨_, _, h⟩
  · obtain ⟨_, rfl⟩ := RoleArgs.handlerBinding_eq_error_iff.mp h
    rfl
  rcases Results.bind_eq_error.mp h with h | ⟨_, _, h⟩
  · obtain ⟨breach, hshape, rfl⟩ := Results.mapError_eq_error.mp h
    have hne := ne_producesNoService_of_shape hshape
    cases breach with
    | producesNoService => exact absurd rfl hne
    | _ => rfl
  rcases Results.bind_eq_error.mp h with h | ⟨_, _, h⟩
  · obtain ⟨type, _, h⟩ := Results.mapM_option_eq_error.mp h
    exact isInitializerReport_of_requestConfig h
  · cases h

theorem filter_orphans (t : TaggedCatalog) :
    t.orphans.filter (·.isInitializerReport) = t.orphanedCandidates := by
  have hstructs : t.misplacedRoles.filter (·.isInitializerReport) = [] := by
    refine List.filter_eq_nil_iff.mpr fun fault hfault => ?_
    obtain ⟨s, _, hs⟩ := List.mem_filterMap.mp hfault
    split at hs
    · cases hs
    · split at hs
      · cases hs
      · cases hs
        exact Bool.false_ne_true
  have hcandidates : t.orphanedCandidates.filter (·.isInitializerReport) =
      t.orphanedCandidates := by
    refine List.filter_eq_self.mpr fun fault hfault => ?_
    obtain ⟨candidate, _, rfl⟩ := List.mem_map.mp hfault
    rfl
  have hfree : t.freeHandlers.filter (·.isInitializerReport) = [] := by
    refine List.filter_eq_nil_iff.mpr fun fault hfault => ?_
    obtain ⟨f, _, rfl⟩ := List.mem_map.mp hfault
    exact Bool.false_ne_true
  have hstray : t.orphanedHandlers.filter (·.isInitializerReport) = [] := by
    refine List.filter_eq_nil_iff.mpr fun fault hfault => ?_
    obtain ⟨block, _, hblock⟩ := List.mem_flatMap.mp hfault
    obtain ⟨m, _, rfl⟩ := List.mem_map.mp hblock
    exact Bool.false_ne_true
  rw [orphans, List.filter_append, List.filter_append, List.filter_append, hstructs, hcandidates,
    hfree, hstray, List.nil_append, List.append_nil, List.append_nil]

theorem isInitializerReport_of_rejected {name : String}
    (h : fault ∈ rejected (t.handlerResults name)) : fault.isInitializerReport = false := by
  obtain ⟨result, hresult, h⟩ := List.mem_filterMap.mp h
  cases result with
  | ok handler => cases h
  | error fault' =>
    cases h
    obtain ⟨block, _, hblock⟩ := List.mem_flatMap.mp hresult
    obtain ⟨⟨m, args⟩, _, hm⟩ := List.mem_map.mp hblock
    exact isInitializerReport_of_handler hm

/-- The reports of initializers in an outcome are those of the candidates that make no service. -/
theorem filter_skipped_of_build (h : t.build = .ok outcome) :
    outcome.skipped.filter (·.isInitializerReport) =
      (t.candidates.filter fun candidate => ¬t.MakesService candidate).map (·.report) := by
  have hrejected : (t.serviceStructs.flatMap fun s =>
      rejected (t.handlerResults s.name)).filter (·.isInitializerReport) = [] := by
    refine List.filter_eq_nil_iff.mpr fun fault hfault => ?_
    obtain ⟨s, _, hs⟩ := List.mem_flatMap.mp hfault
    rw [isInitializerReport_of_rejected hs]
    exact Bool.false_ne_true
  rw [skipped_of_build h, List.filter_append, filter_orphans, hrejected, List.append_nil,
    orphanedCandidates_eq]

/-- A report stands in an outcome exactly if some candidate of that name makes no service. -/
theorem report_mem_skipped_iff (h : t.build = .ok outcome) :
    candidate.report ∈ outcome.skipped ↔ ∃ other, t.IsTaggedInitializer other ∧
      other.declaration = candidate.declaration ∧ ¬t.MakesService other := by
  have hreport : candidate.report ∈ outcome.skipped ↔
      candidate.report ∈ outcome.skipped.filter (·.isInitializerReport) := by
    rw [List.mem_filter]
    exact (and_iff_left rfl).symm
  rw [hreport, filter_skipped_of_build h, List.mem_map]
  constructor
  · rintro ⟨other, hother, heq⟩
    obtain ⟨hmem, hnone⟩ := List.mem_filter.mp hother
    exact ⟨other, mem_candidates_iff.mp hmem, (Fault.breach.inj heq).1, of_decide_eq_true hnone⟩
  · rintro ⟨other, htagged, hname, hnone⟩
    refine ⟨other, List.mem_filter.mpr ⟨mem_candidates_iff.mpr htagged, decide_eq_true hnone⟩, ?_⟩
    rw [Candidate.report, Candidate.report, hname]

/-! ### Fates -/

theorem isOf_iff {name : String} : candidate.IsOf name ↔
    candidate.MakesType name ∧ ∀ owner, candidate.selfName = some owner → owner = name :=
  ⟨fun h => ⟨h.makes, h.owner⟩, fun h => ⟨h.2, h.1⟩⟩

/-- A service of an outcome is that of a struct and has the one candidate of its name. -/
theorem exists_hasInitializer {service : Service} (h : t.build = .ok outcome)
    (hservice : service ∈ outcome.services) : ∃ s ∈ t.serviceStructs, s.name = service.name ∧
      ∃ candidate, t.HasInitializer s.name candidate := by
  obtain ⟨s, hs, initializer, hinitializer, rfl⟩ := exists_serviceStruct h hservice
  obtain ⟨candidate, hcandidate, _⟩ := hasInitializer_of_ok hinitializer
  exact ⟨s, hs, rfl, candidate, hcandidate⟩

/-- A candidate of a service is attached to it. -/
theorem isAttached_of_isOf {s : CatalogStruct} (h : t.build = .ok outcome)
    (hs : s ∈ t.serviceStructs) (hmem : candidate ∈ t.candidates) (hof : candidate.IsOf s.name) :
    t.IsAttached outcome candidate := by
  obtain ⟨services, hservices, rfl⟩ := Results.map_eq_ok.mp h
  obtain ⟨service, hservice, hmade⟩ := Results.exists_of_mapM_mem hservices hs
  obtain ⟨found, ⟨hlist, _⟩, rfl⟩ := service_eq_ok.mp hmade
  have hfound : candidate ∈ t.initializersOf s.name :=
    List.mem_filter.mpr ⟨hmem, decide_eq_true hof⟩
  rw [hlist, List.mem_singleton] at hfound
  subst hfound
  exact ⟨_, hservice, hlist, rfl⟩

/-- What is attached makes a service, and is no method of another type. -/
theorem IsAttached.exists_isOf (h : t.build = .ok outcome) (hattached : t.IsAttached outcome candidate) :
    ∃ s ∈ t.serviceStructs, candidate.IsOf s.name := by
  obtain ⟨service, hservice, hlist, _⟩ := hattached
  obtain ⟨s, hs, hname, _⟩ := exists_hasInitializer h hservice
  have hmem : candidate ∈ t.initializersOf s.name := by
    rw [hname, hlist]
    exact List.mem_singleton_self candidate
  exact ⟨s, hs, of_decide_eq_true (List.mem_filter.mp hmem).2⟩

theorem IsAttached.not_isOverlooked (h : t.build = .ok outcome)
    (hattached : t.IsAttached outcome candidate) : ¬t.IsOverlooked candidate := by
  rintro ⟨s', _, hmakes', owner, howner, hne⟩
  obtain ⟨s, _, hof⟩ := IsAttached.exists_isOf h hattached
  obtain ⟨hmakes, hself⟩ := isOf_iff.mp hof
  exact hne ((hself owner howner).trans (hmakes.unique hmakes'))

/-- An initializer that is not overlooked is attached or reported. -/
theorem attached_or_reported (h : t.build = .ok outcome) (htagged : t.IsTaggedInitializer candidate)
    (hkept : ¬t.IsOverlooked candidate) :
    t.IsAttached outcome candidate ∨ ¬t.MakesService candidate := by
  by_cases hmakes : t.MakesService candidate
  · obtain ⟨s, hs, hmakes⟩ := hmakes
    refine .inl (isAttached_of_isOf h hs (mem_candidates_iff.mpr htagged) (isOf_iff.mpr ⟨hmakes, ?_⟩))
    intro owner howner
    by_contra hne
    exact hkept ⟨s, hs, hmakes, owner, howner, hne⟩
  · exact .inr hmakes

theorem existsUnique_fate (h : t.build = .ok outcome) (htagged : t.IsTaggedInitializer candidate) :
    ∃! fate, t.HasFate outcome candidate fate := by
  have hreported : ¬t.MakesService candidate → candidate.report ∈ outcome.skipped := fun hnone =>
    (report_mem_skipped_iff h).mpr ⟨candidate, htagged, rfl, hnone⟩
  by_cases hoverlooked : t.IsOverlooked candidate
  · refine ⟨.overlooked, hoverlooked, fun fate hfate => ?_⟩
    cases fate with
    | attached => exact absurd hoverlooked (IsAttached.not_isOverlooked h hfate)
    | reported =>
      obtain ⟨s, hs, hmakes, _⟩ := hoverlooked
      exact absurd ⟨s, hs, hmakes⟩ hfate.1
    | overlooked => rfl
  · rcases attached_or_reported h htagged hoverlooked with hattached | hnone
    · refine ⟨.attached, hattached, fun fate hfate => ?_⟩
      cases fate with
      | attached => rfl
      | reported =>
        obtain ⟨s, hs, hof⟩ := IsAttached.exists_isOf h hattached
        exact absurd ⟨s, hs, hof.makes⟩ hfate.1
      | overlooked => exact absurd hfate hoverlooked
    · refine ⟨.reported, ⟨hnone, hreported hnone⟩, fun fate hfate => ?_⟩
      cases fate with
      | attached =>
        obtain ⟨s, hs, hof⟩ := IsAttached.exists_isOf h hfate
        exact absurd ⟨s, hs, hof.makes⟩ hnone
      | reported => rfl
      | overlooked => exact absurd hfate hoverlooked

/-- **What becomes of tagged initializers.** In a build each meets exactly one fate, and the reports
of initializers are those of the ones that make no service. An initializer is attached, or a report
of its name stands in the outcome, exactly if it is not overlooked, or if another of its name makes
no service. A free function is never overlooked. -/
theorem initializers_of_build (hbuild : t.build = .ok outcome) :
    outcome.skipped.filter (·.isInitializerReport) =
        (t.candidates.filter fun candidate => ¬t.MakesService candidate).map (·.report) ∧
      ∀ candidate, t.IsTaggedInitializer candidate →
        (∃! fate, t.HasFate outcome candidate fate) ∧
        (t.IsAttached outcome candidate ∨ candidate.report ∈ outcome.skipped ↔
          ¬t.IsOverlooked candidate ∨ ∃ other, t.IsTaggedInitializer other ∧
            other.declaration = candidate.declaration ∧ ¬t.MakesService other) ∧
        (candidate.selfName = none → ¬t.IsOverlooked candidate) := by
  refine ⟨filter_skipped_of_build hbuild, fun candidate htagged =>
    ⟨existsUnique_fate hbuild htagged, ?_, ?_⟩⟩
  · rw [report_mem_skipped_iff hbuild]
    constructor
    · exact Or.imp_left (IsAttached.not_isOverlooked hbuild)
    · rintro (hkept | hother)
      · refine (attached_or_reported hbuild htagged hkept).imp_right fun hnone => ?_
        exact ⟨candidate, htagged, rfl, hnone⟩
      · exact .inr hother
  · rintro hfree ⟨_, _, _, owner, howner, _⟩
    exact nomatch hfree.symm.trans howner

end TaggedCatalog

/-! ### An initializer in another type's block

The service `S` has its own initializer; a second function that makes it is written for `R`. -/

namespace Sample

def factoryFile : SourceFile := ⟨"b.rs", "b", [.methods (typeOf configName) [initializer]]⟩

def factoryCatalog : TaggedCatalog := ⟨"g", Catalog.ofFiles [serviceFile, factoryFile]⟩

def factoryCandidate : Candidate := .ofMethod ⟨"b", "R", [initializer]⟩ initializer

def factoryOutcome : Outcome := ⟨[⟨⟨"a", "S"⟩, [], ⟨⟨"a", "n"⟩, true, false⟩, []⟩], []⟩

theorem build_factory : factoryCatalog.build = .ok factoryOutcome :=
  Results.eq_ok_of_toOption (by decide)

theorem isOverlooked_factory : factoryCatalog.IsOverlooked factoryCandidate := by
  have hservice : (⟨"a", ⟨"g:service", serviceName, .absent⟩⟩ : CatalogStruct) ∈
      factoryCatalog.serviceStructs :=
    List.mem_filter.mpr ⟨List.mem_cons_self, by decide⟩
  have htarget : factoryCandidate.target? = some "S" := by decide
  exact ⟨_, hservice, Candidate.target?_eq_some_iff.mp htarget, "R", rfl, by decide⟩

/-- The second function is neither attached nor reported. -/
theorem initializers_of_factory :
    factoryCatalog.build = .ok factoryOutcome ∧
      factoryCatalog.IsTaggedInitializer factoryCandidate ∧
        ¬(factoryCatalog.IsAttached factoryOutcome factoryCandidate ∨
          factoryCandidate.report ∈ factoryOutcome.skipped) := by
  have htagged : factoryCatalog.IsTaggedInitializer factoryCandidate :=
    .method (List.mem_cons_of_mem _ (List.mem_singleton_self _)) (List.mem_singleton_self _)
      (by decide)
  obtain ⟨hreports, hfates⟩ := TaggedCatalog.initializers_of_build build_factory
  -- Nothing is skipped, so every initializer makes a service.
  have hnone : ∀ other ∈ factoryCatalog.candidates, factoryCatalog.MakesService other := by
    simpa [factoryOutcome] using hreports.symm
  refine ⟨build_factory, htagged, fun hkept => ?_⟩
  rcases (hfates _ htagged).2.1.mp hkept with hseen | ⟨other, hother, _, hmakes⟩
  · exact hseen isOverlooked_factory
  · exact hmakes (hnone other (TaggedCatalog.mem_candidates_iff.mpr hother))

end Sample

end Entrypoint
