import Entrypoint.Proofs.Catalog.Additions
import Entrypoint.Proofs.Service.Origin
import Entrypoint.Service.Build

/-! What is built of a catalogue with more in it. Undocumented functions and imports that leave the
written names their meaning make no difference to services, nor to what is left out. -/

namespace Entrypoint

theorem Role.ofText?_empty (owner : String) : Role.ofText? owner "" = none := rfl

namespace TaggedCatalog

variable {allowed : String → String → Prop} {owner : String} {c c' : Catalog} {s : CatalogStruct}
  {fields : List Field} {field : Field} {type : TypeExpr} {scope declaration : String}

open Catalog (Broadens Spares Writes)

theorem hasRole_empty (t : TaggedCatalog) (kind : RoleKind) : t.hasRole kind "" = false := by
  rw [hasRole, role?, Role.ofText?_empty]
  rfl

/-- A function with a role is documented. -/
theorem filter_hasRole_documented (t : TaggedCatalog) (kind : RoleKind) :
    t.catalog.functions.filter (fun f => t.hasRole kind f.function.documentation) =
      t.catalog.documented.filter fun f => t.hasRole kind f.function.documentation := by
  rw [Catalog.documented, List.filter_filter]
  refine List.filter_congr fun f _ => ?_
  by_cases h : f.function.documentation = ""
  · rw [h, hasRole_empty, Bool.false_and]
  · rw [bne_iff_ne.mpr h, Bool.and_true]

section

variable (H : Broadens allowed c c')
include H

theorem candidates_of_broadens :
    (TaggedCatalog.mk owner c').candidates = (TaggedCatalog.mk owner c).candidates := by
  have hfunctions := filter_hasRole_documented ⟨owner, c'⟩ .initializer
  rw [candidates, candidates, hfunctions, filter_hasRole_documented, H.documented, H.methods]
  rfl

theorem initializer_of_broadens (service : String) :
    (TaggedCatalog.mk owner c').initializer service =
      (TaggedCatalog.mk owner c).initializer service := by
  rw [initializer, candidates_of_broadens H, initializer]

theorem serviceStructs_of_broadens :
    (TaggedCatalog.mk owner c').serviceStructs = (TaggedCatalog.mk owner c).serviceStructs := by
  rw [serviceStructs, H.structs]
  rfl

theorem isServiceName_of_broadens (name : String) :
    (TaggedCatalog.mk owner c').isServiceName name =
      (TaggedCatalog.mk owner c).isServiceName name := by
  rw [isServiceName, serviceStructs_of_broadens H, isServiceName]

/-- What belongs to no service is the same. -/
theorem orphans_of_broadens :
    (TaggedCatalog.mk owner c').orphans = (TaggedCatalog.mk owner c).orphans := by
  have hmisplaced : (TaggedCatalog.mk owner c').misplacedRoles =
      (TaggedCatalog.mk owner c).misplacedRoles := by
    rw [misplacedRoles, H.structs]
    rfl
  have hnames : (TaggedCatalog.mk owner c').isServiceName = (TaggedCatalog.mk owner c).isServiceName :=
    funext (isServiceName_of_broadens H)
  have hcandidates : (TaggedCatalog.mk owner c').orphanedCandidates =
      (TaggedCatalog.mk owner c).orphanedCandidates := by
    simp only [orphanedCandidates, candidates_of_broadens H, hnames]
  have hfree : (TaggedCatalog.mk owner c').freeHandlers =
      (TaggedCatalog.mk owner c).freeHandlers := by
    rw [freeHandlers, freeHandlers, filter_hasRole_documented, filter_hasRole_documented,
      H.documented]
    rfl
  have hhandlers : (TaggedCatalog.mk owner c').orphanedHandlers =
      (TaggedCatalog.mk owner c).orphanedHandlers := by
    simp only [orphanedHandlers, H.methods, hnames]
    rfl
  rw [orphans, hmisplaced, hcandidates, hfree, hhandlers, orphans]

variable (hspares : Spares allowed c c')
include hspares

theorem fieldPart_of_broadens (hwrites : c.Writes s.scope field.type) :
    (TaggedCatalog.mk owner c').fieldPart s field = (TaggedCatalog.mk owner c).fieldPart s field := by
  have hscalar : c'.scalar? s.scope field.type = c.scalar? s.scope field.type := by
    rw [Catalog.scalar?, H.resolve_eq hspares hwrites, Catalog.scalar?]
  have hscalars : ∀ role, (TaggedCatalog.mk owner c').scalarVariable s field role =
      (TaggedCatalog.mk owner c).scalarVariable s field role := fun role => by
    rw [scalarVariable, scalarVariable, hscalar]
  have hbodies : ∀ role, (TaggedCatalog.mk owner c').bodyVariable s field role =
      (TaggedCatalog.mk owner c).bodyVariable s field role := fun role => by
    unfold bodyVariable
    cases hname : field.type.writtenName? with
    | none => rfl
    | some written =>
      simp only [H.typeName?_eq (H.pointsAlike hspares hwrites hname)]
  unfold fieldPart
  simp only [hscalars, hbodies]
  rfl

theorem namedConfig_of_broadens (hwrites : ∀ field ∈ fields, c.Writes s.scope field.type) :
    (TaggedCatalog.mk owner c').namedConfig s fields =
      (TaggedCatalog.mk owner c).namedConfig s fields := by
  rw [namedConfig, namedConfig, Results.mapM_congr fun field hfield =>
    fieldPart_of_broadens H hspares (hwrites field hfield)]

theorem requestConfig_of_broadens (hwrites : c.Writes scope type) :
    (TaggedCatalog.mk owner c').requestConfig scope declaration type =
      (TaggedCatalog.mk owner c).requestConfig scope declaration type := by
  unfold requestConfig
  cases hname : type.writtenName? with
  | none => rfl
  | some written =>
    dsimp only
    rw [H.findStruct?_eq (H.pointsAlike hspares hwrites hname)]
    cases hfound : c.findStruct? scope written with
    | none => rfl
    | some s =>
      dsimp only
      cases hfields : s.item.fields with
      | named fields =>
        exact namedConfig_of_broadens H hspares fun field hfield =>
          .field (Catalog.findStruct?_mem hfound) hfields hfield
      | positional | absent => rfl

/-- A method is read as the same handler, or with the same fault. -/
theorem handler_of_broadens {signature : Signature} {args : String}
    (hwrites : ∀ type ∈ signature.parameters, c.Writes scope type) :
    (TaggedCatalog.mk owner c').handler scope declaration signature args =
      (TaggedCatalog.mk owner c).handler scope declaration signature args := by
  unfold handler
  cases hshape : signature.handlerShape with
  | error breach => rfl
  | ok shape =>
    obtain ⟨context, _ | config, returns⟩ := shape
    · rfl
    · obtain ⟨first, hparameters⟩ := handlerParameters_eq_ok (handlerShape_eq_ok hshape)
      have hconfig : config ∈ signature.parameters := by simp [hparameters]
      have hsame : (some config).mapM ((TaggedCatalog.mk owner c').requestConfig scope declaration) =
          (some config).mapM ((TaggedCatalog.mk owner c).requestConfig scope declaration) :=
        congrArg (Except.map some) (requestConfig_of_broadens H hspares (hwrites config hconfig))
      simp only [Except.mapError, bind, Except.bind, hsame]

theorem handlerResults_of_broadens (service : String) :
    (TaggedCatalog.mk owner c').handlerResults service =
      (TaggedCatalog.mk owner c).handlerResults service := by
  rw [handlerResults, handlerResults, Catalog.methodsOf, H.methods]
  refine List.flatMap_congr fun block hblock => List.map_congr_left fun ⟨m, args⟩ hm => ?_
  obtain ⟨m', hm', hrole⟩ := List.mem_filterMap.mp hm
  obtain ⟨role, _, hrole⟩ := Option.bind_eq_some_iff.mp hrole
  split at hrole
  · cases hrole
    exact handler_of_broadens H hspares fun type htype =>
      .parameter (List.mem_filter.mp hblock).1 hm' htype
  · cases hrole

/-- **What is built is the same.** -/
theorem build_of_broadens :
    (TaggedCatalog.mk owner c').build = (TaggedCatalog.mk owner c).build := by
  have hresults : (TaggedCatalog.mk owner c').handlerResults =
      (TaggedCatalog.mk owner c).handlerResults := funext (handlerResults_of_broadens H hspares)
  have hservice : (TaggedCatalog.mk owner c').service = (TaggedCatalog.mk owner c).service := by
    funext s
    have hserviceOf : (TaggedCatalog.mk owner c').serviceOf s =
        (TaggedCatalog.mk owner c).serviceOf s := by
      funext initializer
      simp only [serviceOf, hresults]
      rfl
    rw [service, initializer_of_broadens H, hserviceOf, service]
  simp only [build, hservice, serviceStructs_of_broadens H, orphans_of_broadens H, hresults]

end

end TaggedCatalog

end Entrypoint
