import Entrypoint.Proofs.Catalog.InherentBlocks
import Entrypoint.Proofs.Service.Attachment
import Entrypoint.Proofs.Service.Initializer
import Mathlib.Algebra.Ring.Nat
import Mathlib.Data.List.Nodup
import Mathlib.Data.List.Perm.Basic

/-! What becomes of tagged handlers. A build attaches a handler to a service or skips it with a
fault, and an account of declared handlers says that each of them met exactly one such fate and that
nothing else is in the outcome. If no two services share a name, a build accounts for all free
functions and for the methods of all blocks that are of a path. The methods of other blocks are in
no catalogue, so nothing becomes of them. -/

namespace Entrypoint

/-- A declaration tagged as a handler: a free function, or a method of a block. -/
inductive TaggedHandler
  | free (f : CatalogFunction)
  | method (block : InherentBlock) (method : Function)

namespace TaggedHandler

/-- The tagged handler is a free function. -/
def isFree : TaggedHandler → Bool
  | free _ => true
  | method _ _ => false

/-- The name of the type that a method is written for, if the type is a path. -/
def selfName? : TaggedHandler → Option String
  | free _ => none
  | method block _ => block.selfType.lastName?

/-- The tagged handler is a free function or a method of a path. -/
def isOfPath (d : TaggedHandler) : Bool := d.isFree || d.selfName?.isSome

end TaggedHandler

/-- What becomes of a tagged handler: it is attached to a service, or skipped with a fault. -/
inductive Fate
  | attached (service : QualifiedName) (handler : Handler)
  | skipped (fault : Fault)
  deriving DecidableEq

namespace Fate

/-- The fate of a handler of a service, as it is read. -/
def ofResult (service : QualifiedName) : Except Fault Handler → Fate
  | .ok handler => attached service handler
  | .error fault => skipped fault

def isSkipped : Fate → Bool
  | attached _ _ => false
  | skipped _ => true

/-- The handler, if it is attached to the given service. -/
def handlerOf? (service : QualifiedName) : Fate → Option Handler
  | attached owner handler => if owner = service then some handler else none
  | skipped _ => none

end Fate

namespace Outcome

/-- The fates of the handlers that services have. -/
def handlerFates (outcome : Outcome) : List Fate :=
  outcome.services.flatMap fun service => service.handlers.map (.attached service.typeRef)

/-- The fates that an outcome tells of. A declaration left out is there by its fault. -/
def fates (outcome : Outcome) : List Fate :=
  outcome.handlerFates ++ outcome.skipped.map .skipped

end Outcome

namespace TaggedCatalog

/-- The catalogue of files, read for the tags of an owner. -/
def ofFiles (owner : String) (files : List SourceFile) : TaggedCatalog :=
  ⟨owner, Catalog.ofFiles files⟩

/-- The methods that are tagged as handlers. -/
def handlerMethods (t : TaggedCatalog) (methods : List Function) : List Function :=
  methods.filter fun m => t.hasRole .handler m.documentation

/-- The tagged handlers of a module: the free functions, then the methods of each block. -/
def taggedDeclarations (owner : String) (files : List SourceFile) : List TaggedHandler :=
  let t := ofFiles owner files
  (t.catalog.functions.filter fun f => t.hasRole .handler f.function.documentation).map .free ++
    (files.flatMap (·.inherentBlocks)).flatMap fun block =>
      (t.handlerMethods block.methods).map (.method block)

/-- The arguments of a declaration's role. -/
def roleArgs (t : TaggedCatalog) (documentation : String) : String :=
  ((t.role? documentation).map (·.args)).getD ""

/-- A method of a block as it is read for a service. -/
def methodResult (t : TaggedCatalog) (block : CatalogMethods) (m : Function) :
    Except Fault Handler :=
  t.handler block.scope (block.selfName ++ "::" ++ m.name) m.signature (t.roleArgs m.documentation)

/-- The service struct of a name. -/
def serviceStruct? (t : TaggedCatalog) (name : String) : Option CatalogStruct :=
  t.serviceStructs.find? (·.name == name)

/-- What becomes of a tagged method of the catalogue. -/
def methodFate (t : TaggedCatalog) (block : CatalogMethods) (m : Function) : Fate :=
  match t.serviceStruct? block.selfName with
  | none => .skipped (.breach (block.selfName ++ "::" ++ m.name) (.notAService block.selfName))
  | some s => .ofResult s.qualifiedName (t.methodResult block m)

/-- What becomes of a tagged handler, if the catalogue knows it. -/
def fate? (t : TaggedCatalog) : TaggedHandler → Option Fate
  | .free f => some (.skipped (.breach (f.scope ++ "::" ++ f.function.name) .handlerIsFree))
  | .method block m => block.catalogued?.map fun entry => t.methodFate entry m

/-- A method whose type has the name of a service. -/
def isOfService (t : TaggedCatalog) (d : TaggedHandler) : Bool := d.selfName?.any t.isServiceName

/-- A method whose type has the name of no service, or none at all. -/
def isStray (t : TaggedCatalog) (d : TaggedHandler) : Bool := !d.isFree && !t.isOfService d

/-- A method of a service that is skipped all the same. -/
def isRejected (t : TaggedCatalog) (fate? : TaggedHandler → Option Fate) (d : TaggedHandler) :
    Bool :=
  t.isOfService d && (fate? d).any (·.isSkipped)

/-- An outcome accounts for declared handlers by the fates that it gives them. -/
structure Accounts (t : TaggedCatalog) (outcome : Outcome) (declared : List TaggedHandler)
    (fate? : TaggedHandler → Option Fate) : Prop where
  /-- None is lost. -/
  isSome_fate? : ∀ d ∈ declared, (fate? d).isSome = true
  /-- Besides their fates the outcome has only the faults of other declarations. -/
  fates_perm : outcome.fates.Perm (declared.filterMap fate? ++
    (t.misplacedRoles ++ t.orphanedCandidates).map .skipped)
  /-- The handlers of a service stand in the order of the declarations. -/
  handlers_eq : ∀ service ∈ outcome.services, service.handlers =
    (declared.filterMap fate?).filterMap (·.handlerOf? service.typeRef)
  handlerCount_eq : Service.handlerCount outcome.services +
    declared.countP (t.isRejected fate?) = declared.countP t.isOfService
  length_skipped : outcome.skipped.length =
    t.catalog.structs.countP (fun s => (t.role? s.item.documentation).any (·.kind != .service)) +
    t.catalog.functions.countP (fun f =>
      t.hasRole .initializer f.function.documentation ∧ ¬t.MakesService (.ofFunction f)) +
    (t.catalog.methods.map fun block => block.methods.countP fun m =>
      t.hasRole .initializer m.documentation ∧ ¬t.MakesService (.ofMethod block m)).sum +
    declared.countP (·.isFree) + declared.countP t.isStray + declared.countP (t.isRejected fate?)

end TaggedCatalog

section Lists

variable {α β κ : Type} {p q r : α → Bool}

theorem countP_add_countP {l : List α} (h : ∀ a ∈ l, (q a || r a) = p a ∧ (q a && r a) = false) :
    l.countP q + l.countP r = l.countP p := by
  induction l with
  | nil => rfl
  | cons a l ih =>
    obtain ⟨⟨hor, hand⟩, hl⟩ := List.forall_mem_cons.mp h
    have hcount := ih hl
    rw [List.countP_cons, List.countP_cons, List.countP_cons, ← hor]
    cases hq : q a with
    | false =>
      cases hr : r a <;> simp <;> omega
    | true =>
      have hr : r a = false := by simpa [hq] using hand
      simp [hr]
      omega

theorem flatMap_filter (l : List α) (f : α → List β) :
    (l.filter p).flatMap f = l.flatMap fun a => if p a then f a else [] := by
  induction l with
  | nil => rfl
  | cons a l ih =>
    cases ha : p a with
    | false => simp [ha, ih]
    | true => simp [ha, ih]

/-- Entries sorted by the keys of a list without repetitions, and the rest. -/
theorem perm_flatMap_filter [DecidableEq κ] (key : α → κ) {keys : List κ}
    (hkeys : keys.Nodup) (l : List α) :
    ((keys.flatMap fun k => l.filter (key · == k)) ++ l.filter fun a => !keys.contains (key a)).Perm
      l := by
  induction keys generalizing l with
  | nil => simp
  | cons k keys ih =>
    obtain ⟨hk, hkeys⟩ := List.nodup_cons.mp hkeys
    have hrest := ih hkeys (l.filter fun a => !(key a == k))
    have hlater : ∀ k' ∈ keys, (l.filter fun a => !(key a == k)).filter (key · == k') =
        l.filter (key · == k') := by
      intro k' hk'
      rw [List.filter_filter]
      refine List.filter_congr fun a _ => ?_
      rw [Bool.and_eq_left_iff_imp, beq_iff_eq, Bool.not_eq_true', beq_eq_false_iff_ne]
      intro ha hak
      exact hk (hak ▸ ha ▸ hk')
    have hother : (l.filter fun a => !(key a == k)).filter (fun a => !keys.contains (key a)) =
        l.filter fun a => !(k :: keys).contains (key a) := by
      rw [List.filter_filter]
      refine List.filter_congr fun a _ => ?_
      rw [List.contains_cons, Bool.not_or, Bool.and_comm]
    rw [List.flatMap_congr hlater, hother] at hrest
    rw [List.flatMap_cons, List.append_assoc]
    exact (hrest.append_left _).trans (List.filter_append_perm _ l)

end Lists

namespace TaggedCatalog

variable {t : TaggedCatalog} {outcome : Outcome} {s : CatalogStruct} {block : CatalogMethods}

/-! ### Methods as they are read -/

theorem taggedHandlers_eq (t : TaggedCatalog) (block : CatalogMethods) : t.taggedHandlers block =
    (t.handlerMethods block.methods).map fun m => (m, t.roleArgs m.documentation) := by
  rw [taggedHandlers, handlerMethods]
  induction block.methods with
  | nil => rfl
  | cons m methods ih =>
    cases hrole : t.role? m.documentation with
    | none => simp [hasRole, hrole, ih]
    | some role =>
      by_cases hkind : role.kind = .handler
      · simp [hasRole, roleArgs, hrole, hkind, ih]
      · simp [hasRole, hrole, hkind, ih]

theorem blockResults_eq (t : TaggedCatalog) (block : CatalogMethods) :
    t.blockResults block = (t.handlerMethods block.methods).map (t.methodResult block) := by
  rw [blockResults, taggedHandlers_eq, List.map_map]
  rfl

theorem serviceStruct?_eq_none {name : String} :
    t.serviceStruct? name = none ↔ t.isServiceName name = false := by
  simp [serviceStruct?, isServiceName]

theorem serviceStruct?_eq_some {name : String} (hnames : (t.serviceStructs.map (·.name)).Nodup) :
    t.serviceStruct? name = some s ↔ s ∈ t.serviceStructs ∧ s.name = name := by
  constructor
  · intro h
    exact ⟨List.mem_of_find?_eq_some h, by simpa using List.find?_some h⟩
  · rintro ⟨hs, rfl⟩
    have hservice := isServiceName_iff.mpr (List.mem_map_of_mem hs)
    cases hfound : t.serviceStruct? s.name with
    | none => exact nomatch hservice.symm.trans (serviceStruct?_eq_none.mp hfound)
    | some found =>
      have hname : found.name = s.name := by simpa using List.find?_some hfound
      rw [List.inj_on_of_nodup_map hnames (List.mem_of_find?_eq_some hfound) hs hname]

/-- The fates of the tagged methods of a block. -/
def blockFates (t : TaggedCatalog) (block : CatalogMethods) : List Fate :=
  (t.handlerMethods block.methods).map (t.methodFate block)

theorem blockFates_of_service (h : t.serviceStruct? block.selfName = some s) :
    t.blockFates block = (t.blockResults block).map (.ofResult s.qualifiedName) := by
  rw [blockFates, blockResults_eq, List.map_map]
  refine List.map_congr_left fun m _ => ?_
  rw [methodFate, h]
  rfl

theorem blockFates_of_stray (h : t.isServiceName block.selfName = false) : t.blockFates block =
    ((t.handlerMethods block.methods).map fun m =>
      Fault.breach (block.selfName ++ "::" ++ m.name) (.notAService block.selfName)).map
        .skipped := by
  rw [blockFates, List.map_map]
  refine List.map_congr_left fun m _ => ?_
  rw [methodFate, serviceStruct?_eq_none.mpr h]
  rfl

/-! ### Fates of the declarations of files -/

theorem filterMap_fate?_block (t : TaggedCatalog) (block : InherentBlock) :
    ((t.handlerMethods block.methods).map (.method block)).filterMap t.fate? =
      block.catalogued?.toList.flatMap t.blockFates := by
  rw [List.filterMap_map]
  cases hentry : block.catalogued? with
  | none =>
    exact List.filterMap_eq_nil_iff.mpr fun m _ => by simp [fate?, hentry]
  | some entry =>
    obtain ⟨name, _, rfl⟩ := Option.map_eq_some_iff.mp hentry
    rw [Option.toList_some, List.flatMap_singleton, blockFates, ← List.filterMap_eq_map]
    exact List.filterMap_congr fun m _ => by simp [fate?, hentry]

theorem filterMap_fate? (owner : String) (files : List SourceFile) :
    (taggedDeclarations owner files).filterMap (ofFiles owner files).fate? =
      (ofFiles owner files).freeHandlers.map .skipped ++
        (ofFiles owner files).catalog.methods.flatMap (ofFiles owner files).blockFates := by
  rw [taggedDeclarations, List.filterMap_append]
  congr 1
  · rw [freeHandlers, List.map_map, List.filterMap_map, ← List.filterMap_eq_map]
    rfl
  · rw [List.filterMap_flatMap, List.flatMap_congr fun block _ => filterMap_fate?_block _ block,
      ← List.flatMap_assoc, ← List.filterMap_eq_flatMap_toList, ← Catalog.methods_ofFiles]
    rfl

/-! ### Fates of a build -/

theorem fates_of_results (service : QualifiedName) (results : List (Except Fault Handler)) :
    ((accepted results).map (Fate.attached service) ++ (rejected results).map Fate.skipped).Perm
      (results.map (Fate.ofResult service)) := by
  induction results with
  | nil => rfl
  | cons result results ih =>
    cases result with
    | ok handler => exact ih.cons _
    | error fault => exact List.perm_middle.trans (ih.cons _)

/-- The services of a build and their handlers, struct by struct. -/
theorem services_of_build (h : t.build = .ok outcome) :
    outcome.services.map (fun service => (service.typeRef, service.handlers)) =
      t.serviceStructs.map fun s => (s.qualifiedName, accepted (t.handlerResults s.name)) := by
  obtain ⟨services, hservices, rfl⟩ := Results.map_eq_ok.mp h
  refine Results.map_of_mapM hservices fun s service hservice => ?_
  obtain ⟨initializer, _, rfl⟩ := Results.map_eq_ok.mp hservice
  rfl

theorem skipped_of_build (h : t.build = .ok outcome) : outcome.skipped =
    t.orphans ++ t.serviceStructs.flatMap fun s => rejected (t.handlerResults s.name) := by
  obtain ⟨services, _, rfl⟩ := Results.map_eq_ok.mp h
  rfl

/-- The fates of the methods that are read for services. -/
def memberFates (t : TaggedCatalog) : List Fate :=
  t.serviceStructs.flatMap fun s => (t.handlerResults s.name).map (.ofResult s.qualifiedName)

theorem fates_of_build (h : t.build = .ok outcome) :
    outcome.fates.Perm (t.memberFates ++ t.orphans.map .skipped) := by
  have hattached : outcome.handlerFates = t.serviceStructs.flatMap fun s =>
      (accepted (t.handlerResults s.name)).map (.attached s.qualifiedName) := by
    have hmap := congrArg (List.flatMap fun entry : QualifiedName × List Handler =>
      entry.2.map (Fate.attached entry.1)) (services_of_build h)
    rwa [List.flatMap_map, List.flatMap_map] at hmap
  rw [Outcome.fates, hattached, skipped_of_build h, List.map_append, List.map_flatMap]
  have hmembers := (List.flatMap_append_perm t.serviceStructs _ _).trans
    (List.Perm.flatMap_left t.serviceStructs fun s _ =>
      fates_of_results s.qualifiedName (t.handlerResults s.name))
  -- The faults of orphans stand between the handlers and the faults of methods.
  refine (List.perm_append_comm.append_left _).trans ?_
  rw [← List.append_assoc]
  exact hmembers.append_right _

/-- Apart from the methods read for services the blocks hold only stray handlers. -/
theorem methodFates_perm (hnames : (t.serviceStructs.map (·.name)).Nodup) :
    (t.catalog.methods.flatMap t.blockFates).Perm
      (t.memberFates ++ t.orphanedHandlers.map .skipped) := by
  have hsorted := (perm_flatMap_filter (·.selfName) hnames t.catalog.methods).flatMap_right
    t.blockFates
  rw [List.flatMap_append, List.flatMap_map, List.flatMap_assoc] at hsorted
  have hmembers : (t.serviceStructs.flatMap fun s =>
      (t.catalog.methods.filter (·.selfName == s.name)).flatMap t.blockFates) = t.memberFates := by
    refine List.flatMap_congr fun s hs => ?_
    rw [handlerResults_eq, List.map_flatMap]
    refine List.flatMap_congr fun block hblock => blockFates_of_service ?_
    exact (serviceStruct?_eq_some hnames).mpr ⟨hs, (mem_methodsOf.mp hblock).2.symm⟩
  have hstray : (t.catalog.methods.filter fun block =>
      !(t.serviceStructs.map (·.name)).contains block.selfName).flatMap t.blockFates =
        t.orphanedHandlers.map .skipped := by
    have hfilter : (t.catalog.methods.filter fun block =>
        !(t.serviceStructs.map (·.name)).contains block.selfName) =
          t.catalog.methods.filter fun block => !t.isServiceName block.selfName := by
      refine List.filter_congr fun block _ => ?_
      rw [Bool.not_inj_iff, Bool.eq_iff_iff, List.contains_iff_mem, isServiceName_iff]
    rw [hfilter, orphanedHandlers, List.map_flatMap]
    refine List.flatMap_congr fun block hblock => blockFates_of_stray ?_
    simpa using (List.mem_filter.mp hblock).2
  rw [hmembers, hstray] at hsorted
  exact hsorted.symm

theorem filterMap_handlerOf? (owner service : QualifiedName)
    (results : List (Except Fault Handler)) :
    (results.map (Fate.ofResult owner)).filterMap (·.handlerOf? service) =
      if owner = service then accepted results else [] := by
  rw [List.filterMap_map]
  split
  · rename_i howner
    refine List.filterMap_congr fun result _ => ?_
    cases result with
    | ok handler => exact if_pos howner
    | error fault => rfl
  · rename_i howner
    refine List.filterMap_eq_nil_iff.mpr fun result _ => ?_
    cases result with
    | ok handler => exact if_neg howner
    | error fault => rfl

theorem filterMap_skipped (service : QualifiedName) (faults : List Fault) :
    (faults.map Fate.skipped).filterMap (·.handlerOf? service) = [] := by
  rw [List.filterMap_map]
  exact List.filterMap_eq_nil_iff.mpr fun fault _ => rfl

/-- A block has handlers for the service of its name and for no other. -/
theorem handlers_of_blockFates (hnames : (t.serviceStructs.map (·.name)).Nodup)
    (hs : s ∈ t.serviceStructs) : (t.blockFates block).filterMap (·.handlerOf? s.qualifiedName) =
      if block.selfName == s.name then t.handlersOf block else [] := by
  cases hservice : t.serviceStruct? block.selfName with
  | none =>
    have hstray := serviceStruct?_eq_none.mp hservice
    have hne : block.selfName ≠ s.name := by
      intro heq
      rw [heq, isServiceName_iff.mpr (List.mem_map_of_mem hs)] at hstray
      cases hstray
    rw [blockFates_of_stray hstray, filterMap_skipped, if_neg (by simpa using hne)]
  | some found =>
    obtain ⟨hfound, hname⟩ := (serviceStruct?_eq_some hnames).mp hservice
    rw [blockFates_of_service hservice, filterMap_handlerOf?, ← hname]
    by_cases heq : found.name = s.name
    · rw [List.inj_on_of_nodup_map hnames hfound hs heq, if_pos rfl,
        if_pos (beq_self_eq_true _), handlersOf]
    · have hne : found.qualifiedName ≠ s.qualifiedName :=
        fun h => heq (congrArg QualifiedName.name h)
      rw [if_neg hne, if_neg (by simpa using heq)]

theorem handlers_of_methodFates (hnames : (t.serviceStructs.map (·.name)).Nodup)
    (hs : s ∈ t.serviceStructs) :
    (t.catalog.methods.flatMap t.blockFates).filterMap (·.handlerOf? s.qualifiedName) =
      accepted (t.handlerResults s.name) := by
  rw [List.filterMap_flatMap, handlerResults_eq, accepted_flatMap, Catalog.methodsOf,
    flatMap_filter]
  exact List.flatMap_congr fun block _ => handlers_of_blockFates hnames hs

/-! ### Counting -/

theorem countP_skipped (faults : List Fault) :
    (faults.map Fate.skipped).countP (·.isSkipped) = faults.length := by
  rw [List.countP_map]
  exact List.countP_eq_length.mpr fun _ _ => rfl

theorem countP_not_skipped (faults : List Fault) :
    (faults.map Fate.skipped).countP (!·.isSkipped) = 0 := by
  rw [List.countP_map]
  exact List.countP_eq_zero.mpr fun _ _ => nofun

theorem isSkipped_of_mem_handlerFates {fate : Fate} (h : fate ∈ outcome.handlerFates) :
    fate.isSkipped = false := by
  obtain ⟨service, _, h⟩ := List.mem_flatMap.mp h
  obtain ⟨handler, _, rfl⟩ := List.mem_map.mp h
  rfl

theorem countP_isSkipped_fates (outcome : Outcome) :
    outcome.fates.countP (·.isSkipped) = outcome.skipped.length := by
  have hhandlers : outcome.handlerFates.countP (·.isSkipped) = 0 :=
    List.countP_eq_zero.mpr fun fate hfate => by simp [isSkipped_of_mem_handlerFates hfate]
  rw [Outcome.fates, List.countP_append, hhandlers, Nat.zero_add, countP_skipped]

theorem countP_not_isSkipped_fates (outcome : Outcome) :
    outcome.fates.countP (!·.isSkipped) = Service.handlerCount outcome.services := by
  have hhandlers : outcome.handlerFates.countP (!·.isSkipped) = outcome.handlerFates.length :=
    List.countP_eq_length.mpr fun fate hfate => by simp [isSkipped_of_mem_handlerFates hfate]
  rw [Outcome.fates, List.countP_append, countP_not_skipped, hhandlers]
  simp [Outcome.handlerFates, Service.handlerCount, List.length_flatMap]

theorem length_misplacedRoles (t : TaggedCatalog) : t.misplacedRoles.length =
    t.catalog.structs.countP fun s => (t.role? s.item.documentation).any (·.kind != .service) := by
  rw [misplacedRoles, List.length_filterMap_eq_countP]
  refine List.countP_congr fun s _ => ?_
  cases t.role? s.item.documentation with
  | none => simp
  | some role => by_cases hkind : role.kind = .service <;> simp [hkind]

theorem length_orphanedCandidates (t : TaggedCatalog) : t.orphanedCandidates.length =
    t.catalog.functions.countP (fun f =>
      t.hasRole .initializer f.function.documentation ∧ ¬t.MakesService (.ofFunction f)) +
    (t.catalog.methods.map fun block => block.methods.countP fun m =>
      t.hasRole .initializer m.documentation ∧ ¬t.MakesService (.ofMethod block m)).sum := by
  have hmakes : (fun c : Candidate => !c.target?.any t.isServiceName) =
      fun c => decide ¬t.MakesService c := by
    funext candidate
    rw [Bool.eq_iff_iff, decide_eq_true_iff, ← makesService_iff, Bool.not_eq_true', Bool.not_eq_true]
  rw [orphanedCandidates, List.length_map, ← List.countP_eq_length_filter, hmakes, candidates,
    List.countP_append, List.countP_map, List.countP_filter, List.countP_flatMap]
  congr 1
  · exact List.countP_congr fun f _ => by simp [and_comm]
  · refine congrArg List.sum (List.map_congr_left fun block _ => ?_)
    rw [Function.comp_apply, List.countP_map, List.countP_filter]
    exact List.countP_congr fun m _ => by simp [and_comm]

variable {d : TaggedHandler}

theorem isSome_fate?_eq (t : TaggedCatalog) (d : TaggedHandler) :
    (t.fate? d).isSome = d.isOfPath := by
  cases d with
  | free f => rfl
  | method block m =>
    simp [fate?, InherentBlock.catalogued?, TaggedHandler.isOfPath, TaggedHandler.isFree,
      TaggedHandler.selfName?]

/-- Only a method of a service may fail to be skipped. -/
theorem exists_fate (t : TaggedCatalog) (h : d.isOfPath = true) : ∃ fate,
    t.fate? d = some fate ∧ (t.isOfService d = false → fate.isSkipped = true) := by
  rw [← isSome_fate?_eq t, Option.isSome_iff_exists] at h
  obtain ⟨fate, hfate⟩ := h
  refine ⟨fate, hfate, fun hservice => ?_⟩
  cases d with
  | free f =>
    cases hfate
    rfl
  | method block m =>
    obtain ⟨entry, hentry, rfl⟩ := Option.map_eq_some_iff.mp hfate
    obtain ⟨name, hname, rfl⟩ := Option.map_eq_some_iff.mp hentry
    have hstray : t.isServiceName name = false := by
      simpa [isOfService, TaggedHandler.selfName?, hname] using hservice
    rw [methodFate, serviceStruct?_eq_none.mpr hstray]
    rfl

theorem isOfService_of_isFree (h : d.isFree = true) : t.isOfService d = false := by
  cases d with
  | free f => rfl
  | method block m => cases h

theorem countP_free_add_stray (t : TaggedCatalog) (declared : List TaggedHandler) :
    declared.countP (·.isFree) + declared.countP t.isStray =
      declared.countP (!t.isOfService ·) := by
  refine countP_add_countP fun d _ => ?_
  cases hfree : d.isFree with
  | false => simp [isStray, hfree]
  | true => simp [isStray, hfree, isOfService_of_isFree hfree]

theorem fates_perm_of_build (h : t.build = .ok outcome)
    (hnames : (t.serviceStructs.map (·.name)).Nodup) :
    outcome.fates.Perm
      ((t.freeHandlers.map Fate.skipped ++ t.catalog.methods.flatMap t.blockFates) ++
        (t.misplacedRoles ++ t.orphanedCandidates).map .skipped) := by
  refine List.perm_iff_count.mpr fun fate => ?_
  have hfates := (fates_of_build h).count_eq fate
  have hmethods := (methodFates_perm hnames).count_eq fate
  simp only [orphans, List.map_append, List.count_append] at hfates hmethods ⊢
  omega

section Account

variable {declared : List TaggedHandler} (hpath : ∀ d ∈ declared, d.isOfPath = true)
include hpath

theorem countP_attached_add_rejected : (declared.filterMap t.fate?).countP (!·.isSkipped) +
    declared.countP (t.isRejected t.fate?) = declared.countP t.isOfService := by
  rw [List.countP_filterMap]
  refine countP_add_countP fun d hd => ?_
  obtain ⟨fate, hfate, hskipped⟩ := exists_fate t (hpath d hd)
  cases hservice : t.isOfService d with
  | false => simp [isRejected, hfate, hservice, hskipped hservice]
  | true => simp [isRejected, hfate, hservice]

theorem countP_outside_add_rejected : declared.countP (!t.isOfService ·) +
    declared.countP (t.isRejected t.fate?) = (declared.filterMap t.fate?).countP (·.isSkipped) := by
  rw [List.countP_filterMap]
  refine countP_add_countP fun d hd => ?_
  obtain ⟨fate, hfate, hskipped⟩ := exists_fate t (hpath d hd)
  cases hservice : t.isOfService d with
  | false => simp [isRejected, hfate, hservice, hskipped hservice]
  | true => simp [isRejected, hfate, hservice]

/-- A build accounts for declarations whose fates are those of the catalogue. -/
theorem accounts_of_fates (hbuild : t.build = .ok outcome)
    (hnames : (t.serviceStructs.map (·.name)).Nodup)
    (hdeclared : declared.filterMap t.fate? =
      t.freeHandlers.map .skipped ++ t.catalog.methods.flatMap t.blockFates) :
    t.Accounts outcome declared t.fate? := by
  have hfates := fates_perm_of_build hbuild hnames
  rw [← hdeclared] at hfates
  refine ⟨?isSome, hfates, ?handlers, ?handlerCount, ?skipped⟩
  case isSome =>
    intro d hd
    rw [isSome_fate?_eq, hpath d hd]
  case handlers =>
    intro service hservice
    obtain ⟨s, hs, initializer, _, rfl⟩ := exists_serviceStruct hbuild hservice
    rw [hdeclared, List.filterMap_append, filterMap_skipped, List.nil_append]
    exact (handlers_of_methodFates hnames hs).symm
  case handlerCount =>
    have hattached := hfates.countP_eq (!·.isSkipped)
    rw [countP_not_isSkipped_fates, List.countP_append, countP_not_skipped,
      Nat.add_zero] at hattached
    rw [hattached, countP_attached_add_rejected hpath]
  case skipped =>
    have hskipped := hfates.countP_eq (·.isSkipped)
    rw [countP_isSkipped_fates, List.countP_append, countP_skipped, List.length_append,
      length_misplacedRoles, length_orphanedCandidates, ← countP_outside_add_rejected hpath,
      ← countP_free_add_stray] at hskipped
    omega

end Account

/-- **Every tagged handler is accounted for.** If no two services share a name, a build attaches or
skips each free function and each method of a path that is tagged as a handler, once, and it has
nothing else but the faults of roles on structs and of initializers that make no service. The
methods of blocks that are not of a path have no fate. -/
theorem accounts_of_build {owner : String} {files : List SourceFile}
    (hbuild : (ofFiles owner files).build = .ok outcome)
    (hnames : ((ofFiles owner files).serviceStructs.map (·.name)).Nodup) :
    (ofFiles owner files).Accounts outcome
        ((taggedDeclarations owner files).filter (·.isOfPath)) (ofFiles owner files).fate? ∧
      ∀ d, (ofFiles owner files).fate? d = none ↔ d.isOfPath = false := by
  have hnone : ∀ d, (ofFiles owner files).fate? d = none ↔ d.isOfPath = false := by
    intro d
    rw [← isSome_fate?_eq, Option.isSome_eq_false_iff, Option.isNone_iff_eq_none]
  refine ⟨accounts_of_fates (fun d hd => (List.mem_filter.mp hd).2) hbuild hnames ?_, hnone⟩
  rw [List.filterMap_filter, ← filterMap_fate?]
  refine List.filterMap_congr fun d _ => ?_
  cases hd : d.isOfPath with
  | true => exact if_pos rfl
  | false => exact ((hnone d).mpr hd).symm

end TaggedCatalog

namespace Sample

theorem accounts_of_namesakes :
    (TaggedCatalog.ofFiles "g" [serviceFile, namesakeFile]).build = .ok namesakeOutcome ∧
      ((TaggedCatalog.ofFiles "g" [serviceFile, namesakeFile]).serviceStructs.map (·.name)).Nodup ∧
        (TaggedCatalog.ofFiles "g" [serviceFile, namesakeFile]).Accounts namesakeOutcome
          ((TaggedCatalog.taggedDeclarations "g" [serviceFile, namesakeFile]).filter (·.isOfPath))
          (TaggedCatalog.ofFiles "g" [serviceFile, namesakeFile]).fate? := by
  have hnames : ((TaggedCatalog.ofFiles "g"
      [serviceFile, namesakeFile]).serviceStructs.map (·.name)).Nodup := by
    decide
  exact ⟨build_namesakes, hnames, (TaggedCatalog.accounts_of_build build_namesakes hnames).1⟩

/-- A handler of the objects of a trait. -/
def objectFile : SourceFile :=
  ⟨"c.rs", "c", [.methods
    (.object true [.named false [] (.ofName (.ofIdent serviceName))] false) [plainMethod]]⟩

theorem build_object : (TaggedCatalog.ofFiles "g" [objectFile]).build = .ok ⟨[], []⟩ :=
  Results.eq_ok_of_toOption (by decide)

/-- The build succeeds without a word about the handler, so it has no account of it. -/
theorem not_accounts_of_object :
    (TaggedCatalog.ofFiles "g" [objectFile]).build = .ok ⟨[], []⟩ ∧
      ((TaggedCatalog.ofFiles "g" [objectFile]).serviceStructs.map (·.name)).Nodup ∧
        ¬ ∃ fate?, (TaggedCatalog.ofFiles "g" [objectFile]).Accounts ⟨[], []⟩
          (TaggedCatalog.taggedDeclarations "g" [objectFile]) fate? := by
  refine ⟨build_object, by decide, ?_⟩
  rintro ⟨fate?, haccount⟩
  have hlength : 0 < (TaggedCatalog.taggedDeclarations "g" [objectFile]).length := by
    decide
  obtain ⟨d, hd⟩ := List.exists_mem_of_length_pos hlength
  have hfates := List.append_eq_nil_iff.mp haccount.fates_perm.symm.eq_nil
  have hnone := List.filterMap_eq_nil_iff.mp hfates.1 d hd
  have hsome := haccount.isSome_fate? d hd
  rw [hnone] at hsome
  cases hsome

end Sample

end Entrypoint
