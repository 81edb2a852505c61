import Entrypoint.Proofs.Program.ConfigLiteral
import Entrypoint.Proofs.Service.Origin

/-! Which service the methods of a block are attached to. A block counts for every service that has
the name of its type, wherever the block is written, and for no other. The struct that the block's
own scope declares under that name makes no difference; it alone gets the handlers exactly if no
other scope has a service of the name. -/

namespace Entrypoint

namespace TaggedCatalog

variable {t : TaggedCatalog} {outcome : Outcome} {block : CatalogMethods} {handler : Handler}

/-- The tagged methods of a block, each as it is read. -/
def blockResults (t : TaggedCatalog) (block : CatalogMethods) : List (Except Fault Handler) :=
  (t.taggedHandlers block).map fun (m, args) =>
    t.handler block.scope (block.selfName ++ "::" ++ m.name) m.signature args

/-- The handlers that the methods of a block are read as. -/
def handlersOf (t : TaggedCatalog) (block : CatalogMethods) : List Handler :=
  accepted (t.blockResults block)

theorem mem_methodsOf {name : String} :
    block ∈ t.catalog.methodsOf name ↔ block ∈ t.catalog.methods ∧ block.selfName = name := by
  rw [Catalog.methodsOf, List.mem_filter, beq_iff_eq]

/-- What is read for a name is read block by block. -/
theorem handlerResults_eq (t : TaggedCatalog) (name : String) :
    t.handlerResults name = (t.catalog.methodsOf name).flatMap t.blockResults := by
  refine List.flatMap_congr fun block hblock => ?_
  rw [← (mem_methodsOf.mp hblock).2, blockResults]

theorem accepted_flatMap (blocks : List CatalogMethods) :
    accepted (blocks.flatMap t.blockResults) = blocks.flatMap t.handlersOf :=
  List.filterMap_flatMap

/-- A handler that a block is read as has its origin in the block. -/
theorem exists_origin_of_block (hblock : block ∈ t.catalog.methods)
    (h : handler ∈ t.handlersOf block) :
    ∃ origin : t.HandlerOrigin block.selfName handler, origin.block = block := by
  obtain ⟨⟨method, args⟩, hmethod, hread⟩ := List.mem_map.mp (mem_accepted.mp h)
  exact ⟨⟨block, method, args, mem_methodsOf.mpr ⟨hblock, rfl⟩, hmethod, hread⟩, rfl⟩

/-- Every service struct has its service in a build. -/
theorem exists_service {s : CatalogStruct} (h : t.build = .ok outcome) (hs : s ∈ t.serviceStructs) :
    ∃ initializer, t.serviceOf s initializer ∈ outcome.services := by
  obtain ⟨services, hservices, rfl⟩ := Results.map_eq_ok.mp h
  obtain ⟨service, hservice, h⟩ := Results.exists_of_mapM_mem hservices hs
  obtain ⟨initializer, _, rfl⟩ := Results.map_eq_ok.mp h
  exact ⟨initializer, hservice⟩

/-- **Handlers are attached by name.** The handlers of a service are those of all blocks whose type
has the name of the service, in the order of the catalogue and whatever their scope. A handler of a
block is attached to the struct of the block's own scope and to no other service exactly if no other
scope has a service of that name. -/
theorem handlers_of_build (hbuild : t.build = .ok outcome) :
    (∀ service ∈ outcome.services, service.handlers =
      (t.catalog.methods.filter (·.selfName == service.name)).flatMap t.handlersOf) ∧
    ∀ block ∈ t.catalog.methods, ∀ handler ∈ t.handlersOf block,
      (∀ service ∈ outcome.services, ∀ origin : t.HandlerOrigin service.name handler,
          origin.block = block → service.typeRef = ⟨block.scope, block.selfName⟩) ↔
        ∀ s ∈ t.serviceStructs, s.name = block.selfName → s.scope = block.scope := by
  refine ⟨fun service hservice => ?_, fun block hblock handler hhandler => ⟨?_, ?_⟩⟩
  · obtain ⟨s, _, initializer, _, rfl⟩ := exists_serviceStruct hbuild hservice
    rw [serviceOf, handlerResults_eq, accepted_flatMap]
    rfl
  · intro h s hs hname
    obtain ⟨initializer, hservice⟩ := exists_service hbuild hs
    obtain ⟨origin, horigin⟩ : ∃ origin : t.HandlerOrigin s.name handler, origin.block = block :=
      hname ▸ exists_origin_of_block hblock hhandler
    exact congrArg QualifiedName.scope (h _ hservice origin horigin)
  · intro h service hservice origin horigin
    obtain ⟨s, hs, initializer, _, rfl⟩ := exists_serviceStruct hbuild hservice
    have hname : block.selfName = s.name := horigin ▸ (mem_methodsOf.mp origin.mem_block).2
    rw [hname, ← h s hs hname.symm]
    rfl

end TaggedCatalog

/-! ### Two structs of one name

The struct `S` of the scope `a` is a service, that of the scope `b` is none. The only handler is
written for the second. -/

namespace Sample

def serviceFile : SourceFile :=
  ⟨"a.rs", "a", [.record ⟨"g:service", serviceName, .absent⟩,
    .methods (typeOf serviceName) [initializer]]⟩

/-- The handler without its config. -/
def plainMethod : Function :=
  { method with signature := { method.signature with
    parameters := method.signature.parameters.take 1 } }

def namesakeFile : SourceFile :=
  ⟨"b.rs", "b", [.record ⟨"", serviceName, .absent⟩, .methods (typeOf serviceName) [plainMethod]]⟩

def namesakes : TaggedCatalog := ⟨"g", Catalog.ofFiles [serviceFile, namesakeFile]⟩

def namesakeBlock : CatalogMethods := ⟨"b", "S", [plainMethod]⟩

def plainHandler : Handler := ⟨.get, "/", none, "h", false, .byValue, .plain⟩

def namesakeOutcome : Outcome :=
  ⟨[⟨⟨"a", "S"⟩, [], ⟨⟨"a", "n"⟩, true, false⟩, [plainHandler]⟩], []⟩

theorem build_namesakes : namesakes.build = .ok namesakeOutcome :=
  Results.eq_ok_of_toOption (by decide +kernel)

/-- The handler of `b::S` is attached to the service `a::S`. -/
theorem handlers_of_namesakes :
    namesakes.build = .ok namesakeOutcome ∧
      (⟨"b", "S"⟩ : QualifiedName) ∈ namesakes.catalog.structs.map (·.qualifiedName) ∧
      namesakeBlock ∈ namesakes.catalog.methods ∧
      plainHandler ∈ namesakes.handlersOf namesakeBlock ∧
        ¬ ∀ service ∈ namesakeOutcome.services,
          ∀ origin : namesakes.HandlerOrigin service.name plainHandler,
            origin.block = namesakeBlock → service.typeRef = ⟨"b", "S"⟩ := by
  have hblock : namesakeBlock ∈ namesakes.catalog.methods :=
    List.mem_cons_of_mem _ (List.mem_singleton_self _)
  have hhandler : plainHandler ∈ namesakes.handlersOf namesakeBlock := by
    decide
  refine ⟨build_namesakes, by decide, hblock, hhandler, fun h => ?_⟩
  have honly := ((TaggedCatalog.handlers_of_build build_namesakes).2 _ hblock _ hhandler).mp h
  have hservice : (⟨"a", ⟨"g:service", serviceName, .absent⟩⟩ : CatalogStruct) ∈
      namesakes.serviceStructs :=
    List.mem_filter.mpr ⟨List.mem_cons_self, by decide +kernel⟩
  exact absurd (honly _ hservice rfl) (by decide)

end Sample

end Entrypoint
