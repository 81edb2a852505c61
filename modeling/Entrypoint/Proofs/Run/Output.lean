import Entrypoint.Proofs.Catalog.ScopePath
import Entrypoint.Proofs.Files.Rewriting
import Entrypoint.Proofs.Json.TextRecord
import Entrypoint.Proofs.Run.Acceptance
import Entrypoint.Proofs.Service.Origin

/-! What a run that is done has written. Each handler of an accepted module has a directory of its
own in the output, with its entry point and its route descriptor, and the run writes these files and
no others. The counts of the summary are those of the accepted modules and of what they hold. -/

namespace Entrypoint

/-! ### Locations -/

theorem Path.isPlain_underscore (first second : PathWord) :
    Path.IsPlain (first.text ++ "_" ++ second.text) := by
  have hchars : (first.text ++ "_" ++ second.text).toList =
      first.text.toList ++ '_' :: second.text.toList := by
    rw [String.toList_append, String.toList_append, List.append_assoc]
    rfl
  have hne : ∀ text : String, '_' ∉ text.toList → first.text ++ "_" ++ second.text ≠ text := by
    rintro text htext rfl
    exact htext (hchars ▸ List.mem_append_right _ List.mem_cons_self)
  refine ⟨?_, ?_, hne ".." (by decide)⟩
  · rw [hchars, List.mem_append, List.mem_cons]
    rintro (hslash | hslash | hslash)
    · exact first.notMem_slash hslash
    · exact absurd hslash (by decide)
    · exact second.notMem_slash hslash
  · simp only [Path.isIdle, hne "" (by decide), hne "." (by decide), decide_false, Bool.or_self]

theorem TaggedCatalog.isPlain_location {t : TaggedCatalog} {outcome : Outcome} {service : Service}
    {handler : Handler} (h : t.build = .ok outcome) (hservice : service ∈ outcome.services)
    (hhandler : handler ∈ service.handlers) : Path.IsPlain (service.location handler) := by
  obtain ⟨origin⟩ := exists_origin_of_build h hservice hhandler
  obtain ⟨s, _, initializer, _, rfl⟩ := exists_serviceStruct h hservice
  rw [Service.location, (handler_eq_ok origin.handler_eq).1]
  exact Path.isPlain_underscore (.ofIdent s.item.name) (.ofIdent origin.method.signature.name)

/-! ### Units -/

namespace UnitFiles

variable {c : RunConfig} {t : Tree} {unit other : UnitFiles} {file file' : String × String}

/-- The files of a unit in the output, by their paths: the entry point as it is left after formatting,
if it can be rendered, and the route descriptor. -/
def below (c : RunConfig) (unit : UnitFiles) : List (String × String) :=
  match unit.entryPoint with
  | .error _ => []
  | .ok program =>
    [(Path.join (Path.join c.outputRoot unit.location) entryPointName,
        c.finished (Path.join (Path.join c.outputRoot unit.location) entryPointName) program),
      (Path.join (Path.join c.outputRoot unit.location) descriptorName, unit.descriptor.text)]

theorem isPlain_entryPointName : Path.IsPlain entryPointName := ⟨by decide, by decide, by decide⟩

theorem isPlain_descriptorName : Path.IsPlain descriptorName := ⟨by decide, by decide, by decide⟩

theorem placeOf_below (hkey : Path.IsPlain unit.location) (h : file ∈ unit.below c) :
    ∃ name ∈ [entryPointName, descriptorName],
      t.placeOf file.1 = t.placeOf c.outputRoot ++ [unit.location, name] := by
  have hplace : ∀ {name}, Path.IsPlain name →
      t.placeOf (Path.join (Path.join c.outputRoot unit.location) name) =
        t.placeOf c.outputRoot ++ [unit.location, name] := fun hname => by
    rw [hname.placeOf_join, hkey.placeOf_join, List.append_assoc]
    rfl
  unfold below at h
  split at h
  · cases h
  · rcases List.mem_cons.mp h with rfl | h
    · exact ⟨_, List.mem_cons_self, hplace isPlain_entryPointName⟩
    · rw [List.mem_singleton.mp h]
      exact ⟨_, List.mem_cons_of_mem _ List.mem_cons_self, hplace isPlain_descriptorName⟩

/-- Units at their own locations have no place of a file in common. -/
theorem placeOf_below_ne (hkey : Path.IsPlain unit.location) (hkey' : Path.IsPlain other.location)
    (hne : unit.location ≠ other.location) (h : file ∈ unit.below c)
    (h' : file' ∈ other.below c) : t.placeOf file.1 ≠ t.placeOf file'.1 := by
  obtain ⟨name, -, hplace⟩ := placeOf_below (t := t) hkey h
  obtain ⟨name', -, hplace'⟩ := placeOf_below (t := t) hkey' h'
  rw [hplace, hplace']
  intro heq
  exact hne (List.cons.inj (List.append_cancel_left heq)).1

end UnitFiles

namespace RunConfig

open Registry (handlersOf)

variable {c : RunConfig} {t : Tree} {modules : List String} {summary : Summary}

/-- Formatting an entry point leaves the tree that writing the formatted text leaves. -/
theorem write_finished {directory program : String} {middle : Tree}
    (h : t.write directory UnitFiles.entryPointName program = (middle, .ok ())) :
    t.write directory UnitFiles.entryPointName
        (c.finished (Path.join directory UnitFiles.entryPointName) program) =
      (c.format middle directory program, .ok ()) := by
  rw [finished, format]
  cases c.formatted? (Path.join directory UnitFiles.entryPointName) program with
  | none => exact h
  | some formatted =>
    obtain ⟨last, hlast, hagain⟩ := Tree.write_write h (formatted.left program)
    simp only [Option.elim_some, hlast, hagain]

theorem writeUnit_eq_ok {unit : UnitFiles} (h : (c.writeUnit t unit).result = .ok ()) :
    ∃ program middle, unit.entryPoint = .ok program ∧
      t.write (Path.join c.outputRoot unit.location) UnitFiles.entryPointName
        (c.finished (Path.join (Path.join c.outputRoot unit.location) UnitFiles.entryPointName)
          program) = (middle, .ok ()) ∧
      middle.write (Path.join c.outputRoot unit.location) UnitFiles.descriptorName
        unit.descriptor.text = ((c.writeUnit t unit).tree, .ok ()) := by
  obtain ⟨location, entryPoint, descriptor⟩ := unit
  delta writeUnit at h ⊢
  dsimp only at h ⊢
  cases entryPoint with
  | error fault => exact nomatch h
  | ok program =>
    dsimp only at h ⊢
    refine ⟨program, ?_⟩
    cases hfirst : t.write (Path.join c.outputRoot location) UnitFiles.entryPointName program with
    | mk middle result =>
      rw [hfirst] at h
      cases result with
      | error fault => exact nomatch h
      | ok done =>
        cases done
        dsimp only at h ⊢
        refine ⟨_, rfl, write_finished hfirst, ?_⟩
        rw [← h]

theorem writes_writeUnit {unit : UnitFiles} (hkey : Path.IsPlain unit.location)
    (h : (c.writeUnit t unit).result = .ok ()) :
    (∃ program, unit.entryPoint = .ok program) ∧
      t.Writes (c.writeUnit t unit).tree (unit.below c) := by
  obtain ⟨program, middle, hrender, hentry, hdescriptor⟩ := writeUnit_eq_ok h
  have hfirst := Tree.writes_write hkey UnitFiles.isPlain_entryPointName hentry
  have hsecond := Tree.writes_write hkey UnitFiles.isPlain_descriptorName hdescriptor
  refine ⟨⟨program, hrender⟩, ?_⟩
  rw [UnitFiles.below, hrender]
  refine hfirst.trans hsecond fun f hf f' hf' heq => ?_
  rw [List.mem_singleton.mp hf, List.mem_singleton.mp hf',
    UnitFiles.isPlain_entryPointName.placeOf_join,
    UnitFiles.isPlain_descriptorName.placeOf_join] at heq
  exact absurd (List.append_cancel_left heq) (by decide)

/-- Units that are written one after the other are rendered, and write their files. -/
theorem writes_writeUnits {units : List UnitFiles} (hkeys : ∀ unit ∈ units, Path.IsPlain unit.location)
    (hnodup : (units.map (·.location)).Nodup) (h : (c.writeUnits t units).result = .ok ()) :
    (∀ unit ∈ units, ∃ program, unit.entryPoint = .ok program) ∧
      t.Writes (c.writeUnits t units).tree (units.flatMap (·.below c)) := by
  induction units generalizing t with
  | nil => exact ⟨(fun _ h => nomatch h), .refl t⟩
  | cons unit units ih =>
    obtain ⟨hkey, hkeys⟩ := List.forall_mem_cons.mp hkeys
    rw [List.map_cons, List.nodup_cons] at hnodup
    rw [writeUnits] at h ⊢
    cases hfirst : (c.writeUnit t unit).result with
    | error fault =>
      simp only [hfirst] at h
      cases h
    | ok done =>
      simp only [hfirst] at h ⊢
      obtain ⟨hrendered, hwrites⟩ := writes_writeUnit hkey hfirst
      obtain ⟨hrendered', hwrites'⟩ := ih hkeys hnodup.2 h
      refine ⟨List.forall_mem_cons.mpr ⟨hrendered, hrendered'⟩, ?_⟩
      rw [List.flatMap_cons]
      -- The units behind are at other locations, so none of their files is at a place of this one.
      refine hwrites.trans hwrites' fun f hf f' hf' => ?_
      obtain ⟨other, hother, hf'⟩ := List.mem_flatMap.mp hf'
      refine UnitFiles.placeOf_below_ne hkey (hkeys other hother) (fun heq => hnodup.1 ?_) hf hf'
      exact List.mem_map.mpr ⟨other, hother, heq.symm⟩

/-- The files of a handler as a registry hands them on. -/
def unitOf (c : RunConfig) (target : Service × Handler) : UnitFiles :=
  ⟨target.1.location target.2, target.1.render c.policy target.2,
    RouteDescriptor.ofHandler target.1 target.2⟩

/-- The handlers of the modules that a run accepts. -/
def targets (c : RunConfig) (t : Tree) (modules : List String) : List (Service × Handler) :=
  handlersOf ((Gathering.start.accepted c t modules).flatMap (·.services))

/-- The files of these handlers, by their paths. -/
def outputFiles (c : RunConfig) (t : Tree) (modules : List String) : List (String × String) :=
  (c.targets t modules).flatMap fun target => (c.unitOf target).below c

/-- A handler of an accepted module is built from the catalogue of the module. -/
theorem exists_build_of_mem_targets {target : Service × Handler} (h : target ∈ c.targets t modules) :
    ∃ name ∈ modules, ∃ outcome catalog, c.moduleCatalog t name = .ok catalog ∧
      catalog.build = .ok outcome ∧ target.1 ∈ outcome.services ∧ target.2 ∈ target.1.handlers := by
  obtain ⟨service, hservice, h⟩ := List.mem_flatMap.mp h
  obtain ⟨handler, hhandler, rfl⟩ := List.mem_map.mp h
  obtain ⟨outcome, houtcome, hservice⟩ := List.mem_flatMap.mp hservice
  obtain ⟨name, hname, hread⟩ := Gathering.exists_of_mem_accepted houtcome
  obtain ⟨catalog, hcatalog, hbuild⟩ := exists_build_of_moduleOutcome hread
  exact ⟨name, hname, outcome, catalog, hcatalog, hbuild, hservice, hhandler⟩

theorem isPlain_location_of_mem_targets {target : Service × Handler}
    (h : target ∈ c.targets t modules) : Path.IsPlain (target.1.location target.2) := by
  obtain ⟨_, _, _, _, _, hbuild, hservice, hhandler⟩ := exists_build_of_mem_targets h
  exact TaggedCatalog.isPlain_location hbuild hservice hhandler

/-- After the modules are read, the registry holds the services of the accepted ones. -/
theorem registry_gather (c : RunConfig) (t : Tree) (modules : List String) :
    (c.gather t modules).registry.Whole ∧ (c.gather t modules).registry = Registry.ofServices
      ((Gathering.start.accepted c t modules).flatMap (·.services)) := by
  have H := Gathering.accepts_foldl c t .start modules
  have hwhole := H.whole .empty
  exact ⟨hwhole, hwhole.eq_ofServices.trans (congrArg Registry.ofServices H.registered)⟩

theorem unitFiles_gather (c : RunConfig) (t : Tree) (modules : List String) :
    (c.gather t modules).registry.unitFiles c.policy = (c.targets t modules).map c.unitOf := by
  rw [(registry_gather c t modules).2, Registry.unitFiles_ofServices]
  rfl

/-- What a run has written into a tree and counted in a summary. -/
structure Delivers (c : RunConfig) (t : Tree) (modules : List String) (tree : Tree)
    (summary : Summary) : Prop where
  /-- The files are those of the handlers, and those from before at other places. -/
  file_iff : ∀ place entry, entry.isFile = true → (tree.entry? place = some entry ↔
    (∃ file ∈ c.outputFiles t modules, t.placeOf file.1 = place ∧ .text file.2 = entry) ∨
      (∀ file ∈ c.outputFiles t modules, t.placeOf file.1 ≠ place) ∧ t.entry? place = some entry)
  /-- If there was no output directory, the files of the handlers are added to those from before. -/
  added_iff : t.IsAbsent c.outputRoot → ∀ place entry, entry.isFile = true →
    (tree.entry? place = some entry ↔ t.entry? place = some entry ∨
      ∃ file ∈ c.outputFiles t modules, t.placeOf file.1 = place ∧ .text file.2 = entry)
  /-- The paths of the files of the handlers lead to them. -/
  read? : t.Sound → ∀ file ∈ c.outputFiles t modules, tree.read? file.1 = some file.2
  /-- A handler has its entry point and its descriptor, each below its location. The entry point is
  what the formatter leaves of the rendered text, and that text itself if there is no formatter. -/
  below : ∀ target ∈ c.targets t modules, ∃ program text,
    target.1.render c.policy target.2 = .ok program ∧
      text = c.finished
        (Path.join (Path.join c.outputRoot (target.1.location target.2)) "main.rs") program ∧
      (c.formatter = none → text = program) ∧ (c.unitOf target).below c =
        [(Path.join (Path.join c.outputRoot (target.1.location target.2)) "main.rs", text),
          (Path.join (Path.join c.outputRoot (target.1.location target.2)) "spec.json",
            (RouteDescriptor.ofHandler target.1 target.2).text)]
  locations : (c.gather t modules).registry.locations =
    (c.targets t modules).map fun target => target.1.location target.2
  locations_nodup : ((c.targets t modules).map fun target => target.1.location target.2).Nodup
  descriptors_nodup : ((c.targets t modules).map fun target =>
    (RouteDescriptor.ofHandler target.1 target.2).text).Nodup
  modulesProcessed : summary.modulesProcessed = modules.length
  modulesFailed :
    summary.modulesFailed + (Gathering.start.accepted c t modules).length = modules.length
  services :
    summary.services = ((Gathering.start.accepted c t modules).map (·.services.length)).sum
  handlersRegistered : summary.handlersRegistered =
    ((Gathering.start.accepted c t modules).map (Service.handlerCount ·.services)).sum
  unitsWritten : summary.unitsWritten = summary.handlersRegistered

theorem run_eq_ok (h : (c.run t modules).result = .ok summary) :
    (c.writeUnits t ((c.gather t modules).registry.unitFiles c.policy)).result = .ok () ∧
      (c.run t modules).tree =
        (c.writeUnits t ((c.gather t modules).registry.unitFiles c.policy)).tree ∧
      summary = { (c.gather t modules).summary with
        unitsWritten := (c.gather t modules).registry.units.length } := by
  delta run write at h ⊢
  dsimp only at h ⊢
  generalize c.writeUnits t ((c.gather t modules).registry.unitFiles c.policy) = written at h ⊢
  obtain ⟨tree, log, result⟩ := written
  cases result with
  | error fault => exact nomatch h
  | ok done =>
    cases h
    exact ⟨rfl, rfl, rfl⟩

theorem length_units_ofServices (services : List Service) :
    (Registry.ofServices services).units.length = Service.handlerCount services := by
  have hlength := congrArg List.length (Registry.map_target?_ofServices services)
  rw [List.length_map, List.length_map] at hlength
  rw [hlength, handlersOf, Service.handlerCount]
  simp [List.length_flatMap]

theorem handlerCount_flatMap (outcomes : List Outcome) :
    Service.handlerCount (outcomes.flatMap (·.services)) =
      (outcomes.map (Service.handlerCount ·.services)).sum := by
  simp only [Service.handlerCount, List.flatMap_assoc, List.length_flatMap]

theorem prefix_placeOf_outputFiles {file : String × String} (h : file ∈ c.outputFiles t modules) :
    t.placeOf c.outputRoot <+: t.placeOf file.1 := by
  obtain ⟨target, htarget, hfile⟩ := List.mem_flatMap.mp h
  obtain ⟨name, -, hplace⟩ := UnitFiles.placeOf_below (t := t)
    (isPlain_location_of_mem_targets htarget) hfile
  rw [hplace]
  exact List.prefix_append _ _

/-- A run that is done has rendered and written the files of the handlers. -/
theorem writes_of_run (h : (c.run t modules).result = .ok summary) :
    (∀ unit ∈ (c.targets t modules).map c.unitOf, ∃ program, unit.entryPoint = .ok program) ∧
      t.Writes (c.run t modules).tree (c.outputFiles t modules) := by
  obtain ⟨hwhole, hregistry⟩ := registry_gather c t modules
  obtain ⟨hwritten, htree, _⟩ := run_eq_ok h
  have hnodup := hwhole.locations
  rw [hregistry] at hnodup
  rw [unitFiles_gather] at hwritten htree
  obtain ⟨hrendered, hwrites⟩ := writes_writeUnits
    (List.forall_mem_map.mpr fun target => isPlain_location_of_mem_targets)
    (by rw [List.map_map]; exact hnodup) hwritten
  rw [List.flatMap_map, ← htree] at hwrites
  exact ⟨hrendered, hwrites⟩

/-- **What a run delivers.** A run that is done writes the files of the handlers of the accepted
modules and no others: for each handler, below its location, its entry point and its route
descriptor. All of them are added if there was no output directory. No two locations and no two
descriptors are the same. The summary counts every module, as failed if it is not accepted, the
services and the handlers of the accepted ones, and one written unit for each handler. -/
theorem delivers_of_run (h : (c.run t modules).result = .ok summary) :
    c.Delivers t modules (c.run t modules).tree summary := by
  have haccepts := Gathering.accepts_foldl c t .start modules
  obtain ⟨hwhole, hregistry⟩ := registry_gather c t modules
  obtain ⟨hrendered, hwrites⟩ := writes_of_run h
  obtain ⟨_, _, rfl⟩ := run_eq_ok h
  have hlocations : (c.gather t modules).registry.locations =
      (c.targets t modules).map fun target => target.1.location target.2 := by
    rw [hregistry]
    rfl
  have hnodup := hwhole.locations
  have hroutes := hwhole.routes
  rw [hlocations] at hnodup
  rw [hregistry] at hroutes
  exact
    { file_iff := fun place entry hfile => hwrites.file_iff hfile
      added_iff := fun habsent place entry hfile => hwrites.added_iff hfile fun file hmem =>
        habsent _ (prefix_placeOf_outputFiles hmem)
      read? := fun hsound file hmem => hwrites.read? hsound hmem
      below := fun target htarget => by
        obtain ⟨program, hprogram⟩ := hrendered _ (List.mem_map_of_mem htarget)
        refine ⟨program, _, hprogram, rfl, fun hnone => finished_of_none hnone _ _, ?_⟩
        rw [UnitFiles.below, hprogram]
        rfl
      locations := hlocations
      locations_nodup := hnodup
      descriptors_nodup := by
        have htexts := (hroutes.map Registry.descriptor_injective).map RouteDescriptor.text_injective
        rw [Registry.ofServices, List.map_map, List.map_map] at htexts
        exact htexts
      modulesProcessed := haccepts.modulesProcessed.trans (Nat.zero_add _)
      modulesFailed := haccepts.modulesFailed.trans (Nat.zero_add _)
      services := haccepts.services.trans (Nat.zero_add _)
      handlersRegistered := haccepts.handlersRegistered.trans (Nat.zero_add _)
      unitsWritten := by
        refine Eq.trans ?_ haccepts.handlersRegistered.symm
        rw [hregistry, length_units_ofServices, handlerCount_flatMap]
        exact (Nat.zero_add _).symm }

/-- A tree with a service of one handler. -/
def made : Tree where
  entries := [(["a.rs"], .text ("///g:service\nstruct S;impl S\x7b///g:service_init\n" ++
    "fn n()->Result<S,Error>\x7b\x7d///g:handler GET /a\n" ++
    "fn h(&self,c:&Context)->u8\x7b\x7d\x7d"))]
  working := []

theorem sound_made : made.Sound := by
  refine ⟨fun place hplace => ?_, rfl⟩
  by_cases hroot : place = []
  · rw [hroot]
    rfl
  have hfile : place = ["a.rs"] := by
    by_contra hne
    rw [Tree.entry?, if_neg hroot, made, List.lookup_cons, beq_false_of_ne hne] at hplace
    cases hplace
  rw [hfile]
  rfl

theorem isAbsent_made : made.IsAbsent inPlace.outputRoot := by
  have hplace : made.placeOf inPlace.outputRoot = ["out"] := by decide +kernel
  rw [Tree.IsAbsent, hplace]
  rintro _ ⟨below, rfl⟩
  rfl

/-- A run over the module with the service and over one that is missing. -/
theorem delivers_of_run_made :
    (inPlace.run made ["a.rs", "b.rs"]).result = .ok ⟨2, 1, 1, 1, 0, 1⟩ ∧
      made.Sound ∧ made.IsAbsent inPlace.outputRoot ∧
        inPlace.Delivers made ["a.rs", "b.rs"] (inPlace.run made ["a.rs", "b.rs"]).tree
          ⟨2, 1, 1, 1, 0, 1⟩ := by
  have hresult : (inPlace.run made ["a.rs", "b.rs"]).result = .ok ⟨2, 1, 1, 1, 0, 1⟩ :=
    Results.eq_ok_of_toOption (by decide +kernel)
  exact ⟨hresult, sound_made, isAbsent_made, delivers_of_run hresult⟩

end RunConfig

end Entrypoint
