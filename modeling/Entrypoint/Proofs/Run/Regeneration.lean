import Entrypoint.Proofs.Files.Listing
import Entrypoint.Proofs.Files.Rewriting
import Entrypoint.Proofs.Program.ConfigLiteral
import Entrypoint.Proofs.Program.ReadBack
import Entrypoint.Proofs.Program.Rendering
import Entrypoint.Proofs.Run.Output
import Entrypoint.Proofs.Service.Widening

/-! A second run over what a first one left. -/

namespace Entrypoint

open Catalog (Spares Broadens)

/-! ### Gathering the same again -/

namespace Gathering

variable {c : RunConfig} {t t' : Tree} {g g' : Gathering} {name : String} {modules : List String}

/-- Two gatherings hold the same services and count the same. Their logs may differ. -/
structure Equal (g g' : Gathering) : Prop where
  registry : g'.registry = g.registry
  summary : g'.summary = g.summary

theorem Equal.addModule (H : g.Equal g')
    (h : (c.moduleOutcome t' name).2 = (c.moduleOutcome t name).2) :
    (g.addModule c t name).Equal (g'.addModule c t' name) := by
  obtain ⟨hregistry, hsummary⟩ := H
  cases hread : (c.moduleOutcome t name).2 with
  | error fault =>
    obtain ⟨hr, hs⟩ := addModule_of_fault (g := g) hread
    obtain ⟨hr', hs'⟩ := addModule_of_fault (g := g') (h.trans hread)
    exact ⟨by rw [hr, hr', hregistry], by rw [hs, hs', hsummary]⟩
  | ok outcome =>
    obtain ⟨fault, -, hreg⟩ | ⟨-, hreg⟩ := g.registry.register_cases outcome.services
    · obtain ⟨hr, hs⟩ := addModule_of_refused hread (by rw [hreg])
      obtain ⟨hr', hs'⟩ := addModule_of_refused (h.trans hread) (by rw [hregistry, hreg])
      exact ⟨by rw [hr, hr', hregistry], by rw [hs, hs', hsummary]⟩
    · obtain ⟨hr, hs⟩ := addModule_of_registered hread hreg
      obtain ⟨hr', hs'⟩ := addModule_of_registered (h.trans hread) (hregistry ▸ hreg)
      exact ⟨by rw [hr, hr', hregistry], by rw [hs, hs', hsummary]⟩

theorem Equal.foldl (H : g.Equal g')
    (h : ∀ name ∈ modules, (c.moduleOutcome t' name).2 = (c.moduleOutcome t name).2) :
    (modules.foldl (Gathering.addModule c t) g).Equal
      (modules.foldl (Gathering.addModule c t') g') := by
  induction modules generalizing g g' with
  | nil => exact H
  | cons name modules ih =>
    obtain ⟨hname, hmodules⟩ := List.forall_mem_cons.mp h
    exact ih (H.addModule hname) hmodules

end Gathering

namespace RunConfig

variable {c : RunConfig} {t t' : Tree} {modules paths : List String} {summary : Summary}
  {name path : String} {target : Service × Handler}

/-! ### Writing the same again -/

/-- A unit whose files stand is written over itself. The entry point is first as it was rendered, and
then as it is left. -/
theorem writeUnit_of_read? {unit : UnitFiles} {program : String}
    (hkey : Path.IsPlain unit.location) (hentry : unit.entryPoint = .ok program)
    (h : ∀ file ∈ unit.below c, t.read? file.1 = some file.2) :
    (c.writeUnit t unit).result = .ok () ∧ t.Same (c.writeUnit t unit).tree := by
  rw [UnitFiles.below, hentry] at h
  obtain ⟨hprogram, hdescriptor⟩ := List.forall_mem_cons.mp h
  have hdescriptor := List.forall_mem_singleton.mp hdescriptor
  obtain ⟨middle, hfinished, hsame⟩ :=
    Tree.write_of_read? hkey UnitFiles.isPlain_entryPointName hprogram
  obtain ⟨first, hfirst, -⟩ := Tree.write_write hfinished program
  obtain ⟨hmiddle, -⟩ := Prod.mk.inj (hfinished.symm.trans (write_finished hfirst))
  rw [← hsame.read?] at hdescriptor
  obtain ⟨last, hsecond, hsame'⟩ :=
    Tree.write_of_read? hkey UnitFiles.isPlain_descriptorName hdescriptor
  delta writeUnit
  simp only [hentry, hfirst, ← hmiddle, hsecond]
  exact ⟨trivial, hsame.trans hsame'⟩

theorem writeUnits_of_read? (units : List UnitFiles)
    (hkeys : ∀ unit ∈ units, Path.IsPlain unit.location)
    (hentries : ∀ unit ∈ units, ∃ program, unit.entryPoint = .ok program)
    (h : ∀ file ∈ units.flatMap (·.below c), t.read? file.1 = some file.2) :
    (c.writeUnits t units).result = .ok () ∧ t.Same (c.writeUnits t units).tree := by
  induction units generalizing t with
  | nil => exact ⟨rfl, .refl t⟩
  | cons unit units ih =>
    obtain ⟨hkey, hkeys⟩ := List.forall_mem_cons.mp hkeys
    obtain ⟨⟨program, hentry⟩, hentries⟩ := List.forall_mem_cons.mp hentries
    rw [List.flatMap_cons, List.forall_mem_append] at h
    obtain ⟨hresult, hsame⟩ := writeUnit_of_read? hkey hentry h.1
    obtain ⟨hresult', hsame'⟩ := ih (t := (c.writeUnit t unit).tree) hkeys hentries
      fun file hfile => (hsame.read? file.1).trans (h.2 file hfile)
    rw [writeUnits]
    simp only [hresult]
    exact ⟨hresult', hsame.trans hsame'⟩

theorem run_of_writeUnits
    (h : (c.writeUnits t ((c.gather t modules).registry.unitFiles c.policy)).result = .ok ()) :
    (c.run t modules).result = .ok { (c.gather t modules).summary with
        unitsWritten := (c.gather t modules).registry.units.length } ∧
      (c.run t modules).tree =
        (c.writeUnits t ((c.gather t modules).registry.unitFiles c.policy)).tree := by
  delta run write
  dsimp only
  generalize c.writeUnits t ((c.gather t modules).registry.unitFiles c.policy) = written at h ⊢
  obtain ⟨tree, log, result⟩ := written
  cases h
  exact ⟨rfl, rfl⟩

/-! ### Trees after a run -/

theorem distinct_writeUnit {unit : UnitFiles} (H : t.Distinct)
    (h : (c.writeUnit t unit).result = .ok ()) : (c.writeUnit t unit).tree.Distinct := by
  obtain ⟨program, middle, _, hentry, hdescriptor⟩ := writeUnit_eq_ok h
  have hmiddle := H.write (Path.join c.outputRoot unit.location) UnitFiles.entryPointName
    (c.finished (Path.join (Path.join c.outputRoot unit.location) UnitFiles.entryPointName) program)
  rw [hentry] at hmiddle
  have hlast := Tree.Distinct.write hmiddle (Path.join c.outputRoot unit.location)
    UnitFiles.descriptorName unit.descriptor.text
  rwa [hdescriptor] at hlast

theorem distinct_writeUnits {units : List UnitFiles} (H : t.Distinct)
    (h : (c.writeUnits t units).result = .ok ()) : (c.writeUnits t units).tree.Distinct := by
  induction units generalizing t with
  | nil => exact H
  | cons unit units ih =>
    rw [writeUnits] at h ⊢
    cases hfirst : (c.writeUnit t unit).result with
    | error fault =>
      simp only [hfirst] at h
      cases h
    | ok done =>
      simp only [hfirst] at h ⊢
      exact ih (distinct_writeUnit H hfirst) h

/-- The path of the entry point of a handler. -/
def entryPointPath (c : RunConfig) (target : Service × Handler) : String :=
  Path.join (Path.join c.outputRoot (target.1.location target.2)) UnitFiles.entryPointName

/-- The text that is left as the entry point of a handler with the given program. -/
def entryText (c : RunConfig) (target : Service × Handler) (program : Program) : String :=
  c.finished (c.entryPointPath target) (program.text c.policy)

theorem entryText_of_none (hnone : c.formatter = none) (target : Service × Handler)
    (program : Program) : c.entryText target program = program.text c.policy :=
  finished_of_none hnone _ _

/-- After a run a path of a source file of a module leads to the entry point of a handler. -/
structure FindsEntryPoint (c : RunConfig) (t : Tree) (modules : List String) (name path : String)
    (target : Service × Handler) : Prop where
  isTarget : target ∈ c.targets t modules
  isSource : ∃ paths,
    (c.run t modules).tree.sourceFiles (c.modulePath name) = .ok paths ∧ path ∈ paths
  find? : (c.run t modules).tree.find? path = some (t.placeOf (c.entryPointPath target))

/-- After a run a name is imported into a scope by an entry point that a module finds. -/
def Overlays (c : RunConfig) (t : Tree) (modules : List String) (name scope imported : String) :
    Prop :=
  (∃ path target, c.FindsEntryPoint t modules name path target ∧
    scope = FileScope.ofFile c.crateName c.sourceRoot path) ∧ imported ∈ Program.importedNames

/-- The scopes of the source files of modules are paths of identifiers, as the names of directories
and files and the name of the crate usually make them. -/
def HasModuleScopes (c : RunConfig) (t : Tree) (modules : List String) : Prop :=
  ∀ name ∈ modules, ∀ paths, t.sourceFiles (c.modulePath name) = .ok paths → ∀ path ∈ paths,
    ∃ names : List Ident, names ≠ [] ∧
      FileScope.ofFile c.crateName c.sourceRoot path = "::".intercalate (names.map (·.text))

/-- A run leaves what it reads as it was. -/
structure SparesSources (c : RunConfig) (t : Tree) (modules : List String) : Prop where
  /-- No module path that was missing leads somewhere afterwards. -/
  missing : ∀ name ∈ modules, t.find? (c.modulePath name) = none →
    (c.run t modules).tree.find? (c.modulePath name) = none
  /-- No source file that is read is written over. -/
  sources : ∀ name ∈ modules, ∀ paths, t.sourceFiles (c.modulePath name) = .ok paths →
    ∀ path ∈ paths, (c.run t modules).tree.read? path = t.read? path
  /-- The names that entry points import are not written in their scopes, or still mean the same. -/
  imports : ∀ name ∈ modules, ∀ catalog catalog', c.moduleCatalog t name = .ok catalog →
    c.moduleCatalog (c.run t modules).tree name = .ok catalog' →
    Spares (c.Overlays t modules name) catalog.catalog catalog'.catalog
  /-- Entry points that are found are read as imports and functions without documentation. This is so
  if nothing formats them and the scopes of source files are paths of identifiers, or at least no path
  in them has arguments. -/
  readable : ∀ name ∈ modules, ∀ path target program, c.FindsEntryPoint t modules name path target →
    Program.ofHandler target.1 target.2 = .ok program →
      c.formatter = none ∧ (c.HasModuleScopes t modules ∨ program.isPlain = true) ∨
        Program.ReadsAside (c.entryText target program)

/-! ### Entry points among the source files -/

theorem entryPoint_of_below {unit : UnitFiles} {file : String × String} (h : file ∈ unit.below c)
    (hsource : Tree.IsSourcePlace (t.placeOf file.1)) :
    file.1 = Path.join (Path.join c.outputRoot unit.location) UnitFiles.entryPointName := by
  rw [UnitFiles.below] at h
  split at h
  · cases h
  · rcases List.mem_cons.mp h with rfl | h
    · rfl
    · -- The descriptor has no name of a source file.
      rw [List.mem_singleton.mp h, Tree.IsSourcePlace,
        UnitFiles.isPlain_descriptorName.placeOf_join, List.getLast?_concat] at hsource
      exact absurd hsource (by decide)

theorem distinct_run (H : t.Distinct) (hrun : (c.run t modules).result = .ok summary) :
    (c.run t modules).tree.Distinct := by
  obtain ⟨hwritten, htree, _⟩ := run_eq_ok hrun
  exact htree ▸ distinct_writeUnits H hwritten

/-- The source files that a module has besides those from before are entry points. -/
theorem sourceFiles_run (hproper : t.IsProper) (hrun : (c.run t modules).result = .ok summary)
    (hmissing : t.find? (c.modulePath name) = none →
      (c.run t modules).tree.find? (c.modulePath name) = none) :
    (∃ fault, t.sourceFiles (c.modulePath name) = .error fault ∧
      (c.run t modules).tree.sourceFiles (c.modulePath name) = .error fault) ∨
      ∃ paths paths', t.sourceFiles (c.modulePath name) = .ok paths ∧
        (c.run t modules).tree.sourceFiles (c.modulePath name) = .ok paths' ∧
          Interspersed (fun path => ∃ target, c.FindsEntryPoint t modules name path target)
            paths paths' := by
  obtain ⟨_, hwrites⟩ := writes_of_run hrun
  have hplain : ∀ file ∈ (c.outputFiles t modules).map fun file => (t.placeOf file.1, file.2),
      ∀ name ∈ file.1, Path.IsPlain name := by
    rintro _ hfile name hname
    obtain ⟨file, _, rfl⟩ := List.mem_map.mp hfile
    exact Tree.isPlain_of_mem_placeOf hproper.working file.1 name hname
  rcases hwrites.gains.sourceFiles hproper.sound (hwrites.sound hproper.sound) hproper.distinct
    (distinct_run hproper.distinct hrun) hplain hmissing with
    hfault | ⟨paths, paths', hold, hnew, H⟩
  · exact .inl hfault
  · refine .inr ⟨paths, paths', hold, hnew, H.imp ?_⟩
    rintro path ⟨hpath, _, hgained, hsource, hfind⟩
    obtain ⟨file, hfile, rfl⟩ := List.mem_map.mp hgained
    obtain ⟨target, htarget, hbelow⟩ := List.mem_flatMap.mp hfile
    replace hbelow : file ∈ (c.unitOf target).below c := hbelow
    have hentry := entryPoint_of_below (t := t) hbelow hsource
    change file.1 = c.entryPointPath target at hentry
    exact ⟨target, htarget, ⟨paths', hnew, hpath⟩, hentry ▸ hfind⟩

/-- The entry point of a handler is among the files that a run writes. -/
theorem exists_entryPoint (hrun : (c.run t modules).result = .ok summary)
    (htarget : target ∈ c.targets t modules) :
    ∃ program, Program.ofHandler target.1 target.2 = .ok program ∧
      (c.entryPointPath target, c.entryText target program) ∈ c.outputFiles t modules := by
  obtain ⟨text, hrender⟩ := (writes_of_run hrun).1 _ (List.mem_map_of_mem htarget)
  obtain ⟨program, hprogram, rfl⟩ := Service.render_eq_ok hrender
  refine ⟨program, hprogram, List.mem_flatMap.mpr ⟨target, htarget, ?_⟩⟩
  rw [UnitFiles.below, hrender]
  exact List.mem_cons_self

/-- A path that leads to an entry point reads the text that is left of its program. -/
theorem FindsEntryPoint.exists_read? (hrun : (c.run t modules).result = .ok summary)
    (H : c.FindsEntryPoint t modules name path target) :
    ∃ program, Program.ofHandler target.1 target.2 = .ok program ∧
      (c.run t modules).tree.read? path = some (c.entryText target program) := by
  obtain ⟨program, hprogram, houtput⟩ := exists_entryPoint hrun H.isTarget
  have hfile := (writes_of_run hrun).2.gains.file _ (List.mem_map_of_mem houtput)
  refine ⟨program, hprogram, ?_⟩
  delta Tree.read? Tree.at?
  rw [H.find?, Option.bind_some, hfile]

theorem isPlaceable_of_ofHandler {service : Service} {handler : Handler} {program : Program}
    (h : Program.ofHandler service handler = .ok program) : program.isPlaceable = true := by
  obtain ⟨_, _, h⟩ := Results.bind_eq_ok.mp h
  obtain ⟨_, _, h⟩ := Results.bind_eq_ok.mp h
  obtain ⟨_, _, h⟩ := Results.bind_eq_ok.mp h
  dsimp only at h
  split at h
  · cases h
    assumption
  · cases h

/-- A text that reads aside says nothing about services. -/
theorem sourceFile_of_readsAside {text : String} (hread : t.read? path = some text)
    (hreads : Program.ReadsAside text) :
    ∃ file, c.sourceFile t path = .ok file ∧
      ∀ d ∈ file.declarations, d.IsAside fun scope imported =>
        scope = FileScope.ofFile c.crateName c.sourceRoot path ∧
          imported ∈ Program.importedNames := by
  obtain ⟨file, hfile, haside⟩ := hreads path (FileScope.ofFile c.crateName c.sourceRoot path)
  exact ⟨file, by rw [sourceFile, hread]; exact hfile, haside⟩

/-- The text of a program without arguments in its paths reads aside, if nothing formats it. -/
theorem readsAside_of_isPlain {program : Program}
    (h : Program.ofHandler target.1 target.2 = .ok program) (hnone : c.formatter = none)
    (hplain : program.isPlain = true) : Program.ReadsAside (c.entryText target program) := by
  rw [entryText_of_none hnone]
  exact Program.readsAside (isPlaceable_of_ofHandler h) hplain c.policy

theorem scope_of_ofText {scope text : String} {file : SourceFile}
    (h : SourceFile.ofText path scope text = .ok file) : file.scope = scope := by
  unfold SourceFile.ofText at h
  split at h
  · cases h
    rfl
  · cases h

/-- The catalogue of a module with such scopes is that of files of module paths. -/
theorem HasModuleScopes.exists_files {catalog : TaggedCatalog} (H : c.HasModuleScopes t modules)
    (hname : name ∈ modules) (h : c.moduleCatalog t name = .ok catalog) :
    ∃ files : List SourceFile, (∀ file ∈ files, file.HasModuleScope) ∧
      catalog = ⟨c.owner, Catalog.ofFiles files⟩ := by
  obtain ⟨paths, hpaths, h⟩ := Results.bind_eq_ok.mp h
  obtain ⟨files, hfiles, h⟩ := Results.bind_eq_ok.mp h
  cases h
  refine ⟨files, fun file hfile => ?_, rfl⟩
  obtain ⟨path, hpath, hread⟩ :=
    Results.exists_of_mem_mapM (Results.mapError_eq_ok.mp hfiles) hfile
  unfold sourceFile at hread
  split at hread
  · rw [SourceFile.HasModuleScope, scope_of_ofText hread]
    exact H name hname paths (Results.mapError_eq_ok.mp hpaths) path hpath
  · cases hread

/-- Where scopes are paths of identifiers, no path of an entry point has arguments. -/
theorem HasModuleScopes.isPlain {program : Program} (H : c.HasModuleScopes t modules)
    (htarget : target ∈ c.targets t modules)
    (h : Program.ofHandler target.1 target.2 = .ok program) : program.isPlain = true := by
  obtain ⟨name, hname, outcome, catalog, hcatalog, hbuild, hservice, hhandler⟩ :=
    exists_build_of_mem_targets htarget
  obtain ⟨files, hscopes, rfl⟩ := H.exists_files hname hcatalog
  exact TaggedCatalog.isPlain_of_build hscopes hbuild hservice hhandler h

theorem SparesSources.readsAside {program : Program} (H : c.SparesSources t modules)
    (hname : name ∈ modules) (hfinds : c.FindsEntryPoint t modules name path target)
    (h : Program.ofHandler target.1 target.2 = .ok program) :
    Program.ReadsAside (c.entryText target program) := by
  rcases H.readable name hname path target program hfinds h with ⟨hnone, hscopes | hplain⟩ | hreads
  · exact readsAside_of_isPlain h hnone (hscopes.isPlain hfinds.isTarget h)
  · exact readsAside_of_isPlain h hnone hplain
  · exact hreads

/-- An entry point that a module finds says nothing about services. -/
theorem FindsEntryPoint.exists_sourceFile (hrun : (c.run t modules).result = .ok summary)
    (hspares : c.SparesSources t modules) (hname : name ∈ modules)
    (H : c.FindsEntryPoint t modules name path target) :
    ∃ file, c.sourceFile (c.run t modules).tree path = .ok file ∧
      ∀ d ∈ file.declarations, d.IsAside (c.Overlays t modules name) := by
  obtain ⟨program, hprogram, hread⟩ := H.exists_read? hrun
  obtain ⟨file, hfile, haside⟩ :=
    sourceFile_of_readsAside hread (hspares.readsAside hname H hprogram)
  refine ⟨file, hfile, fun d hd => ?_⟩
  exact (haside d hd).imp fun scope imported h => ⟨⟨path, target, H, h.1⟩, h.2⟩

/-! ### Reading the modules again -/

/-- A module fails as before, or its catalogue has no more in it than what is beside services. -/
theorem moduleCatalog_run (hproper : t.IsProper) (hrun : (c.run t modules).result = .ok summary)
    (H : c.SparesSources t modules) (hname : name ∈ modules) :
    (∃ fault, c.moduleCatalog t name = .error fault ∧
      c.moduleCatalog (c.run t modules).tree name = .error fault) ∨
      ∃ catalog catalog', c.moduleCatalog t name = .ok ⟨c.owner, catalog⟩ ∧
        c.moduleCatalog (c.run t modules).tree name = .ok ⟨c.owner, catalog'⟩ ∧
          Broadens (c.Overlays t modules name) catalog catalog' := by
  unfold moduleCatalog
  rcases sourceFiles_run hproper hrun (H.missing name hname) with
    ⟨fault, hold, hnew⟩ | ⟨paths, paths', hold, hnew, hpaths⟩
  · exact .inl ⟨_, by rw [hold]; rfl, by rw [hnew]; rfl⟩
  · have hkeep : ∀ path ∈ paths,
        c.sourceFile (c.run t modules).tree path = c.sourceFile t path := fun path hpath => by
      rw [sourceFile, H.sources name hname paths hold path hpath, sourceFile]
    rw [hold, hnew]
    rcases hpaths.mapM hkeep fun path ⟨target, hfinds⟩ =>
        hfinds.exists_sourceFile hrun H hname with
      ⟨fault, hfiles, hfiles'⟩ | ⟨files, files', hfiles, hfiles', hmore⟩
    · exact .inl ⟨.declaration fault, by simp only [Except.mapError, bind, Except.bind, hfiles],
        by simp only [Except.mapError, bind, Except.bind, hfiles']⟩
    · refine .inr ⟨Catalog.ofFiles files, Catalog.ofFiles files', ?_, ?_,
        Catalog.broadens_ofFiles hmore⟩
      · simp only [Except.mapError, bind, Except.bind, hfiles]
        rfl
      · simp only [Except.mapError, bind, Except.bind, hfiles']
        rfl

/-- A module gives the same as before. -/
theorem moduleOutcome_run (hproper : t.IsProper) (hrun : (c.run t modules).result = .ok summary)
    (H : c.SparesSources t modules) (hname : name ∈ modules) :
    (c.moduleOutcome (c.run t modules).tree name).2 = (c.moduleOutcome t name).2 := by
  unfold moduleOutcome
  rcases moduleCatalog_run hproper hrun H hname with
    ⟨fault, hold, hnew⟩ | ⟨catalog, catalog', hold, hnew, hbroadens⟩
  · rw [hold, hnew]
  · have hspares := H.imports name hname _ _ hold hnew
    have hbuild : (TaggedCatalog.mk c.owner catalog').build =
        (TaggedCatalog.mk c.owner catalog).build :=
      TaggedCatalog.build_of_broadens hbroadens hspares
    rw [hold, hnew]
    dsimp only
    rw [hbuild]

/-! ### Entry points read as modules -/

/-- The programs of the handlers that a run accepts have no arguments in their paths. -/
def hasPlainPrograms (c : RunConfig) (t : Tree) (modules : List String) : Bool :=
  (c.targets t modules).all fun target =>
    (Program.ofHandler target.1 target.2).toOption.all (·.isPlain)

theorem isPlain_of_hasPlainPrograms {program : Program}
    (hplain : c.hasPlainPrograms t modules = true) (htarget : target ∈ c.targets t modules)
    (hprogram : Program.ofHandler target.1 target.2 = .ok program) : program.isPlain = true := by
  have h := List.all_eq_true.mp hplain target htarget
  rwa [hprogram] at h

/-- After a run the path of the entry point of a handler reads the text that is left of its program. -/
theorem read?_entryPointPath (hsound : t.Sound) (hrun : (c.run t modules).result = .ok summary)
    (htarget : target ∈ c.targets t modules) :
    ∃ program, Program.ofHandler target.1 target.2 = .ok program ∧
      (c.run t modules).tree.read? (c.entryPointPath target) =
        some (c.entryText target program) := by
  obtain ⟨program, hprogram, houtput⟩ := exists_entryPoint hrun htarget
  exact ⟨program, hprogram, (writes_of_run hrun).2.read? hsound houtput⟩

/-- What the files of a module are read as decides its outcome. -/
theorem moduleOutcome_of_files {files : List SourceFile}
    (hpaths : t.sourceFiles (c.modulePath name) = .ok paths)
    (hfiles : paths.mapM (c.sourceFile t) = .ok files) : (c.moduleOutcome t name).2 =
      (TaggedCatalog.build ⟨c.owner, Catalog.ofFiles files⟩).mapError .declaration := by
  have hcatalog : c.moduleCatalog t name = .ok ⟨c.owner, Catalog.ofFiles files⟩ := by
    unfold moduleCatalog
    rw [hpaths]
    simp only [Except.mapError, bind, Except.bind, hfiles]
    rfl
  delta moduleOutcome
  simp only [hcatalog]

/-- There is nothing in a module of texts that read aside. -/
theorem moduleOutcome_of_readsAside (hpaths : t.sourceFiles (c.modulePath name) = .ok paths)
    (h : ∀ path ∈ paths, ∃ text, t.read? path = some text ∧ Program.ReadsAside text) :
    (c.moduleOutcome t name).2 = .ok ⟨[], []⟩ := by
  have hread : ∀ path, (∃ text, t.read? path = some text ∧ Program.ReadsAside text) →
      ∃ file, c.sourceFile t path = .ok file ∧
        ∀ d ∈ file.declarations, d.IsAside fun _ _ => True := by
    rintro path ⟨text, htext, hreads⟩
    obtain ⟨file, hfile, haside⟩ := sourceFile_of_readsAside htext hreads
    exact ⟨file, hfile, fun d hd => (haside d hd).imp fun _ _ _ => trivial⟩
  -- The catalogue of such a module broadens the empty one.
  obtain ⟨fault, hnone, _⟩ | ⟨files, files', hnone, hfiles, hmore⟩ :=
    (Interspersed.of_forall h).mapM (f := c.sourceFile t) nofun hread
  · cases hnone
  · cases hnone
    have hbuild : (TaggedCatalog.mk c.owner (Catalog.ofFiles files')).build =
        (TaggedCatalog.mk c.owner (Catalog.ofFiles [])).build :=
      TaggedCatalog.build_of_broadens (Catalog.broadens_ofFiles hmore)
        (Catalog.spares_of_writtenNames nofun)
    rw [moduleOutcome_of_files hpaths hfiles, hbuild]
    rfl

/-- After a run without a formatter there is nothing in a module of entry points. -/
theorem moduleOutcome_of_entryPoints (hsound : t.Sound)
    (hrun : (c.run t modules).result = .ok summary) (hnone : c.formatter = none)
    (hplain : c.hasPlainPrograms t modules = true)
    (hpaths : (c.run t modules).tree.sourceFiles (c.modulePath name) =
      .ok ((c.targets t modules).map c.entryPointPath)) :
    (c.moduleOutcome (c.run t modules).tree name).2 = .ok ⟨[], []⟩ := by
  refine moduleOutcome_of_readsAside hpaths (List.forall_mem_map.mpr fun target htarget => ?_)
  obtain ⟨program, hprogram, hread⟩ := read?_entryPointPath hsound hrun htarget
  exact ⟨_, hread, readsAside_of_isPlain hprogram hnone
    (isPlain_of_hasPlainPrograms hplain htarget hprogram)⟩

/-- The entry point of a handler as a source file, from its tokens. -/
def entryFile? (c : RunConfig) (target : Service × Handler) : Option SourceFile := do
  let program ← (Program.ofHandler target.1 target.2).toOption
  let items ← TokenTree.read? (program.row c.policy) Grammar.file
  let path := c.entryPointPath target
  return ⟨path, FileScope.ofFile c.crateName c.sourceRoot path, items⟩

theorem sourceFile_entryPointPath {file : SourceFile} (hsound : t.Sound)
    (hrun : (c.run t modules).result = .ok summary) (hnone : c.formatter = none)
    (hplain : c.hasPlainPrograms t modules = true) (htarget : target ∈ c.targets t modules)
    (h : c.entryFile? target = some file) :
    c.sourceFile (c.run t modules).tree (c.entryPointPath target) = .ok file := by
  obtain ⟨program, hprogram, hread⟩ := read?_entryPointPath hsound hrun htarget
  have hplain := isPlain_of_hasPlainPrograms hplain htarget hprogram
  rw [entryFile?, hprogram] at h
  obtain ⟨_, ⟨⟩, h⟩ := Option.bind_eq_some_iff.mp h
  obtain ⟨items, hitems, hfile⟩ := Option.bind_eq_some_iff.mp h
  rw [sourceFile, hread, ← Option.some.inj hfile, entryText_of_none hnone]
  exact Program.ofText_text hplain hitems _ _

/-- After a run the entry points are read as their tokens say. -/
theorem mapM_sourceFile_entryPointPath {files : List SourceFile} (hsound : t.Sound)
    (hrun : (c.run t modules).result = .ok summary) (hnone : c.formatter = none)
    (hplain : c.hasPlainPrograms t modules = true)
    (h : (c.targets t modules).mapM c.entryFile? = some files) :
    ((c.targets t modules).map c.entryPointPath).mapM (c.sourceFile (c.run t modules).tree) =
      .ok files := by
  have hread : ∀ targets ⊆ c.targets t modules, ∀ files, targets.mapM c.entryFile? = some files →
      (targets.map c.entryPointPath).mapM (c.sourceFile (c.run t modules).tree) = .ok files := by
    intro targets
    induction targets with
    | nil =>
      rintro - files ⟨⟩
      rfl
    | cons target targets ih =>
      intro hsub files h
      obtain ⟨htarget, htargets⟩ := List.cons_subset.mp hsub
      rw [List.mapM_cons] at h
      obtain ⟨file, hfile, h⟩ := Option.bind_eq_some_iff.mp h
      obtain ⟨rest, hrest, h⟩ := Option.bind_eq_some_iff.mp h
      cases h
      rw [List.map_cons, List.mapM_cons, sourceFile_entryPointPath hsound hrun hnone hplain htarget hfile,
        ih htargets rest hrest]
      rfl
  exact hread _ (List.Subset.refl _) files h

/-! ### Runs that can be repeated -/

/-- If a run is done, a second one over the tree that it left is done with the same summary, and
every place shows the same afterwards. -/
def Repeats (c : RunConfig) (t : Tree) (modules : List String) : Prop :=
  ∀ summary, (c.run t modules).result = .ok summary →
    (c.run (c.run t modules).tree modules).result = .ok summary ∧
      ∀ place, Tree.entry? (c.run (c.run t modules).tree modules).tree place =
        Tree.entry? (c.run t modules).tree place

/-- **A run can be repeated** if it leaves what it reads as it was. -/
theorem repeats_of_sparesSources (hproper : t.IsProper) (H : c.SparesSources t modules) :
    c.Repeats t modules := by
  intro summary hrun
  obtain ⟨hrendered, hwrites⟩ := writes_of_run hrun
  obtain ⟨hregistry, hsummary⟩ :
      (c.gather t modules).Equal (c.gather (c.run t modules).tree modules) :=
    Gathering.Equal.foldl ⟨rfl, rfl⟩ fun name hname => moduleOutcome_run hproper hrun H hname
  have hagain := writeUnits_of_read? (c := c) (t := (c.run t modules).tree)
    ((c.targets t modules).map c.unitOf)
    (List.forall_mem_map.mpr fun target => isPlain_location_of_mem_targets) hrendered
    fun file hfile => hwrites.read? hproper.sound (by rwa [List.flatMap_map] at hfile)
  rw [← unitFiles_gather, ← hregistry] at hagain
  obtain ⟨hresult, htree⟩ := run_of_writeUnits hagain.1
  obtain ⟨_, _, rfl⟩ := run_eq_ok hrun
  rw [hresult, htree, hregistry, hsummary]
  have hsame := hregistry ▸ hagain.2
  exact ⟨rfl, hsame.entry?⟩

/-- A tree with a source file two directories deep. -/
def holding (source : String) : Tree where
  entries := [(["m"], .directory), (["m", "S_h"], .directory),
    (["m", "S_h", "main.rs"], .text source)]
  working := []

theorem isProper_holding (source : String) : (holding source).IsProper where
  sound := by
    refine Tree.sound_of_entries (fun e he => ?_) rfl
    simp only [holding, List.mem_cons, List.not_mem_nil, or_false] at he
    rcases he with rfl | rfl | rfl <;> rfl
  distinct := by
    show [["m"], ["m", "S_h"], ["m", "S_h", "main.rs"]].Nodup
    decide
  working := nofun

/-- A run in the working directory that writes into a directory of the given name. -/
def into (output : String) : RunConfig := ⟨"", output, "g", "hr", .respond, none⟩

/-- A service with one handler. -/
def oneHandler : String := "///g:service\nstruct S;impl S\x7b///g:service_init\n" ++
  "fn n()->Result<S,Error>\x7b\x7d///g:handler GET /a\nfn h(&self,c:&Context)->u8\x7b\x7d\x7d"

/-- A service with one handler, whose path variable has the type of an alias. -/
def aliased (name : String) : String := "///g:service\nstruct S;impl S\x7b///g:service_init\n" ++
  "fn n()->Result<S,Error>\x7b\x7d///g:handler GET /\x7bi\x7d\n" ++
  "fn h(&self,c:&Context,q:Q)->u8\x7b\x7d\x7dtype " ++ name ++
  "=u64;struct Q\x7b///g:pathvar\ni:" ++ name ++ "\x7d"

/-- A run that writes into the module that it reads. -/
theorem repeats_of_sparesSources_aliased :
    (holding (aliased "Id")).IsProper ∧
      (into "m/out").SparesSources (holding (aliased "Id")) ["m"] ∧
      ((into "m/out").run (holding (aliased "Id")) ["m"]).result = .ok ⟨1, 0, 1, 1, 0, 1⟩ ∧
      ((into "m/out").run (holding (aliased "Id")) ["m"]).tree.sourceFiles "m" =
        .ok ["m/S_h/main.rs", "m/out/S_h/main.rs"] ∧
      (into "m/out").Repeats (holding (aliased "Id")) ["m"] := by
  obtain ⟨hrun, hlist, hlists, hread, hnames, hscope⟩ :
      ((into "m/out").run (holding (aliased "Id")) ["m"]).result.toOption =
          some ⟨1, 0, 1, 1, 0, 1⟩ ∧
        (holding (aliased "Id")).listsSources "m" [["S_h", "main.rs"]] = true ∧
        ((into "m/out").run (holding (aliased "Id")) ["m"]).tree.listsSources "m"
          [["S_h", "main.rs"], ["out", "S_h", "main.rs"]] = true ∧
        ((into "m/out").run (holding (aliased "Id")) ["m"]).tree.read? "m/S_h/main.rs" =
          (holding (aliased "Id")).read? "m/S_h/main.rs" ∧
        (((into "m/out").moduleCatalog (holding (aliased "Id")) "m").toOption.all fun catalog =>
          catalog.catalog.writtenNames.all fun written =>
            !Program.importedNames.contains written.2) = true ∧
        FileScope.ofFile "hr" (into "m/out").sourceRoot "m/S_h/main.rs" = "hr" := by decide +kernel
  have hpaths : ∀ name ∈ ["m"], ∀ paths,
      (holding (aliased "Id")).sourceFiles ((into "m/out").modulePath name) = .ok paths →
        ∀ path ∈ paths, path = "m/S_h/main.rs" := fun name hname paths hpaths path hpath => by
    cases List.mem_singleton.mp hname
    cases (Tree.sourceFiles_of_listsSources hlist (by decide)).symm.trans hpaths
    exact List.mem_singleton.mp hpath
  have hscopes : (into "m/out").HasModuleScopes (holding (aliased "Id")) ["m"] :=
    fun name hname paths hfound path hpath => by
      rw [hpaths name hname paths hfound path hpath]
      exact ⟨[⟨⟨"hr", by decide⟩, by decide⟩], List.cons_ne_nil _ _, hscope⟩
  have hspares : (into "m/out").SparesSources (holding (aliased "Id")) ["m"] :=
    { missing := fun name hname hnone => by
        cases List.mem_singleton.mp hname
        cases hnone
      sources := fun name hname paths hfound path hpath => by
        rw [hpaths name hname paths hfound path hpath]
        exact hread
      imports := fun name hname catalog catalog' hcatalog _ => by
        cases List.mem_singleton.mp hname
        rw [hcatalog] at hnames
        refine Catalog.spares_of_writtenNames fun written hwritten ⟨_, himported⟩ => ?_
        have hfree := List.all_eq_true.mp hnames written hwritten
        rw [List.contains_iff_mem.mpr himported] at hfree
        cases hfree
      readable := fun _ _ _ _ _ _ _ => .inl ⟨rfl, .inl hscopes⟩ }
  exact ⟨isProper_holding _, hspares, Results.eq_ok_of_toOption hrun,
    Tree.sourceFiles_of_listsSources hlists (by decide),
    repeats_of_sparesSources (isProper_holding _) hspares⟩

/-! ### Runs that cannot be repeated -/

/-- The counts of a run that is done are those of the modules that it accepts. -/
theorem counts_of_run (hrun : (c.run t modules).result = .ok summary) :
    summary.modulesFailed + (Gathering.start.accepted c t modules).length = modules.length ∧
      summary.handlersRegistered =
        ((Gathering.start.accepted c t modules).map (Service.handlerCount ·.services)).sum := by
  have H := Gathering.accepts_foldl c t .start modules
  obtain ⟨_, _, rfl⟩ := run_eq_ok hrun
  exact ⟨H.modulesFailed.trans (Nat.zero_add _), H.handlersRegistered.trans (Nat.zero_add _)⟩

/-- A run that finds handlers cannot be repeated if no module has any afterwards. -/
theorem not_repeats_of_handlerCount (hrun : (c.run t modules).result = .ok summary)
    (hhandlers : summary.handlersRegistered ≠ 0)
    (h : ∀ name ∈ modules, ∀ outcome,
      (c.moduleOutcome (c.run t modules).tree name).2 = .ok outcome →
        Service.handlerCount outcome.services = 0) : ¬c.Repeats t modules := by
  intro hrepeats
  refine hhandlers ((counts_of_run (hrepeats summary hrun).1).2.trans ?_)
  refine List.sum_eq_zero_iff_forall_eq_nat.mpr (List.forall_mem_map.mpr fun outcome houtcome => ?_)
  obtain ⟨name, hname, hread⟩ := Gathering.exists_of_mem_accepted houtcome
  exact h name hname outcome hread

/-- A module with nothing in it does not fail. -/
theorem not_fails_of_nil {g : Gathering} (h : (c.moduleOutcome t name).2 = .ok ⟨[], []⟩) :
    ¬g.Fails c t name := by
  rintro (hread | ⟨hread, hrefused⟩)
  · cases h.symm.trans hread
  · cases h.symm.trans hread
    cases hrefused

/-- A run that finds handlers in one module and fails at another cannot be repeated if there is
nothing in the other afterwards. -/
theorem not_repeats_of_missing {first second : String}
    (hrun : (c.run t [first, second]).result = .ok summary) (hfailed : summary.modulesFailed = 1)
    (hhandlers : summary.handlersRegistered ≠ 0)
    (h : (c.moduleOutcome (c.run t [first, second]).tree second).2 = .ok ⟨[], []⟩) :
    ¬c.Repeats t [first, second] := by
  intro hrepeats
  obtain ⟨hcount, hsum⟩ := counts_of_run (hrepeats summary hrun).1
  obtain ⟨before, haccepted⟩ : ∃ before, Gathering.start.accepted c
      (c.run t [first, second]).tree [first, second] = before ++ [⟨[], []⟩] := by
    rw [Gathering.accepted, Gathering.accepted, if_neg (not_fails_of_nil h), h]
    exact ⟨_, rfl⟩
  rw [haccepted] at hcount hsum
  -- The other module is accepted, so the first one is not, and there are no handlers.
  cases before with
  | nil => exact hhandlers hsum
  | cons outcome before =>
    simp only [hfailed, List.length_append, List.length_cons, List.length_nil] at hcount
    omega

/-- A source file that stands where an entry point is written is gone afterwards. -/
theorem not_repeats_over_source : ¬(into "m").Repeats (holding oneHandler) ["m"] := by
  obtain ⟨hrun, hplain, hpaths⟩ :
      ((into "m").run (holding oneHandler) ["m"]).result.toOption = some ⟨1, 0, 1, 1, 0, 1⟩ ∧
        (into "m").hasPlainPrograms (holding oneHandler) ["m"] = true ∧
        (((into "m").run (holding oneHandler) ["m"]).tree.sourceFiles "m").toOption =
          some (((into "m").targets (holding oneHandler) ["m"]).map (into "m").entryPointPath) := by
    decide +kernel
  have hrun := Results.eq_ok_of_toOption hrun
  have hnone : ((into "m").moduleOutcome ((into "m").run (holding oneHandler) ["m"]).tree "m").2 =
      .ok ⟨[], []⟩ := moduleOutcome_of_entryPoints (isProper_holding _).sound hrun rfl hplain
    (Results.eq_ok_of_toOption hpaths)
  refine not_repeats_of_handlerCount hrun (by decide) fun name hname outcome hread => ?_
  cases List.mem_singleton.mp hname
  cases hnone.symm.trans hread
  rfl

/-- A module path that leads to the output is missing before and found afterwards. -/
theorem not_repeats_missing_output : ¬(into "out").Repeats (holding oneHandler) ["m", "out"] := by
  obtain ⟨hrun, hplain, hpaths⟩ :
      ((into "out").run (holding oneHandler) ["m", "out"]).result.toOption =
          some ⟨2, 1, 1, 1, 0, 1⟩ ∧
        (into "out").hasPlainPrograms (holding oneHandler) ["m", "out"] = true ∧
        (((into "out").run (holding oneHandler) ["m", "out"]).tree.sourceFiles "out").toOption =
          some (((into "out").targets (holding oneHandler) ["m", "out"]).map
            (into "out").entryPointPath) := by
    decide +kernel
  have hrun := Results.eq_ok_of_toOption hrun
  exact not_repeats_of_missing hrun rfl (by decide) (moduleOutcome_of_entryPoints
    (isProper_holding _).sound hrun rfl hplain (Results.eq_ok_of_toOption hpaths))

/-- An alias that has the name of an import of entry points is not found afterwards. -/
theorem not_repeats_captured_alias :
    ¬(into "m/out").Repeats (holding (aliased "Body")) ["m"] := by
  obtain ⟨hrun, hplain, htargets, hlists, hcount⟩ :
      ((into "m/out").run (holding (aliased "Body")) ["m"]).result.toOption =
          some ⟨1, 0, 1, 1, 0, 1⟩ ∧
        (into "m/out").hasPlainPrograms (holding (aliased "Body")) ["m"] = true ∧
        ((into "m/out").targets (holding (aliased "Body")) ["m"]).map
          (into "m/out").entryPointPath = ["m/out/S_h/main.rs"] ∧
        ((into "m/out").run (holding (aliased "Body")) ["m"]).tree.listsSources "m"
          [["S_h", "main.rs"], ["out", "S_h", "main.rs"]] = true ∧
        ((((into "m/out").targets (holding (aliased "Body")) ["m"]).mapM
          (into "m/out").entryFile?).bind fun files =>
            ((into "m/out").sourceFile ((into "m/out").run (holding (aliased "Body")) ["m"]).tree
              "m/S_h/main.rs").toOption.bind fun file =>
                (TaggedCatalog.build ⟨"g", .ofFiles (file :: files)⟩).toOption.map fun outcome =>
                  Service.handlerCount outcome.services) = some 0 := by
    decide +kernel
  have hrun := Results.eq_ok_of_toOption hrun
  have hpaths := Tree.sourceFiles_of_listsSources hlists (by decide)
  obtain ⟨files, hfiles, hcount⟩ := Option.bind_eq_some_iff.mp hcount
  obtain ⟨file, hfile, hcount⟩ := Option.bind_eq_some_iff.mp hcount
  obtain ⟨outcome, hbuild, hcount⟩ := Option.map_eq_some_iff.mp hcount
  have hentries := mapM_sourceFile_entryPointPath (isProper_holding _).sound hrun rfl hplain hfiles
  rw [htargets] at hentries
  have hfiles := Results.mapM_eq_ok.mpr
    (.cons (Results.eq_ok_of_toOption hfile) (Results.mapM_eq_ok.mp hentries))
  have hread : ((into "m/out").moduleOutcome
      ((into "m/out").run (holding (aliased "Body")) ["m"]).tree "m").2 =
        (TaggedCatalog.build ⟨"g", Catalog.ofFiles (file :: files)⟩).mapError .declaration :=
    moduleOutcome_of_files hpaths hfiles
  refine not_repeats_of_handlerCount hrun (by decide) fun name hname outcome' houtcome => ?_
  cases List.mem_singleton.mp hname
  rw [hread] at houtcome
  cases (Results.eq_ok_of_toOption hbuild).symm.trans (Results.mapError_eq_ok.mp houtcome)
  exact hcount

/-- Not every run can be repeated. -/
theorem not_repeats :
    (∀ source, (holding source).IsProper) ∧
      ¬(into "out").Repeats (holding oneHandler) ["m", "out"] ∧
      ¬(into "m").Repeats (holding oneHandler) ["m"] ∧
      ¬(into "m/out").Repeats (holding (aliased "Body")) ["m"] :=
  ⟨isProper_holding, not_repeats_missing_output, not_repeats_over_source,
    not_repeats_captured_alias⟩

end RunConfig

end Entrypoint
