import Entrypoint.Proofs.Files.DirectoryMaking
import Entrypoint.Proofs.Run.Output

/-! Writing that ends at an entry point that cannot be rendered. Such a unit is rendered before anything
of it is written, so a tree has then gained the files of the units before it and nothing else. The
directories of other units are as they were, but for those that the path of the output leads through
on its way up. -/

namespace Entrypoint

open Registry (handlersOf)

/-! ### Names -/

/-- The type of a service and its methods are named by identifiers. -/
structure Service.HasIdentNames (service : Service) : Prop where
  type : ∃ name : Ident, service.name = name.text
  method : ∀ handler ∈ service.handlers, ∃ name : Ident, handler.function = name.text

theorem Service.HasIdentNames.isPlain_location {service : Service} {handler : Handler}
    (H : service.HasIdentNames) (h : handler ∈ service.handlers) :
    Path.IsPlain (service.location handler) := by
  obtain ⟨type, htype⟩ := H.type
  obtain ⟨method, hmethod⟩ := H.method handler h
  rw [Service.location, htype, hmethod]
  exact Path.isPlain_underscore (.ofIdent type) (.ofIdent method)

/-- What a registry holds was registered in some batch. -/
theorem Registry.exists_batch_of_mem {r : Registry} {batches : List (List Service)} {service : Service}
    (h : service ∈ (r.registerAll batches).services) :
    service ∈ r.services ∨ ∃ batch ∈ batches, service ∈ batch := by
  induction batches generalizing r with
  | nil => exact .inl h
  | cons batch batches ih =>
    rcases ih (r := (r.register batch).1) h with h | ⟨later, hlater, h⟩
    · rcases Registry.register_cases r batch with ⟨fault, -, heq⟩ | ⟨-, heq⟩
      · rw [heq] at h
        exact .inl h
      · rw [heq, Registry.append, List.mem_append] at h
        exact h.imp_right fun h => ⟨batch, List.mem_cons_self, h⟩
    · exact .inr ⟨later, List.mem_cons_of_mem _ hlater, h⟩

namespace RunConfig

variable {c : RunConfig} {t : Tree} {location : String} {fault : RenderFault} {place : Place}

/-! ### Where writing stops -/

/-- A unit that cannot be rendered leaves the tree as it is. -/
theorem writeUnit_eq_error {unit : UnitFiles}
    (h : (c.writeUnit t unit).result = .error (.render location fault)) :
    unit.entryPoint = .error (.render location fault) ∧ (c.writeUnit t unit).tree = t := by
  obtain ⟨key, entryPoint, descriptor⟩ := unit
  delta writeUnit at h ⊢
  dsimp only at h ⊢
  cases entryPoint with
  | error found =>
    dsimp only at h ⊢
    exact ⟨congrArg Except.error (Except.error.inj h), rfl⟩
  | ok program =>
    -- Faults of writing are about paths.
    dsimp only at h
    generalize hfirst : t.write (Path.join c.outputRoot key) UnitFiles.entryPointName program = first at h
    obtain ⟨middle, result⟩ := first
    cases result with
    | error found =>
      cases h
      obtain ⟨path, ⟨⟩⟩ := Tree.write_eq_error (congrArg Prod.snd hfirst)
    | ok done =>
      cases done
      dsimp only at h
      obtain ⟨path, ⟨⟩⟩ := Tree.write_eq_error h

/-- Units are written up to the one that cannot be rendered. -/
theorem writeUnits_eq_error {units : List UnitFiles}
    (h : (c.writeUnits t units).result = .error (.render location fault)) :
    ∃ before unit after, units = before ++ unit :: after ∧
      unit.entryPoint = .error (.render location fault) ∧ (c.writeUnits t before).result = .ok () ∧
        (c.writeUnits t units).tree = (c.writeUnits t before).tree := by
  induction units generalizing t with
  | nil => cases h
  | cons unit units ih =>
    rw [writeUnits] at h ⊢
    cases hfirst : (c.writeUnit t unit).result with
    | error found =>
      simp only [hfirst] at h ⊢
      cases h
      obtain ⟨hentry, htree⟩ := writeUnit_eq_error hfirst
      exact ⟨[], unit, units, rfl, hentry, rfl, htree⟩
    | ok done =>
      simp only [hfirst] at h ⊢
      obtain ⟨before, failing, after, rfl, hentry, hresult, htree⟩ := ih h
      refine ⟨unit :: before, failing, after, rfl, hentry, ?_, ?_⟩
      · rw [writeUnits]
        simp only [hfirst]
        exact hresult
      · rw [htree, writeUnits]
        simp only [hfirst]

/-! ### What is written before -/

/-- Units that are written change their files, and else nothing but what the path of the output leads
through and their directories. -/
theorem entry?_writeUnits {units : List UnitFiles} (hkeys : ∀ unit ∈ units, Path.IsPlain unit.location)
    (h : (c.writeUnits t units).result = .ok ()) (hway : place ∉ t.wayOf c.outputRoot)
    (hdirectories : ∀ unit ∈ units, place ≠ t.placeOf c.outputRoot ++ [unit.location])
    (hfiles : ∀ unit ∈ units, ∀ name ∈ [UnitFiles.entryPointName, UnitFiles.descriptorName],
      place ≠ t.placeOf c.outputRoot ++ [unit.location, name]) :
    Tree.entry? (c.writeUnits t units).tree place = t.entry? place := by
  induction units generalizing t with
  | nil => rfl
  | cons unit units ih =>
    obtain ⟨hkey, hkeys⟩ := List.forall_mem_cons.mp hkeys
    obtain ⟨hdirectory, hdirectories⟩ := List.forall_mem_cons.mp hdirectories
    obtain ⟨hfile, hfiles⟩ := List.forall_mem_cons.mp hfiles
    rw [writeUnits] at h ⊢
    cases hfirst : (c.writeUnit t unit).result with
    | error found =>
      simp only [hfirst] at h
      cases h
    | ok done =>
      simp only [hfirst] at h ⊢
      obtain ⟨program, middle, -, hentry, hdescriptor⟩ := writeUnit_eq_ok hfirst
      have hmiddle := Tree.gains_write hkey UnitFiles.isPlain_entryPointName hentry
      have hgains := (writes_writeUnit hkey hfirst).2.gains
      have hkept : Tree.entry? (c.writeUnit t unit).tree place = t.entry? place := by
        rw [Tree.entry?_write hkey UnitFiles.isPlain_descriptorName hdescriptor
            (by rwa [hmiddle.wayOf_eq]) (by rwa [hmiddle.placeOf_eq])
            (by rw [hmiddle.placeOf_eq]; exact hfile _ (List.mem_cons_of_mem _ List.mem_cons_self)),
          Tree.entry?_write hkey UnitFiles.isPlain_entryPointName hentry hway hdirectory
            (hfile _ List.mem_cons_self)]
      rw [ih hkeys h (by rwa [hgains.wayOf_eq]) (by rwa [hgains.placeOf_eq])
        (by rwa [hgains.placeOf_eq]), hkept]

/-- The directory of a handler in the output. -/
def directoryOf (c : RunConfig) (t : Tree) (target : Service × Handler) : Place :=
  t.placeOf c.outputRoot ++ [target.1.location target.2]

/-- A tree has the output of some handlers and is otherwise as before. Others, whose turn would come
later, have nothing in it. -/
structure LeavesPrefix (c : RunConfig) (t tree : Tree) (written rest : List (Service × Handler)) :
    Prop where
  /-- A handler before has its entry point and its descriptor, and their paths lead to them. The entry
  point is what the formatter leaves of the rendered text, and that text if there is no formatter. -/
  files : ∀ target ∈ written, ∃ program text, target.1.render c.policy target.2 = .ok program ∧
    text = c.finished (Path.join (Path.join c.outputRoot (target.1.location target.2)) "main.rs")
      program ∧ (c.formatter = none → text = program) ∧
    ∀ file ∈ [("main.rs", text), ("spec.json", (RouteDescriptor.ofHandler target.1 target.2).text)],
      tree.entry? (c.directoryOf t target ++ [file.1]) = some (.text file.2) ∧
        (t.Sound → tree.read? (Path.join (Path.join c.outputRoot (target.1.location target.2)) file.1) =
          some file.2)
  /-- At no other place is there anything new but missing directories: those of the handlers before,
  and those that the path of the output leads through. -/
  other : ∀ place, (∀ target ∈ written, ∀ name ∈ ["main.rs", "spec.json"],
      place ≠ c.directoryOf t target ++ [name]) →
    tree.entry? place = t.entry? place ∨
      t.entry? place = none ∧ tree.entry? place = some .directory ∧
        (place ∈ t.wayOf c.outputRoot ∨ ∃ target ∈ written, place = c.directoryOf t target)
  /-- In the directories of the other handlers there is nothing new, but for missing directories that
  the path of the output leads through. -/
  spared : ∀ target ∈ rest, ∀ place, c.directoryOf t target <+: place →
    tree.entry? place = t.entry? place ∨
      t.entry? place = none ∧ tree.entry? place = some .directory ∧ place ∈ t.wayOf c.outputRoot
  /-- If the path of the output never goes up, there is nothing new in them. -/
  untouched : ".." ∉ Path.segments c.outputRoot → ∀ target ∈ rest, ∀ place,
    c.directoryOf t target <+: place → tree.entry? place = t.entry? place

variable {written rest : List (Service × Handler)} {target : Service × Handler}

theorem directoryOf_append (c : RunConfig) (t : Tree) (target : Service × Handler) (name : String) :
    c.directoryOf t target ++ [name] =
      t.placeOf c.outputRoot ++ [target.1.location target.2, name] := by
  rw [directoryOf, List.append_assoc]
  rfl

/-- A place is in the directories of handlers of one location only. -/
theorem location_eq_of_below {target' : Service × Handler} {below : List String}
    (h : c.directoryOf t target <+: c.directoryOf t target' ++ below) :
    target.1.location target.2 = target'.1.location target'.2 := by
  obtain ⟨after, heq⟩ := h
  rw [directoryOf, directoryOf, List.append_assoc, List.append_assoc] at heq
  exact (List.cons.inj (List.append_cancel_left heq)).1

theorem entry?_written (hkeys : ∀ target ∈ written, Path.IsPlain (target.1.location target.2))
    (hnodup : (written.map fun target => target.1.location target.2).Nodup)
    (h : (c.writeUnits t (written.map c.unitOf)).result = .ok ())
    (hplace : ∀ target ∈ written, ∀ name ∈ ["main.rs", "spec.json"],
      place ≠ c.directoryOf t target ++ [name]) :
    Tree.entry? (c.writeUnits t (written.map c.unitOf)).tree place = t.entry? place ∨
      t.entry? place = none ∧
        Tree.entry? (c.writeUnits t (written.map c.unitOf)).tree place = some .directory ∧
          (place ∈ t.wayOf c.outputRoot ∨ ∃ target ∈ written, place = c.directoryOf t target) := by
  have hplain : ∀ unit ∈ written.map c.unitOf, Path.IsPlain unit.location :=
    List.forall_mem_map.mpr hkeys
  by_cases hmade : place ∈ t.wayOf c.outputRoot ∨ ∃ target ∈ written, place = c.directoryOf t target
  · have hwrites := (writes_writeUnits hplain (by rwa [List.map_map]) h).2
    have hfree : place ∉ (((written.map c.unitOf).flatMap (·.below c)).map
        fun file => (t.placeOf file.1, file.2)).map (·.1) := by
      rw [List.map_map, List.mem_map]
      rintro ⟨file, hfile, rfl⟩
      obtain ⟨unit, hunit, hbelow⟩ := List.mem_flatMap.mp hfile
      obtain ⟨target, htarget, rfl⟩ := List.mem_map.mp hunit
      obtain ⟨name, hname, heq⟩ := UnitFiles.placeOf_below (t := t) (hkeys target htarget) hbelow
      exact hplace target htarget name hname (heq.trans (c.directoryOf_append t target name).symm)
    exact (hwrites.gains.other place hfree).imp_right fun hnew => ⟨hnew.1, hnew.2, hmade⟩
  · obtain ⟨hway, hdirectory⟩ := not_or.mp hmade
    refine .inl (entry?_writeUnits hplain h hway ?_ ?_)
    · rw [List.forall_mem_map]
      exact fun target htarget heq => hdirectory ⟨target, htarget, heq⟩
    · rw [List.forall_mem_map]
      intro target htarget name hname heq
      exact hplace target htarget name hname (heq.trans (c.directoryOf_append t target name).symm)

theorem files_written (hkeys : ∀ target ∈ written, Path.IsPlain (target.1.location target.2))
    (hnodup : (written.map fun target => target.1.location target.2).Nodup)
    (h : (c.writeUnits t (written.map c.unitOf)).result = .ok ()) (htarget : target ∈ written) :
    ∃ program text, target.1.render c.policy target.2 = .ok program ∧
      text = c.finished (Path.join (Path.join c.outputRoot (target.1.location target.2)) "main.rs")
        program ∧ (c.formatter = none → text = program) ∧ ∀ file ∈
      [("main.rs", text), ("spec.json", (RouteDescriptor.ofHandler target.1 target.2).text)],
      Tree.entry? (c.writeUnits t (written.map c.unitOf)).tree (c.directoryOf t target ++ [file.1]) =
        some (.text file.2) ∧
      (t.Sound → (c.writeUnits t (written.map c.unitOf)).tree.read?
        (Path.join (Path.join c.outputRoot (target.1.location target.2)) file.1) = some file.2) := by
  obtain ⟨hrendered, hwrites⟩ := writes_writeUnits (List.forall_mem_map.mpr hkeys)
    (by rwa [List.map_map]) h
  have hunit := List.mem_map_of_mem (f := c.unitOf) htarget
  obtain ⟨program, hprogram⟩ := hrendered _ hunit
  refine ⟨program, _, hprogram, rfl, fun hnone => finished_of_none hnone _ _, fun file hfile => ?_⟩
  have hplain : Path.IsPlain file.1 := by
    rcases List.mem_cons.mp hfile with rfl | hfile
    · exact UnitFiles.isPlain_entryPointName
    · rw [List.mem_singleton.mp hfile]
      exact UnitFiles.isPlain_descriptorName
  have hmem : (Path.join (Path.join c.outputRoot (target.1.location target.2)) file.1, file.2) ∈
      (written.map c.unitOf).flatMap (·.below c) := by
    refine List.mem_flatMap.mpr ⟨_, hunit, ?_⟩
    rw [UnitFiles.below, hprogram]
    exact List.mem_map_of_mem (f := fun file : String × String =>
      (Path.join (Path.join c.outputRoot (target.1.location target.2)) file.1, file.2)) hfile
  refine ⟨?_, fun hsound => hwrites.read? hsound hmem⟩
  have hentry := hwrites.gains.file _ (List.mem_map_of_mem hmem)
  rwa [hplain.placeOf_join, (hkeys target htarget).placeOf_join] at hentry

/-- Handlers that are written are left by themselves. -/
theorem leavesPrefix_of_writeUnits
    (hkeys : ∀ target ∈ written, Path.IsPlain (target.1.location target.2))
    (hnodup : ((written ++ rest).map fun target => target.1.location target.2).Nodup)
    (h : (c.writeUnits t (written.map c.unitOf)).result = .ok ()) :
    c.LeavesPrefix t (c.writeUnits t (written.map c.unitOf)).tree written rest := by
  rw [List.map_append, List.nodup_append] at hnodup
  obtain ⟨hnodup, -, hapart⟩ := hnodup
  have hspared : ∀ target ∈ rest, ∀ place, c.directoryOf t target <+: place →
      Tree.entry? (c.writeUnits t (written.map c.unitOf)).tree place = t.entry? place ∨
        t.entry? place = none ∧
          Tree.entry? (c.writeUnits t (written.map c.unitOf)).tree place = some .directory ∧
            place ∈ t.wayOf c.outputRoot := by
    intro target htarget place hplace
    -- No place below one handler's directory is another handler's file or directory.
    have hother : ∀ target' ∈ written, ∀ below, place ≠ c.directoryOf t target' ++ below := by
      rintro target' htarget' below rfl
      exact hapart _ (List.mem_map_of_mem htarget') _ (List.mem_map_of_mem htarget)
        (location_eq_of_below hplace).symm
    refine (entry?_written hkeys hnodup h fun target' htarget' name _ =>
      hother target' htarget' [name]).imp_right fun hnew => ⟨hnew.1, hnew.2.1, ?_⟩
    refine hnew.2.2.resolve_right ?_
    rintro ⟨target', htarget', heq⟩
    exact hother target' htarget' [] (heq.trans (List.append_nil _).symm)
  refine ⟨fun target htarget => files_written hkeys hnodup h htarget,
    fun place hplace => entry?_written hkeys hnodup h hplace, hspared,
    fun hup target htarget place hplace => (hspared target htarget place hplace).resolve_right ?_⟩
  rintro ⟨-, -, hway⟩
  obtain ⟨after, heq⟩ := hplace.trans (Place.prefix_of_mem_way hup hway)
  have hlength := congrArg List.length heq
  rw [directoryOf, List.length_append, List.length_append, List.length_singleton] at hlength
  exact absurd hlength (by change _ ≠ (t.placeOf c.outputRoot).length; omega)

theorem exists_leavesPrefix {r : Registry} (hwhole : r.Whole)
    (hkeys : ∀ target ∈ handlersOf r.services, Path.IsPlain (target.1.location target.2))
    (h : (c.write t r).result = .error (.render location fault)) :
    ∃ written service handler rest,
      handlersOf r.services = written ++ (service, handler) :: rest ∧
      service.render c.policy handler = .error (.render location fault) ∧
      c.LeavesPrefix t (c.write t r).tree written ((service, handler) :: rest) := by
  have hunits : r.unitFiles c.policy = (handlersOf r.services).map c.unitOf := by
    rw [hwhole.eq_ofServices, Registry.unitFiles_ofServices]
    rfl
  have hlocations : ((handlersOf r.services).map
      fun target => target.1.location target.2).Nodup := by
    have hnodup := hwhole.locations
    rwa [hwhole.eq_ofServices] at hnodup
  have hresult : (c.writeUnits t ((handlersOf r.services).map c.unitOf)).result =
      .error (.render location fault) := by
    rw [← hunits]
    exact Results.map_eq_error.mp h
  have htree : (c.write t r).tree =
      (c.writeUnits t ((handlersOf r.services).map c.unitOf)).tree := by
    rw [← hunits]
    rfl
  obtain ⟨before, unit, after, hsplit, hentry, hbefore, hleft⟩ := writeUnits_eq_error hresult
  obtain ⟨written, following, htargets, rfl, hfollowing⟩ := List.map_eq_append_iff.mp hsplit
  obtain ⟨⟨service, handler⟩, rest, rfl, rfl, rfl⟩ := List.map_eq_cons_iff.mp hfollowing
  refine ⟨written, service, handler, rest, htargets, hentry, ?_⟩
  rw [htree, hleft]
  rw [htargets] at hkeys hlocations
  exact leavesPrefix_of_writeUnits
    (fun target htarget => hkeys target (List.mem_append_left _ htarget)) hlocations hbefore

/-- **Writing stops at a fault of rendering.** The handlers before it have their files, complete. No
file of the handler itself or of a later one is new or changed, and neither is a directory of theirs,
unless it was missing and the path of the output leads through it and up again. -/
theorem leavesPrefix_of_write {batches : List (List Service)}
    (hnames : ∀ batch ∈ batches, ∀ service ∈ batch, service.HasIdentNames)
    (h : (c.write t (Registry.empty.registerAll batches)).result = .error (.render location fault)) :
    ∃ written service handler rest,
      (Registry.empty.registerAll batches).units.map (Registry.empty.registerAll batches).target? =
        (written ++ (service, handler) :: rest).map some ∧
      service.location handler = location ∧
      service.render c.policy handler = .error (.render location fault) ∧
      c.LeavesPrefix t (c.write t (Registry.empty.registerAll batches)).tree written
        ((service, handler) :: rest) := by
  have hwhole := Registry.Whole.empty.registerAll batches
  have hkeys : ∀ target ∈ handlersOf (Registry.empty.registerAll batches).services,
      Path.IsPlain (target.1.location target.2) := by
    intro target htarget
    obtain ⟨service, hservice, htarget⟩ := List.mem_flatMap.mp htarget
    obtain ⟨handler, hhandler, rfl⟩ := List.mem_map.mp htarget
    rcases Registry.exists_batch_of_mem hservice with hnone | ⟨batch, hbatch, hservice⟩
    · cases hnone
    · exact (hnames batch hbatch service hservice).isPlain_location hhandler
  obtain ⟨written, service, handler, rest, htargets, hrender, H⟩ := exists_leavesPrefix hwhole hkeys h
  have hlocation : service.location handler = location := by
    obtain ⟨_, -, heq⟩ := Results.mapError_eq_error.mp (Results.map_eq_error.mp hrender)
    cases heq
    rfl
  exact ⟨written, service, handler, rest, hwhole.consistent.targets.trans (congrArg _ htargets),
    hlocation, hrender, H⟩

/-! ### A service whose second handler takes a struct from the path -/

namespace Sample

def plain : Handler := ⟨.get, "/a", none, "a", false, .byValue, .plain⟩

def structVariable : Variable := ⟨"x", .struct ⟨"s", "T"⟩, "x"⟩

def failing : Handler :=
  ⟨.get, "/b", some ⟨⟨"s", "R"⟩, [structVariable], [], none, false⟩, "b", false, .byValue, .plain⟩

def halting : Service := ⟨⟨"s", "S"⟩, [], ⟨⟨"s", "n"⟩, true, false⟩, [plain, failing]⟩

/-- A tree without files. -/
def bare : Tree := ⟨[], []⟩

theorem halting_hasIdentNames : ∀ batch ∈ [[halting]], ∀ service ∈ batch, service.HasIdentNames := by
  simp only [List.forall_mem_singleton]
  refine ⟨⟨⟨⟨"S", by decide⟩, by decide⟩, rfl⟩, ?_⟩
  simp only [halting, List.forall_mem_cons]
  exact ⟨⟨⟨⟨"a", by decide⟩, by decide⟩, rfl⟩, ⟨⟨⟨"b", by decide⟩, by decide⟩, rfl⟩,
    List.forall_mem_nil _⟩

theorem write_halting : (inPlace.write bare (Registry.empty.registerAll [[halting]])).result =
    .error (.render "S_b" (.notScalar "path" "x")) := by
  decide +kernel

/-- The first handler has its files, and the tree is otherwise bare but for the directories they are
in. -/
theorem leavesPrefix_of_write_halting :
    (∀ batch ∈ [[halting]], ∀ service ∈ batch, service.HasIdentNames) ∧
    (inPlace.write bare (Registry.empty.registerAll [[halting]])).result =
      .error (.render "S_b" (.notScalar "path" "x")) ∧
    ∃ written service handler rest,
      (Registry.empty.registerAll [[halting]]).units.map
          (Registry.empty.registerAll [[halting]]).target? =
        (written ++ (service, handler) :: rest).map some ∧
      service.location handler = "S_b" ∧
      service.render inPlace.policy handler = .error (.render "S_b" (.notScalar "path" "x")) ∧
      inPlace.LeavesPrefix bare (inPlace.write bare (Registry.empty.registerAll [[halting]])).tree
        written ((service, handler) :: rest) :=
  ⟨halting_hasIdentNames, write_halting, leavesPrefix_of_write halting_hasIdentNames write_halting⟩

/-- The output goes by way of the directory of the second handler. -/
def crossing : RunConfig := { inPlace with outputDirectory := "S_b/.." }

/-- A directory of the handler that cannot be rendered may be new. -/
theorem not_untouched_crossing : ¬∀ (c : RunConfig) (t : Tree) (batches : List (List Service))
    (location : String) (fault : RenderFault),
    (∀ batch ∈ batches, ∀ service ∈ batch, service.HasIdentNames) →
    (c.write t (Registry.empty.registerAll batches)).result = .error (.render location fault) →
    ∀ place, t.placeOf c.outputRoot ++ [location] <+: place →
      Tree.entry? (c.write t (Registry.empty.registerAll batches)).tree place = t.entry? place := by
  intro h
  have hresult : (crossing.write bare (Registry.empty.registerAll [[halting]])).result =
      .error (.render "S_b" (.notScalar "path" "x")) := by decide +kernel
  have hroot : bare.placeOf crossing.outputRoot = [] := by decide +kernel
  have hnew : Tree.entry? (crossing.write bare (Registry.empty.registerAll [[halting]])).tree ["S_b"] =
      some .directory := by decide +kernel
  have hsame := h crossing bare [[halting]] _ _ halting_hasIdentNames hresult ["S_b"]
    (by rw [hroot]; exact List.prefix_rfl)
  cases hsame.symm.trans hnew

end Sample

end RunConfig

end Entrypoint
