import Entrypoint.Run.Writing
import Mathlib.Data.List.Induction
import Mathlib.Data.List.Nodup
import Mathlib.Data.Option.Basic

/-! The tables of a registry stay in step. Whatever batches are registered, in whatever order, and
whichever of them are refused, the registry holds a list of services and, besides it, only what
follows from that list (`Registry.ofServices`). All that is said of units, locations and routes
comes from this one fact and from the freshness that a batch is checked for. -/

namespace Entrypoint

/-- The units of a service that comes at the given place. -/
def Service.units (service : Service) (place : Nat) : List OutputUnit :=
  service.handlers.mapIdx fun i handler => ⟨service.location handler, place, i⟩

namespace Registry

variable {r : Registry} {services batch first second : List Service}

/-- Registers batches one after the other. A batch that is refused leaves the registry as it is. -/
def registerAll (r : Registry) (batches : List (List Service)) : Registry :=
  batches.foldl (fun r batch => (r.register batch).1) r

/-- The handlers of services, each with its service. -/
def handlersOf (services : List Service) : List (Service × Handler) :=
  services.flatMap fun service => service.handlers.map (service, ·)

/-- The route of the handler that a unit waits for. -/
def route? (r : Registry) (unit : OutputUnit) : Option Route :=
  (r.target? unit).map fun target => target.1.route target.2

/-- The registry that holds the given services and nothing else. -/
def ofServices (services : List Service) : Registry where
  services := services
  units := (services.mapIdx fun place service => service.units place).flatten
  locations := (handlersOf services).map fun target => target.1.location target.2
  routes := (handlersOf services).map fun target => target.1.route target.2

/-! ### What a batch adds -/

/-- A registry with the services of a batch, their units, and what these take, put behind. -/
def append (r : Registry) (batch : List Service) : Registry where
  services := r.services ++ batch
  units := r.units ++ (batch.mapIdx fun i service => service.units (r.services.length + i)).flatten
  locations := r.locations ++ (batch.flatMap (·.holdings)).map (·.location)
  routes := r.routes ++ (batch.flatMap (·.holdings)).map (·.route)

theorem append_append (r : Registry) (first second : List Service) :
    (r.append first).append second = r.append (first ++ second) := by
  simp [append, List.mapIdx_append, Nat.add_assoc, Nat.add_comm first.length]

theorem append_ofServices (services batch : List Service) :
    (ofServices services).append batch = ofServices (services ++ batch) := by
  simp [append, ofServices, handlersOf, Service.holdings, List.mapIdx_append, List.map_flatMap,
    Nat.add_comm, Function.comp_def]

theorem foldl_addUnit (service : Service) (place : Nat) (r : Registry) (handlers : List Handler)
    (index count : Nat) : (handlers.zipIdx index).foldl (addUnit service place) (r, count) =
      ({ r with
          units := r.units ++ handlers.mapIdx fun i handler =>
            ⟨service.location handler, place, index + i⟩
          locations := r.locations ++ handlers.map service.location
          routes := r.routes ++ handlers.map service.route }, count + handlers.length) := by
  induction handlers generalizing r index count with
  | nil => simp
  | cons handler handlers ih =>
    rw [List.zipIdx_cons, List.foldl_cons, addUnit, ih]
    simp [List.mapIdx_cons, Nat.add_assoc, Nat.add_comm 1]

theorem addService_eq (r : Registry) (service : Service) (count : Nat) :
    addService (r, count) service = (r.append [service], count + service.handlers.length) := by
  rw [addService, foldl_addUnit]
  simp [append, Service.units, Service.holdings, Function.comp_def]

/-- A batch that is added is put behind, and its handlers are counted. -/
theorem foldl_addService (r : Registry) (batch : List Service) (count : Nat) :
    batch.foldl addService (r, count) =
      (r.append batch, count + (batch.flatMap (·.handlers)).length) := by
  induction batch generalizing r count with
  | nil => simp [append]
  | cons service batch ih =>
    rw [List.foldl_cons, addService_eq, ih, append_append]
    simp [Nat.add_assoc]

/-- All that registering a batch can do. -/
theorem register_cases (r : Registry) (batch : List Service) :
    (∃ fault, firstConflict? r.locations r.routes (batch.flatMap (·.holdings)) = some fault ∧
        r.register batch = (r, .error fault)) ∨
      firstConflict? r.locations r.routes (batch.flatMap (·.holdings)) = none ∧
        r.register batch = (r.append batch, .ok (batch.flatMap (·.handlers)).length) := by
  unfold register
  cases firstConflict? r.locations r.routes (batch.flatMap (·.holdings)) with
  | some fault => exact .inl ⟨fault, rfl, rfl⟩
  | none =>
    refine .inr ⟨rfl, ?_⟩
    simp only [foldl_addService, Nat.zero_add]

/-- No holding conflicts if the locations and the routes are distinct among themselves and from
those taken before. -/
theorem firstConflict?_eq_none {locations : List String} {routes : List Route}
    {holdings : List Holding} :
    firstConflict? locations routes holdings = none ↔
      ((∀ h ∈ holdings, h.location ∉ locations) ∧ (holdings.map (·.location)).Nodup) ∧
        (∀ h ∈ holdings, h.route ∉ routes) ∧ (holdings.map (·.route)).Nodup := by
  induction holdings generalizing locations routes with
  | nil => simp [firstConflict?]
  | cons h rest ih =>
    have free : conflict? locations routes h = none ↔
        h.location ∉ locations ∧ h.route ∉ routes := by
      unfold conflict?
      split_ifs <;> simp_all
    have step : firstConflict? locations routes (h :: rest) = none ↔
        conflict? locations routes h = none ∧
          firstConflict? (h.location :: locations) (h.route :: routes) rest = none := by
      rw [firstConflict?]
      cases conflict? locations routes h <;> simp
    rw [step, free, ih]
    simp only [List.mem_cons, List.map_cons, List.nodup_cons, List.mem_map, forall_eq_or_imp,
      not_or, not_exists, not_and]
    grind

theorem map_holdings {α : Type} (services : List Service) (f : Holding → α) :
    (services.flatMap (·.holdings)).map f =
      (handlersOf services).map fun target =>
        f ⟨target.1.location target.2, target.1.route target.2⟩ := by
  simp [handlersOf, Service.holdings, List.map_flatMap, Function.comp_def]

/-- What the handlers of services take. -/
theorem holdings_eq (services : List Service) : services.flatMap (·.holdings) =
    (handlersOf services).map fun target =>
      ⟨target.1.location target.2, target.1.route target.2⟩ := by
  have h := map_holdings services id
  rwa [List.map_id] at h

/-! ### Units -/

/-- The units are those of the handlers, by their places. -/
theorem mem_units_ofServices {unit : OutputUnit} :
    unit ∈ (ofServices services).units ↔
      ∃ service handler, services[unit.service]? = some service ∧
        service.handlers[unit.handler]? = some handler ∧
          unit.location = service.location handler := by
  obtain ⟨location, place, index⟩ := unit
  simp only [ofServices, List.mem_flatten, List.mem_mapIdx, Service.units]
  constructor
  · rintro ⟨_, ⟨i, hi, rfl⟩, hunit⟩
    obtain ⟨j, hj, hunit⟩ := List.mem_mapIdx.mp hunit
    cases hunit
    exact ⟨_, _, List.getElem?_eq_getElem hi, List.getElem?_eq_getElem hj, rfl⟩
  · rintro ⟨service, handler, hservice, hhandler, rfl⟩
    obtain ⟨hi, rfl⟩ := List.getElem?_eq_some_iff.mp hservice
    obtain ⟨hj, rfl⟩ := List.getElem?_eq_some_iff.mp hhandler
    exact ⟨_, ⟨place, hi, rfl⟩, List.mem_mapIdx.mpr ⟨index, hj, rfl⟩⟩

theorem target?_eq_some {unit : OutputUnit} {service : Service} {handler : Handler} :
    r.target? unit = some (service, handler) ↔
      r.services[unit.service]? = some service ∧ service.handlers[unit.handler]? = some handler := by
  simp only [target?, Option.bind_eq_bind, Option.bind_eq_some_iff, Option.pure_def,
    Option.some.injEq, Prod.mk.injEq]
  constructor
  · rintro ⟨_, hservice, _, hhandler, rfl, rfl⟩
    exact ⟨hservice, hhandler⟩
  · rintro ⟨hservice, hhandler⟩
    exact ⟨service, hservice, handler, hhandler, rfl, rfl⟩

/-- A service that comes last does not change what the places before it lead to. -/
theorem target?_append {unit : OutputUnit} {service : Service}
    (h : unit.service < services.length) :
    (ofServices (services ++ [service])).target? unit = (ofServices services).target? unit := by
  simp [target?, ofServices, List.getElem?_append_left h]

theorem service_lt_of_mem {unit : OutputUnit} (h : unit ∈ (ofServices services).units) :
    unit.service < services.length := by
  obtain ⟨service, _, hservice, _⟩ := mem_units_ofServices.mp h
  exact (List.getElem?_eq_some_iff.mp hservice).1

theorem units_append (service : Service) :
    (ofServices (services ++ [service])).units =
      (ofServices services).units ++ service.units services.length := by
  simp [ofServices, List.mapIdx_append]

/-- The units lead to the handlers, in the order of the services and of the handlers of each. -/
theorem map_target?_ofServices (services : List Service) :
    (ofServices services).units.map (ofServices services).target? =
      (handlersOf services).map some := by
  induction services using List.reverseRec with
  | nil => rfl
  | append_singleton services service ih =>
    have old : (ofServices services).units.map (ofServices (services ++ [service])).target? =
        (handlersOf services).map some := by
      rw [← ih]
      exact List.map_congr_left fun unit h => target?_append (service_lt_of_mem h)
    have new : (service.units services.length).map (ofServices (services ++ [service])).target? =
        service.handlers.map fun handler => some (service, handler) := by
      apply List.ext_getElem
      · simp [Service.units]
      · intro i h h'
        simp only [List.length_map, Service.units, List.length_mapIdx] at h
        simp [Service.units, target?_eq_some, ofServices, h]
    rw [units_append, List.map_append, old, new]
    simp [handlersOf, Function.comp_def]

/-- A unit leads to a handler whose location is the unit's. -/
theorem location_of_mem {unit : OutputUnit} (h : unit ∈ (ofServices services).units) :
    ∃ service handler, (ofServices services).target? unit = some (service, handler) ∧
      unit.location = service.location handler := by
  obtain ⟨service, handler, hservice, hhandler, hlocation⟩ := mem_units_ofServices.mp h
  exact ⟨service, handler, target?_eq_some.mpr ⟨hservice, hhandler⟩, hlocation⟩

theorem map_location_ofServices (services : List Service) :
    (ofServices services).units.map (·.location) = (ofServices services).locations := by
  apply List.map_injective_iff.mpr (Option.some_injective String)
  calc ((ofServices services).units.map (·.location)).map some
      = (ofServices services).units.map fun unit =>
          ((ofServices services).target? unit).map fun t => t.1.location t.2 := by
        rw [List.map_map]
        refine List.map_congr_left fun unit h => ?_
        obtain ⟨service, handler, htarget, hlocation⟩ := location_of_mem h
        simp [htarget, hlocation]
    _ = ((ofServices services).units.map (ofServices services).target?).map
          (Option.map fun t => t.1.location t.2) := by rw [List.map_map]; rfl
    _ = (ofServices services).locations.map some := by
        rw [map_target?_ofServices]
        simp [ofServices, Function.comp_def]

theorem map_route?_ofServices (services : List Service) :
    (ofServices services).units.map (ofServices services).route? =
      (ofServices services).routes.map some := by
  calc (ofServices services).units.map (ofServices services).route?
      = ((ofServices services).units.map (ofServices services).target?).map
          (Option.map fun t => t.1.route t.2) := by rw [List.map_map]; rfl
    _ = (ofServices services).routes.map some := by
        rw [map_target?_ofServices]
        simp [ofServices, Function.comp_def]

/-- The units of one place are one. -/
theorem existsUnique_unit {service : Service} {handler : Handler} {place index : Nat}
    (hservice : services[place]? = some service) (hhandler : service.handlers[index]? = some handler) :
    ∃! unit, unit ∈ (ofServices services).units ∧ unit.service = place ∧ unit.handler = index := by
  refine ⟨⟨service.location handler, place, index⟩,
    ⟨mem_units_ofServices.mpr ⟨service, handler, hservice, hhandler, rfl⟩, rfl, rfl⟩, ?_⟩
  rintro ⟨location, _, _⟩ ⟨hunit, rfl, rfl⟩
  obtain ⟨service', handler', hservice', hhandler', rfl⟩ := mem_units_ofServices.mp hunit
  simp_all

/-! ### Runs -/

/-- **The registry invariant.** A registry holds what follows from its services, and these take
every location and every route once. -/
structure Whole (r : Registry) : Prop where
  eq_ofServices : r = ofServices r.services
  locations : r.locations.Nodup
  routes : r.routes.Nodup

theorem Whole.empty : Whole .empty := ⟨rfl, .nil, .nil⟩

/-- A batch without a conflict leaves every location and every route taken once. -/
theorem Whole.append (H : Whole (ofServices services))
    (h : firstConflict? (ofServices services).locations (ofServices services).routes
      (batch.flatMap (·.holdings)) = none) : Whole (ofServices (services ++ batch)) := by
  obtain ⟨⟨freshLocations, locations⟩, freshRoutes, routes⟩ := firstConflict?_eq_none.mp h
  rw [map_holdings] at locations routes
  have hfresh : ∀ {target}, target ∈ handlersOf batch →
      target.1.location target.2 ∉ (ofServices services).locations ∧
        target.1.route target.2 ∉ (ofServices services).routes := by
    intro target htarget
    have hmem : (⟨target.1.location target.2, target.1.route target.2⟩ : Holding) ∈
        batch.flatMap (·.holdings) := by
      rw [holdings_eq]
      exact List.mem_map.mpr ⟨target, htarget, rfl⟩
    exact ⟨freshLocations _ hmem, freshRoutes _ hmem⟩
  have happend : handlersOf (services ++ batch) = handlersOf services ++ handlersOf batch := by
    simp [handlersOf]
  refine ⟨rfl, ?_, ?_⟩
  · simp only [ofServices, happend, List.map_append]
    refine H.locations.append locations (List.disjoint_right.mpr ?_)
    rintro location hlocation
    obtain ⟨target, htarget, rfl⟩ := List.mem_map.mp hlocation
    exact (hfresh htarget).1
  · simp only [ofServices, happend, List.map_append]
    refine H.routes.append routes (List.disjoint_right.mpr ?_)
    rintro route hroute
    obtain ⟨target, htarget, rfl⟩ := List.mem_map.mp hroute
    exact (hfresh htarget).2

theorem Whole.register (H : Whole r) (batch : List Service) : Whole (r.register batch).1 := by
  obtain ⟨fault, -, hr⟩ | ⟨hnone, hr⟩ := r.register_cases batch
  · rwa [hr]
  · have heq := H.eq_ofServices
    generalize r.services = services at heq
    subst heq
    rw [hr, append_ofServices]
    exact H.append hnone

theorem Whole.registerAll (H : Whole r) (batches : List (List Service)) :
    Whole (r.registerAll batches) := by
  induction batches generalizing r with
  | nil => exact H
  | cons batch batches ih => exact ih (H.register batch)

/-! ### What the invariant says of the tables -/

/-- The tables of a registry agree. -/
structure Consistent (r : Registry) : Prop where
  /-- Every unit leads to a handler, and lies where that handler's output goes. -/
  target : ∀ unit ∈ r.units, ∃ service handler,
    r.target? unit = some (service, handler) ∧ unit.location = service.location handler
  locations_nodup : (r.units.map (·.location)).Nodup
  mem_locations : ∀ location, location ∈ r.locations ↔ ∃ unit ∈ r.units, unit.location = location
  routes_nodup : (r.units.map r.route?).Nodup
  mem_routes : ∀ route, route ∈ r.routes ↔ ∃ unit ∈ r.units, r.route? unit = some route
  /-- Every handler of every service has one unit. -/
  unit_unique : ∀ place service index handler, r.services[place]? = some service →
    service.handlers[index]? = some handler →
      ∃! unit, unit ∈ r.units ∧ unit.service = place ∧ unit.handler = index
  /-- The units come in the order of the services, and of the handlers of each. -/
  targets : r.units.map r.target? = (handlersOf r.services).map some

theorem Whole.consistent (H : Whole r) : r.Consistent := by
  obtain ⟨hr, locations, routes⟩ := H
  generalize r.services = services at hr
  subst hr
  refine ⟨fun _ => location_of_mem, ?_, fun location => ?_, ?_, fun route => ?_,
    fun _ _ _ _ => existsUnique_unit, map_target?_ofServices services⟩
  · rwa [map_location_ofServices]
  · rw [← map_location_ofServices, List.mem_map]
  · rw [map_route?_ofServices]
    exact routes.map (Option.some_injective Route)
  · rw [← List.mem_map, map_route?_ofServices]
    simp

/-- Routes with one descriptor are one route. -/
theorem descriptor_injective :
    Function.Injective fun route : Route => RouteDescriptor.mk route.verb.name route.path := by
  rintro ⟨verb, path⟩ ⟨verb', path'⟩ h
  obtain ⟨hname, hpath⟩ := RouteDescriptor.mk.inj h
  have hverb : some verb = some verb' := by
    rw [← Verb.ofName?_name verb, ← Verb.ofName?_name verb']
    exact congrArg Verb.ofName? hname
  rw [Option.some.inj hverb, show path = path' from hpath]

/-- The files that are written are those of the handlers. -/
theorem unitFiles_ofServices (services : List Service) (policy : FailurePolicy) :
    (ofServices services).unitFiles policy = (handlersOf services).map fun target =>
      ⟨target.1.location target.2, target.1.render policy target.2,
        RouteDescriptor.ofHandler target.1 target.2⟩ := by
  calc (ofServices services).unitFiles policy
      = ((ofServices services).units.map (ofServices services).target?).filterMap
          (Option.map fun target => ⟨target.1.location target.2, target.1.render policy target.2,
            RouteDescriptor.ofHandler target.1 target.2⟩) := by
        rw [unitFiles, List.filterMap_map]
        refine List.filterMap_congr fun unit h => ?_
        obtain ⟨service, handler, htarget, hlocation⟩ := location_of_mem h
        rw [Function.comp_apply, htarget, hlocation]
        rfl
    _ = _ := by
        rw [map_target?_ofServices, List.filterMap_map]
        exact congrFun List.filterMap_eq_map _

/-- The descriptors that are written are those of the routes that are taken. -/
theorem Whole.descriptors (H : Whole r) (policy : FailurePolicy) :
    (r.unitFiles policy).map (·.descriptor) =
      r.routes.map fun route => ⟨route.verb.name, route.path⟩ := by
  have hr := H.eq_ofServices
  generalize r.services = services at hr
  subst hr
  rw [unitFiles_ofServices, List.map_map, ofServices, List.map_map]
  rfl

/-- Whatever batches are registered, the tables agree, and one descriptor is written for each unit,
no two of them the same. -/
theorem registerAll_consistent (batches : List (List Service)) :
    (Registry.empty.registerAll batches).Consistent ∧
      ∀ policy, (((Registry.empty.registerAll batches).unitFiles policy).map
        (·.descriptor)).Nodup ∧
          ((Registry.empty.registerAll batches).unitFiles policy).length =
            (Registry.empty.registerAll batches).units.length := by
  have H := Whole.empty.registerAll batches
  refine ⟨H.consistent, fun policy => ⟨?_, ?_⟩⟩
  · rw [H.descriptors policy]
    exact H.routes.map descriptor_injective
  · have hdescriptors := congrArg List.length (H.descriptors policy)
    have hroutes := congrArg List.length (map_route?_ofServices
      (Registry.empty.registerAll batches).services)
    rw [← H.eq_ofServices] at hroutes
    simp only [List.length_map] at hdescriptors hroutes
    rw [hdescriptors, hroutes]

end Registry

end Entrypoint
