import Entrypoint.Fault
import Entrypoint.Service.Basic

/-! The registry of a run: the services that were accepted, one unit for each of their handlers, and
the locations and routes that the units take. Services are registered in batches; **a batch is taken
whole or not at all**, so a conflict leaves the registry as it was. -/

namespace Entrypoint

/-- A handler that waits to be written, by its place among the services and handlers. -/
structure OutputUnit where
  location : String
  service : Nat
  handler : Nat
  deriving DecidableEq, Repr

/-- What a run has registered. -/
structure Registry where
  services : List Service
  units : List OutputUnit
  locations : List String
  routes : List Route
  deriving DecidableEq, Repr

/-- What a handler takes for itself alone. -/
structure Holding where
  location : String
  route : Route
  deriving DecidableEq, Repr

/-- What the handlers of a service take. -/
def Service.holdings (service : Service) : List Holding :=
  service.handlers.map fun handler => ⟨service.location handler, service.route handler⟩

namespace Registry

/-- Nothing is registered. -/
def empty : Registry := ⟨[], [], [], []⟩

/-- The fault of a holding when some locations and routes are taken. The location is looked at
first. -/
def conflict? (locations : List String) (routes : List Route) (h : Holding) : Option Fault :=
  if h.location ∈ locations then some (.duplicateOutput h.location)
  else if h.route ∈ routes then some (.duplicateRoute h.route)
  else none

/-- The first fault of holdings, each of which may conflict with those before it. -/
def firstConflict? (locations : List String) (routes : List Route) : List Holding → Option Fault
  | [] => none
  | h :: rest =>
    match conflict? locations routes h with
    | some fault => some fault
    | none => firstConflict? (h.location :: locations) (h.route :: routes) rest

/-- Adds the unit of a handler to a registry and counts it. The service comes at the given place, and
the handler at its place in the service. -/
def addUnit (service : Service) (place : Nat) (counted : Registry × Nat) (entry : Handler × Nat) :
    Registry × Nat :=
  let (r, count) := counted
  let (handler, index) := entry
  let location := service.location handler
  ({ r with
      units := r.units ++ [⟨location, place, index⟩]
      locations := r.locations ++ [location]
      routes := r.routes ++ [service.route handler] }, count + 1)

/-- Adds the units of a service, and the service after them. -/
def addService (counted : Registry × Nat) (service : Service) : Registry × Nat :=
  let place := counted.1.services.length
  let (r, count) := service.handlers.zipIdx.foldl (addUnit service place) counted
  ({ r with services := r.services ++ [service] }, count)

/-- Registers a batch of services. Gives the number of units that were added, or the first
conflict. -/
def register (r : Registry) (batch : List Service) : Registry × Except Fault Nat :=
  match firstConflict? r.locations r.routes (batch.flatMap (·.holdings)) with
  | some fault => (r, .error fault)
  | none =>
    let (registered, count) := batch.foldl addService (r, 0)
    (registered, .ok count)

/-- The service and the handler of a unit. -/
def target? (r : Registry) (unit : OutputUnit) : Option (Service × Handler) := do
  let service ← r.services[unit.service]?
  let handler ← service.handlers[unit.handler]?
  return (service, handler)

end Registry

end Entrypoint
