import Entrypoint.Proofs.Registry.Consistency

/-! Batches. A batch is registered exactly if its handlers take locations and routes that are free,
and then it is put behind all that was registered; any other batch is refused at its first handler
that takes what is taken. So two batches can be registered as one, and in either order. -/

namespace Entrypoint.Registry

variable {r r' : Registry} {batch first second : List Service} {holdings before : List Holding}
  {h : Holding} {locations : List String} {routes : List Route} {fault : Fault} {n : Nat}

/-! ### The first conflict -/

/-- Conflicts depend on what is taken only as a set. -/
theorem firstConflict?_congr {locations' : List String} {routes' : List Route}
    (hlocations : ∀ location, location ∈ locations ↔ location ∈ locations')
    (hroutes : ∀ route, route ∈ routes ↔ route ∈ routes') :
    firstConflict? locations routes holdings = firstConflict? locations' routes' holdings := by
  induction holdings generalizing locations routes locations' routes' with
  | nil => rfl
  | cons h holdings ih =>
    have hfirst : conflict? locations routes h = conflict? locations' routes' h := by
      simp only [conflict?, hlocations, hroutes]
    rw [firstConflict?, firstConflict?, hfirst]
    split
    · rfl
    · exact ih (by simp [hlocations]) (by simp [hroutes])

/-- The first conflict of a row is that of its front part, or else that of what comes behind it. -/
theorem firstConflict?_append (front back : List Holding) :
    firstConflict? locations routes (front ++ back) =
      (firstConflict? locations routes front).or
        (firstConflict? (locations ++ front.map (·.location)) (routes ++ front.map (·.route))
          back) := by
  induction front generalizing locations routes with
  | nil => simp [firstConflict?]
  | cons h front ih =>
    rw [List.cons_append, firstConflict?, firstConflict?]
    split
    · rfl
    · rw [ih]
      congr 1
      exact firstConflict?_congr (by simp [or_left_comm]) (by simp [or_left_comm])

/-- A fault is that of the first holding with a conflict. -/
theorem exists_of_firstConflict? (hfault : firstConflict? locations routes holdings = some fault) :
    ∃ before h after, holdings = before ++ h :: after ∧
      firstConflict? locations routes before = none ∧
        conflict? (locations ++ before.map (·.location)) (routes ++ before.map (·.route)) h =
          some fault := by
  induction holdings using List.reverseRec with
  | nil => cases hfault
  | append_singleton holdings h ih =>
    rw [firstConflict?_append] at hfault
    cases hfront : firstConflict? locations routes holdings with
    | some found =>
      rw [hfront] at hfault
      cases hfault
      obtain ⟨before, h', after, rfl, hbefore, hconflict⟩ := ih hfront
      exact ⟨before, h', after ++ [h], by simp, hbefore, hconflict⟩
    | none =>
      rw [hfront, Option.none_or, firstConflict?] at hfault
      refine ⟨holdings, h, [], rfl, hfront, ?_⟩
      split at hfault
      · rename_i hconflict
        rw [hconflict, hfault]
      · cases hfault

/-! ### What is free -/

/-- The location of a handler is that of a registered unit, or of an earlier handler of its batch. -/
def LocationTaken (r : Registry) (before : List Holding) (h : Holding) : Prop :=
  (∃ unit ∈ r.units, unit.location = h.location) ∨ ∃ earlier ∈ before, earlier.location = h.location

/-- The route of a handler is that of a registered unit, or of an earlier handler of its batch. -/
def RouteTaken (r : Registry) (before : List Holding) (h : Holding) : Prop :=
  (∃ unit ∈ r.units, r.route? unit = some h.route) ∨ ∃ earlier ∈ before, earlier.route = h.route

/-- Handlers take locations and routes that no registered unit has, and each of them once. -/
structure IsFree (r : Registry) (holdings : List Holding) : Prop where
  locations : (holdings.map (·.location)).Nodup
  locations_new : ∀ h ∈ holdings, ∀ unit ∈ r.units, unit.location ≠ h.location
  routes : (holdings.map (·.route)).Nodup
  routes_new : ∀ h ∈ holdings, ∀ unit ∈ r.units, r.route? unit ≠ some h.route

/-- The fault of a handler that takes what is taken. The location counts before the route. -/
inductive Conflicts (r : Registry) (before : List Holding) (h : Holding) : Fault → Prop
  | output (taken : r.LocationTaken before h) : Conflicts r before h (.duplicateOutput h.location)
  | route (free : ¬r.LocationTaken before h) (taken : r.RouteTaken before h) :
    Conflicts r before h (.duplicateRoute h.route)

theorem Whole.locationTaken_iff (H : r.Whole) :
    r.LocationTaken before h ↔ h.location ∈ r.locations ++ before.map (·.location) := by
  rw [List.mem_append, H.consistent.mem_locations, List.mem_map, LocationTaken]

theorem Whole.routeTaken_iff (H : r.Whole) :
    r.RouteTaken before h ↔ h.route ∈ r.routes ++ before.map (·.route) := by
  rw [List.mem_append, H.consistent.mem_routes, List.mem_map, RouteTaken]

theorem Whole.isFree_iff (H : r.Whole) :
    r.IsFree holdings ↔ firstConflict? r.locations r.routes holdings = none := by
  simp only [firstConflict?_eq_none, H.consistent.mem_locations, H.consistent.mem_routes]
  constructor
  · rintro ⟨hlocations, hnewLocations, hroutes, hnewRoutes⟩
    exact ⟨⟨fun h hh ⟨unit, hunit, heq⟩ => hnewLocations h hh unit hunit heq, hlocations⟩,
      fun h hh ⟨unit, hunit, heq⟩ => hnewRoutes h hh unit hunit heq, hroutes⟩
  · rintro ⟨⟨hnewLocations, hlocations⟩, hnewRoutes, hroutes⟩
    exact ⟨hlocations, fun h hh unit hunit heq => hnewLocations h hh ⟨unit, hunit, heq⟩,
      hroutes, fun h hh unit hunit heq => hnewRoutes h hh ⟨unit, hunit, heq⟩⟩

theorem Whole.conflicts_of_conflict? (H : r.Whole)
    (hconflict : conflict? (r.locations ++ before.map (·.location))
      (r.routes ++ before.map (·.route)) h = some fault) : r.Conflicts before h fault := by
  unfold conflict? at hconflict
  split at hconflict
  · rename_i hlocation
    cases hconflict
    exact .output (H.locationTaken_iff.mpr hlocation)
  rename_i hlocation
  split at hconflict
  · rename_i hroute
    cases hconflict
    exact .route (fun taken => hlocation (H.locationTaken_iff.mp taken))
      (H.routeTaken_iff.mpr hroute)
  · cases hconflict

/-! ### What registering does -/

theorem register_eq_ok : r.register batch = (r', .ok n) ↔
    firstConflict? r.locations r.routes (batch.flatMap (·.holdings)) = none ∧
      r' = r.append batch ∧ n = (batch.flatMap (·.handlers)).length := by
  obtain ⟨fault, hfault, hr⟩ | ⟨hnone, hr⟩ := r.register_cases batch
  · simp [hfault, hr]
  · simp [hnone, hr, eq_comm]

theorem register_eq_error : r.register batch = (r', .error fault) ↔
    firstConflict? r.locations r.routes (batch.flatMap (·.holdings)) = some fault ∧ r' = r := by
  obtain ⟨found, hfound, hr⟩ | ⟨hnone, hr⟩ := r.register_cases batch
  · simp [hfound, hr, eq_comm, and_comm]
  · simp [hnone, hr]

/-- What registering a batch does. The batch is accepted exactly if what its handlers take is free,
and then it is put behind, and the handlers are counted. A batch that is refused leaves all tables as
they are; the fault is that of its first handler that takes what is taken. -/
structure RegistersExactly (r : Registry) (batch : List Service) : Prop where
  accepts_iff : (∃ r' n, r.register batch = (r', .ok n)) ↔ r.IsFree (batch.flatMap (·.holdings))
  accepted : ∀ r' n, r.register batch = (r', .ok n) →
    r' = r.append batch ∧ n = (batch.flatMap (·.handlers)).length
  refused : ∀ r' fault, r.register batch = (r', .error fault) →
    r' = r ∧ ∃ before h after, batch.flatMap (·.holdings) = before ++ h :: after ∧
      r.IsFree before ∧ r.Conflicts before h fault

/-- **Registering is exact and atomic**, whatever was registered or refused before. -/
theorem register_exactly (batches : List (List Service)) (batch : List Service) :
    (Registry.empty.registerAll batches).RegistersExactly batch := by
  have H : (Registry.empty.registerAll batches).Whole := Whole.empty.registerAll batches
  generalize Registry.empty.registerAll batches = r at H
  refine ⟨?_, fun r' n hok => (register_eq_ok.mp hok).2, fun r' fault herror => ?_⟩
  · rw [H.isFree_iff]
    constructor
    · rintro ⟨r', n, hok⟩
      exact (register_eq_ok.mp hok).1
    · intro hfree
      exact ⟨_, _, register_eq_ok.mpr ⟨hfree, rfl, rfl⟩⟩
  · obtain ⟨hfault, hr⟩ := register_eq_error.mp herror
    obtain ⟨before, h, after, hsplit, hbefore, hconflict⟩ := exists_of_firstConflict? hfault
    exact ⟨hr, before, h, after, hsplit, H.isFree_iff.mpr hbefore,
      H.conflicts_of_conflict? hconflict⟩

/-! ### Two batches -/

/-- Two batches are registered one after the other, and so many handlers of each. -/
def RegistersInTurn (r : Registry) (first second : List Service) (r' : Registry) (n n' : Nat) :
    Prop :=
  ∃ middle, r.register first = (middle, .ok n) ∧ middle.register second = (r', .ok n')

/-- Two registries take the same locations and the same routes. -/
structure TakesAlike (r r' : Registry) : Prop where
  locations : r.locations.Perm r'.locations
  routes : r.routes.Perm r'.routes

theorem registersInTurn_iff {n' : Nat} : r.RegistersInTurn first second r' n n' ↔
    firstConflict? r.locations r.routes ((first ++ second).flatMap (·.holdings)) = none ∧
      r' = r.append (first ++ second) ∧ n = (first.flatMap (·.handlers)).length ∧
        n' = (second.flatMap (·.handlers)).length := by
  have happend : firstConflict? r.locations r.routes ((first ++ second).flatMap (·.holdings)) = none ↔
      firstConflict? r.locations r.routes (first.flatMap (·.holdings)) = none ∧
        firstConflict? (r.append first).locations (r.append first).routes
          (second.flatMap (·.holdings)) = none := by
    rw [List.flatMap_append, firstConflict?_append, Option.or_eq_none_iff]
    rfl
  rw [happend, ← append_append]
  constructor
  · rintro ⟨middle, hfirst, hsecond⟩
    obtain ⟨hfree, rfl, rfl⟩ := register_eq_ok.mp hfirst
    obtain ⟨hfree', rfl, rfl⟩ := register_eq_ok.mp hsecond
    exact ⟨⟨hfree, hfree'⟩, rfl, rfl, rfl⟩
  · rintro ⟨⟨hfree, hfree'⟩, rfl, rfl, rfl⟩
    exact ⟨_, register_eq_ok.mpr ⟨hfree, rfl, rfl⟩, register_eq_ok.mpr ⟨hfree', rfl, rfl⟩⟩

/-- Holdings in another order conflict no more. -/
theorem firstConflict?_eq_none_of_perm {holdings' : List Holding} (hperm : holdings.Perm holdings')
    (hnone : firstConflict? locations routes holdings = none) :
    firstConflict? locations routes holdings' = none := by
  obtain ⟨⟨hlocations, hnodup⟩, hroutes, hnodup'⟩ := firstConflict?_eq_none.mp hnone
  refine firstConflict?_eq_none.mpr ⟨⟨fun h hh => ?_, ?_⟩, fun h hh => ?_, ?_⟩
  · exact hlocations h (hperm.mem_iff.mpr hh)
  · exact (hperm.map _).nodup_iff.mp hnodup
  · exact hroutes h (hperm.mem_iff.mpr hh)
  · exact (hperm.map _).nodup_iff.mp hnodup'

theorem takesAlike_append (r : Registry) (hperm : first.Perm second) :
    (r.append first).TakesAlike (r.append second) where
  locations := ((hperm.flatMap_right _).map _).append_left _
  routes := ((hperm.flatMap_right _).map _).append_left _

theorem RegistersInTurn.swap {n' : Nat} (H : r.RegistersInTurn first second r' n n') :
    ∃ swapped, r.RegistersInTurn second first swapped n' n ∧ r'.TakesAlike swapped := by
  obtain ⟨hfree, rfl, rfl, rfl⟩ := registersInTurn_iff.mp H
  have hperm : (first ++ second).Perm (second ++ first) := List.perm_append_comm
  refine ⟨_, registersInTurn_iff.mpr ⟨?_, rfl, rfl, rfl⟩, takesAlike_append r hperm⟩
  exact firstConflict?_eq_none_of_perm (hperm.flatMap_right _) hfree

/-- What two batches do together and in either order. -/
structure BatchesCompose (r : Registry) (first second : List Service) : Prop where
  /-- They are registered as one batch exactly if they are registered in turn, with one outcome. -/
  together_iff : ∀ r' n, r.register (first ++ second) = (r', .ok n) ↔
    ∃ a b, r.RegistersInTurn first second r' a b ∧ n = a + b
  /-- They are registered in turn exactly if they are registered in the other order. -/
  swap_iff : ∀ a b, (∃ r', r.RegistersInTurn first second r' a b) ↔
    ∃ r', r.RegistersInTurn second first r' b a
  /-- Both orders take the same. -/
  takesAlike : ∀ r' r'' a b a' b', r.RegistersInTurn first second r' a b →
    r.RegistersInTurn second first r'' b' a' → r'.TakesAlike r''

/-- **Batches compose and commute** in every registry. -/
theorem register_append_comm (r : Registry) (first second : List Service) :
    r.BatchesCompose first second := by
  refine ⟨fun r' n => ?_, fun a b => ⟨?_, ?_⟩, fun r' r'' a b a' b' H H' => ?_⟩
  · simp only [registersInTurn_iff]
    rw [register_eq_ok, List.flatMap_append, List.flatMap_append, List.length_append]
    constructor
    · rintro ⟨hfree, hr', hn⟩
      exact ⟨_, _, ⟨hfree, hr', rfl, rfl⟩, hn⟩
    · rintro ⟨_, _, ⟨hfree, hr', rfl, rfl⟩, hn⟩
      exact ⟨hfree, hr', hn⟩
  · rintro ⟨r', H⟩
    obtain ⟨swapped, H', _⟩ := H.swap
    exact ⟨swapped, H'⟩
  · rintro ⟨r', H⟩
    obtain ⟨swapped, H', _⟩ := H.swap
    exact ⟨swapped, H'⟩
  · obtain ⟨swapped, Hswapped, halike⟩ := H.swap
    have hsame : r'' = swapped :=
      (registersInTurn_iff.mp H').2.1.trans (registersInTurn_iff.mp Hswapped).2.1.symm
    rwa [hsame]

end Entrypoint.Registry
