import Entrypoint.Proofs.Registry.Batches

/-! Locations by name. A location is the name of a service and the name of a function with an
underscore between them. Since both names may have underscores themselves, one location can be cut
into two pairs of names: where the one name of a service goes on with what the other pair has for
the beginning of the function (`Straddles`). A batch with distinct names and routes is refused
exactly if two of its handlers stand so. -/

namespace Entrypoint

/-- A location cut at two places: the longer name of a service is the shorter one, an underscore and
a part with which the function of the shorter one begins. -/
def Straddles (short long : String × String) : Prop :=
  ∃ part, long.1 = short.1 ++ "_" ++ part ∧ short.2 = part ++ "_" ++ long.2

/-- Two pairs of names are cut from one location at two places. -/
def Overlap (names names' : String × String) : Prop :=
  Straddles names names' ∨ Straddles names' names

section

variable {α : Type} {sep : α} {a b c d : List α}

/-- A row is cut at a separator in one way, unless a part between two separators goes from the one
side to the other. -/
theorem append_sep_eq_iff : a ++ sep :: b = c ++ sep :: d ↔
    (a = c ∧ b = d) ∨ (∃ part, c = a ++ sep :: part ∧ b = part ++ sep :: d) ∨
      ∃ part, a = c ++ sep :: part ∧ d = part ++ sep :: b := by
  constructor
  · intro h
    rcases List.append_eq_append_iff.mp h with ⟨rest, rfl, hrest⟩ | ⟨rest, rfl, hrest⟩
    · cases rest with
      | nil => exact .inl ⟨(List.append_nil _).symm, (List.cons.inj hrest).2⟩
      | cons x part =>
        obtain ⟨rfl, rfl⟩ := List.cons.inj hrest
        exact .inr (.inl ⟨part, rfl, rfl⟩)
    · cases rest with
      | nil => exact .inl ⟨List.append_nil _, (List.cons.inj hrest).2.symm⟩
      | cons x part =>
        obtain ⟨rfl, rfl⟩ := List.cons.inj hrest
        exact .inr (.inr ⟨part, rfl, rfl⟩)
  · rintro (⟨rfl, rfl⟩ | ⟨part, rfl, rfl⟩ | ⟨part, rfl, rfl⟩)
    · rfl
    · simp
    · simp

end

theorem toList_underscored (front back : String) :
    (front ++ "_" ++ back).toList = front.toList ++ '_' :: back.toList := by
  simp [String.toList_append]

theorem straddles_iff {short long : String × String} : Straddles short long ↔
    ∃ part, long.1.toList = short.1.toList ++ '_' :: part ∧
      short.2.toList = part ++ '_' :: long.2.toList := by
  constructor
  · rintro ⟨part, hlong, hshort⟩
    exact ⟨part.toList, by rw [hlong, toList_underscored], by rw [hshort, toList_underscored]⟩
  · rintro ⟨part, hlong, hshort⟩
    refine ⟨String.ofList part, String.toList_inj.mp ?_, String.toList_inj.mp ?_⟩
    · rw [hlong, toList_underscored, String.toList_ofList]
    · rw [hshort, toList_underscored, String.toList_ofList]

/-- The longer name of a service has an underscore. -/
theorem Straddles.underscore_mem {short long : String × String} (h : Straddles short long) :
    '_' ∈ long.1.toList := by
  obtain ⟨part, hlong, _⟩ := straddles_iff.mp h
  rw [hlong]
  exact List.mem_append_right _ List.mem_cons_self

namespace Service

/-- The names that the location of a handler is made of. -/
def names (service : Service) (handler : Handler) : String × String :=
  (service.name, handler.function)

theorem location_eq_iff {service service' : Service} {handler handler' : Handler} :
    service.location handler = service'.location handler' ↔
      service.names handler = service'.names handler' ∨
        Overlap (service.names handler) (service'.names handler') := by
  rw [location, location, ← String.toList_inj, toList_underscored, toList_underscored,
    append_sep_eq_iff, Overlap, straddles_iff, straddles_iff, Prod.ext_iff, String.toList_inj,
    String.toList_inj]
  rfl

end Service

namespace Registry

variable {batch : List Service} {r : Registry} {fault : Fault}

/-- The names of the handlers of services, each with its service's. -/
def namesOf (services : List Service) : List (String × String) :=
  (handlersOf services).map fun target => target.1.names target.2

/-- The names of handlers with distinct locations do not overlap. -/
theorem pairwise_names_of_nodup {targets : List (Service × Handler)}
    (h : (targets.map fun target => target.1.location target.2).Nodup) :
    (targets.map fun target => target.1.names target.2).Pairwise (¬Overlap · ·) := by
  rw [List.Nodup, List.pairwise_map] at h
  rw [List.pairwise_map]
  exact h.imp fun hne hoverlap => hne (Service.location_eq_iff.mpr (.inr hoverlap))

/-- Handlers of distinct names have distinct locations exactly if no two names overlap. -/
theorem nodup_locations_iff (hnames : (namesOf batch).Nodup) :
    ((handlersOf batch).map fun target => target.1.location target.2).Nodup ↔
      (namesOf batch).Pairwise (¬Overlap · ·) := by
  refine ⟨pairwise_names_of_nodup, fun h => ?_⟩
  rw [namesOf, List.Nodup, List.pairwise_map] at hnames
  rw [namesOf, List.pairwise_map] at h
  rw [List.Nodup, List.pairwise_map]
  refine (hnames.and h).imp fun hboth heq => ?_
  exact (Service.location_eq_iff.mp heq).elim hboth.1 hboth.2

/-- A batch of distinct routes is registered in an empty registry exactly if its locations are
distinct. -/
theorem register_empty_iff
    (hroutes : ((handlersOf batch).map fun target => target.1.route target.2).Nodup) :
    (∃ r, Registry.empty.register batch = (r, .ok (Service.handlerCount batch))) ↔
      ((handlersOf batch).map fun target => target.1.location target.2).Nodup := by
  have hfree : firstConflict? empty.locations empty.routes (batch.flatMap (·.holdings)) = none ↔
      ((handlersOf batch).map fun target => target.1.location target.2).Nodup := by
    rw [firstConflict?_eq_none, map_holdings, map_holdings]
    constructor
    · exact fun h => h.1.2
    · exact fun h => ⟨⟨fun _ _ => List.not_mem_nil, h⟩, fun _ _ => List.not_mem_nil, hroutes⟩
  rw [← hfree]
  constructor
  · rintro ⟨r, hok⟩
    exact (register_eq_ok.mp hok).1
  · exact fun hnone => ⟨_, register_eq_ok.mpr ⟨hnone, rfl, rfl⟩⟩

/-- A batch of distinct routes is refused in an empty registry at the first handler with the
location of an earlier one. -/
theorem exists_of_register_empty_error
    (hroutes : ((handlersOf batch).map fun target => target.1.route target.2).Nodup)
    (herror : Registry.empty.register batch = (r, .error fault)) :
    r = .empty ∧ ∃ before target after, handlersOf batch = before ++ target :: after ∧
      (before.map fun target => target.1.location target.2).Nodup ∧
        (∃ earlier ∈ before, earlier.1.location earlier.2 = target.1.location target.2) ∧
          fault = .duplicateOutput (target.1.location target.2) := by
  obtain ⟨hfault, hr⟩ := register_eq_error.mp herror
  obtain ⟨front, h, back, hsplit, hfront, hconflict⟩ := exists_of_firstConflict? hfault
  have hconflicts := Whole.empty.conflicts_of_conflict? hconflict
  rw [holdings_eq] at hsplit
  obtain ⟨before, rest, hhandlers, rfl, hrest⟩ := List.map_eq_append_iff.mp hsplit
  obtain ⟨target, after, rfl, rfl, _⟩ := List.map_eq_cons_iff.mp hrest
  have hlocations := (firstConflict?_eq_none.mp hfront).1.2
  rw [List.map_map] at hlocations
  refine ⟨hr, before, target, after, hhandlers, hlocations, ?_⟩
  -- Nothing is registered, so what is taken is taken by an earlier handler.
  cases hconflicts with
  | output taken =>
    obtain ⟨_, hunit, _⟩ | ⟨_, hholding, heq⟩ := taken
    · cases hunit
    · obtain ⟨earlier, hearlier, rfl⟩ := List.mem_map.mp hholding
      exact ⟨⟨earlier, hearlier, heq⟩, rfl⟩
  | route _ taken =>
    obtain ⟨_, hunit, _⟩ | ⟨_, hholding, heq⟩ := taken
    · cases hunit
    · obtain ⟨earlier, hearlier, rfl⟩ := List.mem_map.mp hholding
      rw [hhandlers, List.map_append, List.map_cons, List.nodup_append] at hroutes
      exact absurd heq (hroutes.2.2 _ (List.mem_map_of_mem hearlier) _ List.mem_cons_self)

/-- What comes of a batch that is registered first, by the names of its handlers. -/
structure RegistersByNames (batch : List Service) : Prop where
  accepts_iff : (∃ r, Registry.empty.register batch = (r, .ok (Service.handlerCount batch))) ↔
    (namesOf batch).Pairwise (¬Overlap · ·)
  /-- A batch is refused at the first handler whose names overlap with those of an earlier one, for
  the location that the two share. -/
  refused : ∀ r fault, Registry.empty.register batch = (r, .error fault) →
    r = .empty ∧ ∃ before target after, handlersOf batch = before ++ target :: after ∧
      (before.map fun earlier => earlier.1.names earlier.2).Pairwise (¬Overlap · ·) ∧
        (∃ earlier ∈ before, Overlap (earlier.1.names earlier.2) (target.1.names target.2)) ∧
          fault = .duplicateOutput (target.1.location target.2)
  accepted_of_plain : (∀ service ∈ batch, '_' ∉ service.name.toList) →
    ∃ r, Registry.empty.register batch = (r, .ok (Service.handlerCount batch))

theorem name_mem_of_mem_namesOf {names : String × String} (h : names ∈ namesOf batch) :
    ∃ service ∈ batch, service.name = names.1 := by
  obtain ⟨target, htarget, rfl⟩ := List.mem_map.mp h
  obtain ⟨service, hservice, hhandler⟩ := List.mem_flatMap.mp htarget
  obtain ⟨handler, _, rfl⟩ := List.mem_map.mp hhandler
  exact ⟨service, hservice, rfl⟩

theorem registersByNames (hnames : (namesOf batch).Nodup)
    (hroutes : ((handlersOf batch).map fun target => target.1.route target.2).Nodup) :
    RegistersByNames batch := by
  have haccepts := (register_empty_iff hroutes).trans (nodup_locations_iff hnames)
  refine ⟨haccepts, fun r fault herror => ?_, fun hplain => haccepts.mpr ?_⟩
  · obtain ⟨hr, before, target, after, hsplit, hbefore, ⟨earlier, hearlier, heq⟩, hfault⟩ :=
      exists_of_register_empty_error hroutes herror
    rw [namesOf, hsplit, List.map_append, List.map_cons, List.nodup_append] at hnames
    refine ⟨hr, before, target, after, hsplit, pairwise_names_of_nodup hbefore,
      ⟨earlier, hearlier, ?_⟩, hfault⟩
    have hne := hnames.2.2 _ (List.mem_map_of_mem hearlier) _ List.mem_cons_self
    exact (Service.location_eq_iff.mp heq).resolve_left hne
  · have hfree : ∀ names ∈ namesOf batch, '_' ∉ names.1.toList := by
      intro names hmem
      obtain ⟨service, hservice, hname⟩ := name_mem_of_mem_namesOf hmem
      exact hname ▸ hplain service hservice
    refine List.pairwise_of_forall_mem_list fun names hmem names' hmem' hoverlap => ?_
    exact hoverlap.elim (fun h => hfree _ hmem' h.underscore_mem)
      (fun h => hfree _ hmem h.underscore_mem)

/-- **Locations by name.** Two handlers of different names share a location exactly if their names
overlap. A batch of distinct names and routes that is registered first is accepted exactly if no two
names overlap, and so whenever no service has an underscore in its name. -/
theorem register_of_distinct_names (hnames : (namesOf batch).Nodup)
    (hroutes : ((handlersOf batch).map fun target => target.1.route target.2).Nodup) :
    (∀ (service service' : Service) (handler handler' : Handler),
      service.names handler ≠ service'.names handler' →
        (service.location handler = service'.location handler' ↔
          Overlap (service.names handler) (service'.names handler'))) ∧
      RegistersByNames batch := by
  refine ⟨fun service service' handler handler' hne => ?_, registersByNames hnames hroutes⟩
  rw [Service.location_eq_iff]
  exact or_iff_right hne

end Registry

/-! ### One location, two handlers

The handler `b_c` of `A` and the handler `c` of `A_b`, on routes of their own. -/

namespace Sample

/-- A handler without a config. -/
def bareHandler (path function : String) : Handler :=
  ⟨.get, path, none, function, false, .byReference, .result⟩

/-- A service of one handler. -/
def soleService (name : String) (handler : Handler) : Service :=
  ⟨⟨"a", name⟩, [], ⟨⟨"a", "new"⟩, true, false⟩, [handler]⟩

def shortHandler : Handler := bareHandler "/x" "b_c"

def longHandler : Handler := bareHandler "/y" "c"

def shortService : Service := soleService "A" shortHandler

def longService : Service := soleService "A_b" longHandler

theorem overlap_of_short :
    Overlap (shortService.names shortHandler) (longService.names longHandler) :=
  .inl ⟨"b", by decide, by decide⟩

/-- The two share a location, so a batch of both is not accepted. -/
theorem register_of_overlap :
    shortService.location shortHandler = longService.location longHandler ∧
      ¬∃ r, Registry.empty.register [shortService, longService] = (r, .ok 2) := by
  have hdistinct : shortService.names shortHandler ≠ longService.names longHandler := by decide
  have hnames : (Registry.namesOf [shortService, longService]).Nodup := by decide
  have hroutes : ((Registry.handlersOf [shortService, longService]).map
      fun target => target.1.route target.2).Nodup := by decide
  obtain ⟨hlocation, hbatch⟩ := Registry.register_of_distinct_names hnames hroutes
  refine ⟨(hlocation _ _ _ _ hdistinct).mpr overlap_of_short, fun hok => ?_⟩
  have hapart := hbatch.accepts_iff.mp hok
  exact (List.pairwise_cons.mp hapart).1 _ (List.mem_singleton_self _) overlap_of_short

end Sample

end Entrypoint
