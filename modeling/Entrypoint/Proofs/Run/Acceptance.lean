import Entrypoint.Proofs.Results
import Entrypoint.Proofs.Run.Isolation
import Mathlib.Algebra.Ring.Nat

/-! The modules that a run accepts. A module is accepted if it does not fail at its place, and then
all of its services are registered. What a run has gathered is the sum of what the accepted modules
bring, and each module is counted once, as accepted or as failed. -/

namespace Entrypoint.Gathering

variable {c : RunConfig} {t : Tree} {g g' g'' : Gathering} {name : String} {modules : List String}
  {n n' : Nat} {outcomes outcomes' : List Outcome}

/-- The outcomes of the modules that are accepted after what has been gathered. -/
def accepted (c : RunConfig) (t : Tree) (g : Gathering) : List String → List Outcome
  | [] => []
  | name :: rest =>
    (if g.Fails c t name then [] else (c.moduleOutcome t name).2.toOption.toList) ++
      accepted c t (g.addModule c t name) rest

/-- One gathering goes on from another over so many modules, of which it accepts those with the given
outcomes. -/
structure Accepts (g g' : Gathering) (n : Nat) (outcomes : List Outcome) : Prop where
  whole : g.registry.Whole → g'.registry.Whole
  registered : g'.registry.services = g.registry.services ++ outcomes.flatMap (·.services)
  modulesProcessed : g'.summary.modulesProcessed = g.summary.modulesProcessed + n
  modulesFailed : g'.summary.modulesFailed + outcomes.length = g.summary.modulesFailed + n
  services : g'.summary.services =
    g.summary.services + (outcomes.map (·.services.length)).sum
  handlersRegistered : g'.summary.handlersRegistered =
    g.summary.handlersRegistered + (outcomes.map (Service.handlerCount ·.services)).sum

theorem Accepts.refl (g : Gathering) : g.Accepts g 0 [] :=
  ⟨id, (List.append_nil _).symm, rfl, rfl, rfl, rfl⟩

theorem Accepts.trans (H : g.Accepts g' n outcomes) (H' : g'.Accepts g'' n' outcomes') :
    g.Accepts g'' (n + n') (outcomes ++ outcomes') where
  whole := H'.whole ∘ H.whole
  registered := by
    rw [H'.registered, H.registered, List.flatMap_append, List.append_assoc]
  modulesProcessed := by
    rw [H'.modulesProcessed, H.modulesProcessed, Nat.add_assoc]
  modulesFailed := by
    have hfirst := H.modulesFailed
    have hsecond := H'.modulesFailed
    rw [List.length_append]
    omega
  services := by
    rw [H'.services, H.services, List.map_append, List.sum_append, Nat.add_assoc]
  handlersRegistered := by
    rw [H'.handlersRegistered, H.handlersRegistered, List.map_append, List.sum_append,
      Nat.add_assoc]

theorem Accepts.of_fails (h : g.Fails c t name) : g.Accepts (g.addModule c t name) 1 [] := by
  obtain ⟨hregistry, hsummary⟩ := OneMoreFailure.of_fails h
  refine ⟨fun hwhole => hregistry ▸ hwhole, ?_, hsummary.modulesProcessed, hsummary.modulesFailed,
    hsummary.services, hsummary.handlersRegistered⟩
  rw [hregistry, List.flatMap_nil, List.append_nil]

theorem Accepts.of_not_fails (h : ¬g.Fails c t name) :
    ∃ outcome, (c.moduleOutcome t name).2 = .ok outcome ∧
      g.Accepts (g.addModule c t name) 1 [outcome] := by
  cases hread : (c.moduleOutcome t name).2 with
  | error fault => exact absurd (.unread hread) h
  | ok outcome =>
    obtain ⟨fault, -, hrefused⟩ | ⟨-, hregistered⟩ := g.registry.register_cases outcome.services
    · exact absurd (.refused hread (by rw [hrefused])) h
    · obtain ⟨hregistry, hsummary⟩ := addModule_of_registered hread hregistered
      refine ⟨outcome, rfl, fun hwhole => ?_, ?_, ?_, ?_, ?_, ?_⟩
      · have hnext := hwhole.register outcome.services
        rw [hregistered] at hnext
        rwa [hregistry]
      · rw [hregistry, Registry.append, List.flatMap_singleton]
      all_goals simp [hsummary, Service.handlerCount]

/-- Reading modules one after the other accepts those that do not fail at their places. -/
theorem accepts_foldl (c : RunConfig) (t : Tree) (g : Gathering) (modules : List String) :
    g.Accepts (modules.foldl (Gathering.addModule c t) g) modules.length
      (g.accepted c t modules) := by
  induction modules generalizing g with
  | nil => exact .refl g
  | cons name modules ih =>
    rw [List.foldl_cons, List.length_cons, Nat.add_comm, accepted]
    split
    · rename_i hfails
      exact (Accepts.of_fails hfails).trans (ih _)
    · rename_i hfails
      obtain ⟨outcome, hread, haccepts⟩ := Accepts.of_not_fails hfails
      rw [hread]
      exact haccepts.trans (ih _)

theorem exists_of_mem_accepted {outcome : Outcome} (h : outcome ∈ g.accepted c t modules) :
    ∃ name ∈ modules, (c.moduleOutcome t name).2 = .ok outcome := by
  induction modules generalizing g with
  | nil => cases h
  | cons name modules ih =>
    rw [accepted] at h
    rcases List.mem_append.mp h with h | h
    · refine ⟨name, List.mem_cons_self, ?_⟩
      split at h
      · cases h
      · cases hread : (c.moduleOutcome t name).2 with
        | error fault =>
          rw [hread] at h
          cases h
        | ok outcome' =>
          rw [hread] at h
          rw [List.mem_singleton.mp h]
    · obtain ⟨name', hname, hread⟩ := ih h
      exact ⟨name', List.mem_cons_of_mem _ hname, hread⟩

end Entrypoint.Gathering

namespace Entrypoint.RunConfig

theorem exists_build_of_moduleOutcome {c : RunConfig} {t : Tree} {name : String} {outcome : Outcome}
    (h : (c.moduleOutcome t name).2 = .ok outcome) :
    ∃ catalog, c.moduleCatalog t name = .ok catalog ∧ catalog.build = .ok outcome := by
  unfold moduleOutcome at h
  split at h
  · cases h
  · rename_i catalog hcatalog
    exact ⟨catalog, hcatalog, Results.mapError_eq_ok.mp h⟩

end Entrypoint.RunConfig
