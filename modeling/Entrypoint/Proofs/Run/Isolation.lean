import Entrypoint.Proofs.Registry.Consistency
import Entrypoint.Run.Basic

/-! A module that fails leaves no trace. Two runs are compared, one over a list of modules and one
over the same list without a module that fails at its place. What each has gathered agrees in
everything but the counts of modules and of declarations left out, and a later module keeps it so,
because it sees of the earlier ones only the registry. -/

namespace Entrypoint

namespace Registry

theorem register_eq_of_error {r : Registry} {batch : List Service} {fault : Fault}
    (h : (r.register batch).2 = .error fault) : r.register batch = (r, .error fault) := by
  obtain ⟨fault', -, hr⟩ | ⟨-, hr⟩ := r.register_cases batch
  · rw [hr] at h ⊢
    cases h
    rfl
  · rw [hr] at h
    cases h

end Registry

/-- The first summary counts one failed module more than the second, and perhaps declarations that
were left out of it. -/
structure Summary.OneMoreFailure (s s' : Summary) : Prop where
  modulesProcessed : s.modulesProcessed = s'.modulesProcessed + 1
  modulesFailed : s.modulesFailed = s'.modulesFailed + 1
  services : s.services = s'.services
  handlersRegistered : s.handlersRegistered = s'.handlersRegistered
  declarationsSkipped : s'.declarationsSkipped ≤ s.declarationsSkipped
  unitsWritten : s.unitsWritten = s'.unitsWritten

namespace Gathering

variable {c : RunConfig} {t : Tree} {g g' : Gathering} {name : String}

/-- A module fails after what has been gathered: it cannot be read, or the registry refuses its
services. -/
inductive Fails (c : RunConfig) (t : Tree) (g : Gathering) (name : String) : Prop
  | unread {fault : ModuleFault} (h : (c.moduleOutcome t name).2 = .error fault)
  | refused {outcome : Outcome} {fault : Fault} (h : (c.moduleOutcome t name).2 = .ok outcome)
    (hr : (g.registry.register outcome.services).2 = .error fault)

instance : Decidable (Fails c t g name) :=
  match h : (c.moduleOutcome t name).2 with
  | .error _ => isTrue (.unread h)
  | .ok outcome =>
    match hr : (g.registry.register outcome.services).2 with
    | .error _ => isTrue (.refused h hr)
    | .ok _ => isFalse fun
      | .unread h' => by simp [h] at h'
      | .refused h' hr' => by
        rw [h] at h'
        cases h'
        simp [hr] at hr'

/-- The first gathering has read one module more than the second, which failed. -/
structure OneMoreFailure (g g' : Gathering) : Prop where
  registry : g.registry = g'.registry
  summary : g.summary.OneMoreFailure g'.summary

/-! ### What reading one module does -/

theorem addModule_eq (g : Gathering) (name : String) :
    g.addModule c t name =
      match (c.moduleOutcome t name).2 with
      | .error fault =>
        ((g.begin name).report (c.moduleOutcome t name).1).fail name fault.message
      | .ok outcome =>
        (((g.begin name).report (c.moduleOutcome t name).1).skip outcome).register name
          outcome.services := by
  delta addModule
  cases c.moduleOutcome t name
  rfl

theorem addModule_of_fault {fault : ModuleFault} (h : (c.moduleOutcome t name).2 = .error fault) :
    (g.addModule c t name).registry = g.registry ∧
      (g.addModule c t name).summary =
        { g.summary with
          modulesProcessed := g.summary.modulesProcessed + 1
          modulesFailed := g.summary.modulesFailed + 1 } := by
  rw [addModule_eq, h]
  exact ⟨rfl, rfl⟩

theorem addModule_of_refused {outcome : Outcome} {fault : Fault}
    (h : (c.moduleOutcome t name).2 = .ok outcome)
    (hr : (g.registry.register outcome.services).2 = .error fault) :
    (g.addModule c t name).registry = g.registry ∧
      (g.addModule c t name).summary =
        { g.summary with
          modulesProcessed := g.summary.modulesProcessed + 1
          modulesFailed := g.summary.modulesFailed + 1
          declarationsSkipped := g.summary.declarationsSkipped + outcome.skipped.length } := by
  have hr := Registry.register_eq_of_error hr
  simp [addModule_eq, h, register, skip, fail, begin, report, hr]

theorem addModule_of_registered {outcome : Outcome} {registry : Registry} {count : Nat}
    (h : (c.moduleOutcome t name).2 = .ok outcome)
    (hr : g.registry.register outcome.services = (registry, .ok count)) :
    (g.addModule c t name).registry = registry ∧
      (g.addModule c t name).summary =
        { g.summary with
          modulesProcessed := g.summary.modulesProcessed + 1
          services := g.summary.services + outcome.services.length
          handlersRegistered := g.summary.handlersRegistered + count
          declarationsSkipped := g.summary.declarationsSkipped + outcome.skipped.length } := by
  simp [addModule_eq, h, register, skip, accept, begin, report, hr]

/-! ### Two runs -/

/-- A module that fails adds nothing but counts. -/
theorem OneMoreFailure.of_fails (h : g.Fails c t name) : (g.addModule c t name).OneMoreFailure g := by
  cases h with
  | unread h =>
    obtain ⟨hregistry, hsummary⟩ := addModule_of_fault (g := g) h
    exact ⟨hregistry, by rw [hsummary]; constructor <;> simp⟩
  | refused h hr =>
    obtain ⟨hregistry, hsummary⟩ := addModule_of_refused h hr
    exact ⟨hregistry, by rw [hsummary]; constructor <;> simp⟩

/-- The next module keeps two gatherings apart by no more than they were. -/
theorem OneMoreFailure.addModule (H : g.OneMoreFailure g') (name : String) :
    (g.addModule c t name).OneMoreFailure (g'.addModule c t name) := by
  obtain ⟨hregistry, hprocessed, hfailed, hservices, hhandlers, hskipped, hwritten⟩ := H
  cases hm : (c.moduleOutcome t name).2 with
  | error fault =>
    obtain ⟨hr, hs⟩ := addModule_of_fault (g := g) hm
    obtain ⟨hr', hs'⟩ := addModule_of_fault (g := g') hm
    refine ⟨by rw [hr, hr', hregistry], ?_⟩
    rw [hs, hs']
    constructor <;> simp <;> omega
  | ok outcome =>
    obtain ⟨fault, -, hreg⟩ | ⟨-, hreg⟩ := g'.registry.register_cases outcome.services
    · obtain ⟨hr, hs⟩ := addModule_of_refused (g := g) hm (by rw [hregistry, hreg])
      obtain ⟨hr', hs'⟩ := addModule_of_refused (g := g') hm (by rw [hreg])
      refine ⟨by rw [hr, hr', hregistry], ?_⟩
      rw [hs, hs']
      constructor <;> simp <;> omega
    · obtain ⟨hr, hs⟩ := addModule_of_registered (g := g) hm (hregistry ▸ hreg)
      obtain ⟨hr', hs'⟩ := addModule_of_registered (g := g') hm hreg
      refine ⟨by rw [hr, hr', hregistry], ?_⟩
      rw [hs, hs']
      constructor <;> simp <;> omega

theorem OneMoreFailure.foldl (H : g.OneMoreFailure g') (modules : List String) :
    (modules.foldl (Gathering.addModule c t) g).OneMoreFailure
      (modules.foldl (Gathering.addModule c t) g') := by
  induction modules generalizing g g' with
  | nil => exact H
  | cons name modules ih => exact ih (H.addModule name)

end Gathering

/-- Two results of runs agree: both ended by one fault, or both done with related summaries. -/
inductive AgreeBy (related : Summary → Summary → Prop) :
    Except Fault Summary → Except Fault Summary → Prop
  | ok {s s' : Summary} (h : related s s') : AgreeBy related (.ok s) (.ok s')
  | error (fault : Fault) : AgreeBy related (.error fault) (.error fault)

namespace RunConfig

variable {c : RunConfig} {t : Tree} {name : String} {before : List String}

theorem gather_oneMoreFailure (after : List String) (h : (c.gather t before).Fails c t name) :
    (c.gather t (before ++ name :: after)).OneMoreFailure (c.gather t (before ++ after)) := by
  simp only [gather, List.foldl_append, List.foldl_cons]
  exact (Gathering.OneMoreFailure.of_fails h).foldl after

/-- A run with a module that fails at its place registers and writes what the run without it does,
and counts the same but for that module. -/
theorem run_of_fails (after : List String) (h : (c.gather t before).Fails c t name) :
    (c.gather t (before ++ name :: after)).registry = (c.gather t (before ++ after)).registry ∧
      (c.run t (before ++ name :: after)).tree = (c.run t (before ++ after)).tree ∧
        AgreeBy Summary.OneMoreFailure (c.run t (before ++ name :: after)).result
          (c.run t (before ++ after)).result := by
  obtain ⟨hregistry, hsummary⟩ := gather_oneMoreFailure after h
  refine ⟨hregistry, ?_, ?_⟩
  · simp only [run, hregistry]
    split <;> rfl
  · simp only [run, hregistry]
    cases (c.write t (c.gather t (before ++ after)).registry).result with
    | error fault => exact .error fault
    | ok count => exact .ok { hsummary with unitsWritten := rfl }

/-- The source of a service with one handler, on a path of its own. -/
def serviceSource (service path method : String) : String :=
  "///g:service\nstruct " ++ service ++ ";impl " ++ service ++ "\x7b///g:service_init\n" ++
    "fn n()->Result<" ++ service ++ ",Error>\x7b\x7d///g:handler GET " ++ path ++ "\nfn " ++ method ++
      "(&self,c:&Context)->u8\x7b\x7d\x7d"

/-- Three modules with one handler each. The second one takes the route of the first. -/
def contended : Tree where
  entries := [(["a.rs"], .text (serviceSource "S" "/x" "h")),
    (["b.rs"], .text (serviceSource "T" "/x" "i")), (["c.rs"], .text (serviceSource "U" "/y" "j"))]
  working := []

/-- A run in the working directory. -/
def inPlace : RunConfig := ⟨"", "out", "g", "hr", .respond, none⟩

/-- A run whose formatter writes the path of an entry point into it and nothing else. -/
def stamping : RunConfig := { inPlace with formatter := some fun path _ => .accepted path }

/-- The second module is refused, and the first and the third are registered and written as if it had
not been there. -/
theorem run_of_fails_contended :
    (stamping.gather contended ["a.rs"]).Fails stamping contended "b.rs" ∧
      (stamping.gather contended ["a.rs", "b.rs", "c.rs"]).registry =
        (stamping.gather contended ["a.rs", "c.rs"]).registry ∧
      (stamping.gather contended ["a.rs", "c.rs"]).registry.locations = ["S_h", "U_j"] ∧
      (stamping.run contended ["a.rs", "b.rs", "c.rs"]).tree =
        (stamping.run contended ["a.rs", "c.rs"]).tree ∧
      (stamping.run contended ["a.rs", "c.rs"]).tree.read? "out/U_j/main.rs" =
        some "out/U_j/main.rs" ∧
      (stamping.run contended ["a.rs", "c.rs"]).result.toOption = some ⟨2, 0, 2, 2, 0, 2⟩ ∧
      AgreeBy Summary.OneMoreFailure (stamping.run contended ["a.rs", "b.rs", "c.rs"]).result
        (stamping.run contended ["a.rs", "c.rs"]).result := by
  obtain ⟨hfails, hlocations, hwritten, hsummary⟩ :
      (stamping.gather contended ["a.rs"]).Fails stamping contended "b.rs" ∧
        (stamping.gather contended ["a.rs", "c.rs"]).registry.locations = ["S_h", "U_j"] ∧
        (stamping.run contended ["a.rs", "c.rs"]).tree.read? "out/U_j/main.rs" =
          some "out/U_j/main.rs" ∧
        (stamping.run contended ["a.rs", "c.rs"]).result.toOption = some ⟨2, 0, 2, 2, 0, 2⟩ := by
    decide +kernel
  have hruns := run_of_fails ["c.rs"] hfails
  simp only [List.cons_append, List.nil_append] at hruns
  obtain ⟨hregistry, htree, hresult⟩ := hruns
  exact ⟨hfails, hregistry, hlocations, htree, hwritten, hsummary, hresult⟩

end RunConfig

end Entrypoint
