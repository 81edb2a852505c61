import Entrypoint.Proofs.Program.Rendering
import Entrypoint.Proofs.Service.Attachment
import Entrypoint.Proofs.Service.Initializer

/-! The calls of a program. A rendered program calls two functions of its service: the initializer,
with nothing, and the method of the handler, with the context and with the config if there is one.
A method is accepted only if it can be called so. The parameters of an initializer are looked at by
no check, so its call fits exactly if it declares none. -/

namespace Entrypoint

/-- A call of a function of a service, as it is written. -/
structure Call where
  callee : String
  arguments : List String

/-- The text of a call. -/
def Call.text (call : Call) : String :=
  Statement.spaced [call.callee, "(" ++ " , ".intercalate call.arguments ++ ")"]

open Text (StandsIn)

namespace Statement

/-- The argument that gives the context to a method. -/
def contextArgument : ContextPassing → String
  | .byValue => "context"
  | .byReference => "& context"

/-- The call of a function of the service that a statement makes. -/
def call? : Statement → Option Call
  | service initializer _ => some ⟨initializer.text, []⟩
  | answer method passing withConfig _ _ =>
    some ⟨"service . " ++ method.text, contextArgument passing :: optional withConfig "config"⟩
  | _ => none

/-! ### Where calls stand -/

variable {texts : List String}

theorem spaced_spaced (htexts : texts ≠ []) (last : String) :
    spaced [spaced texts, last] = spaced (texts ++ [last]) := by
  rw [spaced_pair, spaced, spaced, String.intercalate_append_of_ne_nil htexts (List.cons_ne_nil _ _),
    String.intercalate_singleton]

theorem text_methodCall (method : String) (passing : ContextPassing) (withConfig : Bool) :
    (Call.mk ("service . " ++ method)
        (contextArgument passing :: optional withConfig "config")).text =
      spaced ["service .", method, "(" ++ (contextArgument passing ++
        if withConfig then " , config" else "") ++ ")"] := by
  have hcallee : "service . " ++ method = spaced ["service .", method] := by
    rw [spaced_pair]
    rfl
  have hargs : " , ".intercalate (contextArgument passing :: optional withConfig "config") =
      contextArgument passing ++ if withConfig then " , config" else "" := by
    cases withConfig with
    | true => rw [optional, if_pos rfl, String.intercalate_cons_cons,
        String.intercalate_singleton, String.append_assoc]; rfl
    | false => rw [optional, if_neg Bool.false_ne_true, String.intercalate_singleton,
        if_neg Bool.false_ne_true, String.append_empty]
  rw [Call.text, hargs, hcallee, spaced_spaced (List.cons_ne_nil _ _)]
  rfl

theorem standsIn_of_call? {s : Statement} {call : Call} (h : s.call? = some call)
    (policy : FailurePolicy) : StandsIn call.text (s.text policy) := by
  cases s with
  | service initializer awaits =>
    cases h
    refine .trans ?_ (standsIn_spaced (List.mem_cons_of_mem _ List.mem_cons_self))
    refine .trans ?_ (standsIn_spaced (List.mem_cons_of_mem _ List.mem_cons_self))
    exact standsIn_spaced_append _
  | answer method passing withConfig awaits returns =>
    cases h
    have hcall : StandsIn (Call.mk ("service . " ++ method.text)
        (contextArgument passing :: optional withConfig "config")).text
        (callText method passing withConfig awaits) := by
      rw [text_methodCall]
      cases passing <;> exact standsIn_spaced_append _
    refine .trans hcall ?_
    cases returns <;> exact standsIn_spaced (List.mem_cons_of_mem _ List.mem_cons_self)
  | context | lookup | extract | config => cases h

end Statement

namespace Program

variable {p : Program} {service : Service} {handler : Handler}

/-- The calls of functions of the service that a program makes, in their order. -/
def calls (p : Program) : List Call := p.statements.filterMap Statement.call?

theorem standsIn_of_mem_calls {call : Call} (h : call ∈ p.calls) (policy : FailurePolicy) :
    StandsIn call.text (p.text policy) := by
  obtain ⟨s, hs, hcall⟩ := List.mem_filterMap.mp h
  exact .trans (Statement.standsIn_of_call? hcall policy) (standsIn_statement hs)

theorem filterMap_call?_config (l : ConfigLiteral) :
    l.statements.filterMap Statement.call? = [] := by
  refine List.filterMap_eq_nil_iff.mpr fun s hs => ?_
  rcases List.mem_append.mp hs with hs | hs
  · rcases List.mem_append.mp hs with hs | hs
    · obtain ⟨origin, _, rfl⟩ := List.mem_map.mp hs
      rfl
    · obtain ⟨i, _, rfl⟩ := List.mem_mapIdx.mp hs
      rfl
  · rw [List.mem_singleton.mp hs]
    rfl

/-- A program makes its service and then calls the method, and nothing else. -/
theorem calls_eq (p : Program) : p.calls = [⟨p.initializer.text, []⟩,
    ⟨"service . " ++ p.method.text,
      Statement.contextArgument p.context :: Statement.optional p.config.isSome "config"⟩] := by
  have hconfig : ((p.config.map ConfigLiteral.statements).getD []).filterMap Statement.call? = [] := by
    cases p.config with
    | none => rfl
    | some l => exact filterMap_call?_config l
  rw [calls, statements, List.filterMap_append, List.filterMap_append, hconfig]
  rfl

theorem ofHandler_eq_ok (h : ofHandler service handler = .ok p) :
    path (service.initializer.callPath service.typeRef) = .ok p.initializer ∧
      p.config.isSome = handler.config.isSome ∧ ident handler.function = .ok p.method ∧
        p.context = handler.context := by
  obtain ⟨initializer, hinitializer, h⟩ := Results.bind_eq_ok.mp h
  obtain ⟨config, hconfig, h⟩ := Results.bind_eq_ok.mp h
  obtain ⟨method, hmethod, h⟩ := Results.bind_eq_ok.mp h
  have hsome : config.isSome = handler.config.isSome := by
    rcases Results.mapM_option_eq_ok.mp hconfig with ⟨hnone, rfl⟩ | ⟨_, _, hsome, _, rfl⟩
    · rw [hnone]
      rfl
    · rw [hsome]
      rfl
  dsimp only at h
  split at h
  · cases h
    exact ⟨hinitializer, hsome, hmethod, rfl⟩
  · cases h

end Program

namespace TaggedCatalog

variable {t : TaggedCatalog} {outcome : Outcome} {service : Service} {handler : Handler}

/-- A handler's method takes the context and, if the handler has a config, the config. -/
theorem length_parameters_of_handler {scope declaration args : String} {signature : Signature}
    (h : t.handler scope declaration signature args = .ok handler) :
    signature.parameters.length = if handler.config.isSome then 2 else 1 := by
  obtain ⟨binding, _, h⟩ := Results.bind_eq_ok.mp h
  obtain ⟨⟨context, type, returns⟩, hshape, h⟩ := Results.bind_eq_ok.mp h
  obtain ⟨config, hconfig, h⟩ := Results.bind_eq_ok.mp h
  have hparameters := handlerShape_eq_ok (Results.mapError_eq_ok.mp hshape)
  cases h
  rcases Results.mapM_option_eq_ok.mp hconfig with ⟨rfl, rfl⟩ | ⟨_, _, rfl, _, rfl⟩
  · unfold Signature.handlerParameters at hparameters
    split at hparameters
    · rename_i first hfirst
      rw [hfirst]
      rfl
    · obtain ⟨_, _, hpair⟩ := Results.map_eq_ok.mp hparameters
      cases hpair
    · cases hparameters
  · obtain ⟨first, hfirst⟩ := handlerParameters_eq_ok hparameters
    rw [hfirst]
    rfl

/-- **What a program calls, and with what.** The program of a built handler calls the initializer
of its service and the method of the handler. The method gets the context, and the config exactly if
the handler has one, which is one argument for each of its parameters. The initializer gets nothing,
which is one argument for each of its parameters exactly if it declares none. -/
theorem calls_of_build {policy : FailurePolicy} {text : String} (hbuild : t.build = .ok outcome)
    (hservice : service ∈ outcome.services) (hhandler : handler ∈ service.handlers)
    (htext : service.render policy handler = .ok text) :
    ∃ (candidate : Candidate) (p : Program) (making answering : Call),
      (t.HasInitializer service.name candidate ∧ service.initializer = candidate.initializer) ∧
      (Program.ofHandler service handler = .ok p ∧ p.text policy = text) ∧
      (p.calls = [making, answering] ∧ ∀ call ∈ p.calls, StandsIn call.text text) ∧
      (Program.path (service.initializer.callPath service.typeRef) = .ok p.initializer ∧
        making = ⟨p.initializer.text, []⟩) ∧
      (making.arguments.length = candidate.signature.parameters.length ↔
        candidate.signature.parameters = []) ∧
      Nonempty (t.HandlerOrigin service.name handler) ∧
        ∀ origin : t.HandlerOrigin service.name handler,
          answering = ⟨"service . " ++ origin.method.name,
            Statement.contextArgument handler.context ::
              Statement.optional handler.config.isSome "config"⟩ ∧
          answering.arguments.length = origin.method.signature.parameters.length := by
  obtain ⟨s, _, initializer, hinitializer, rfl⟩ := exists_serviceStruct hbuild hservice
  obtain ⟨candidate, hcandidate, rfl⟩ := hasInitializer_of_ok hinitializer
  obtain ⟨p, hp, rfl⟩ := Service.render_eq_ok htext
  obtain ⟨hpath, hconfig, hmethod, hcontext⟩ := Program.ofHandler_eq_ok hp
  refine ⟨candidate, p, _, _, ⟨hcandidate, rfl⟩, ⟨hp, rfl⟩, ⟨p.calls_eq, fun call hcall => ?_⟩,
    ⟨hpath, rfl⟩, ?_, exists_origin_of_build hbuild hservice hhandler, fun origin => ?_⟩
  · exact Program.standsIn_of_mem_calls hcall policy
  · rw [List.length_nil, eq_comm, List.length_eq_zero_iff]
  · have hname : p.method = origin.method.signature.name := by
      rw [(handler_eq_ok origin.handler_eq).1, Program.ident_text] at hmethod
      exact (Except.ok.inj hmethod).symm
    rw [hconfig, hcontext, hname]
    refine ⟨rfl, ?_⟩
    rw [length_parameters_of_handler origin.handler_eq]
    cases handler.config <;> rfl

end TaggedCatalog

/-! ### An initializer with a parameter

The initializer of the service `S` takes a value of the type `R`. -/

namespace Sample

def takingInitializer : Function :=
  { initializer with signature := { initializer.signature with parameters := [typeOf configName] } }

def takingFile : SourceFile :=
  ⟨"s.rs", "s", [.record ⟨"g:service", serviceName, .absent⟩,
    .methods (typeOf serviceName) [takingInitializer, plainMethod]]⟩

def takingCatalog : TaggedCatalog := ⟨"g", Catalog.ofFiles [takingFile]⟩

def takingService : Service := ⟨⟨"s", "S"⟩, [], ⟨⟨"s", "n"⟩, true, false⟩, [plainHandler]⟩

theorem build_taking : takingCatalog.build = .ok ⟨[takingService], []⟩ :=
  Results.eq_ok_of_toOption (by decide)

/-- The initializer declares a parameter and is called with nothing. -/
theorem calls_of_taking :
    takingCatalog.build = .ok ⟨[takingService], []⟩ ∧
      ∃ (text : String) (candidate : Candidate) (p : Program) (making answering : Call),
        takingService.render .respond plainHandler = .ok text ∧ p.text .respond = text ∧
        takingCatalog.HasInitializer "S" candidate ∧ p.calls = [making, answering] ∧
          making.arguments = [] ∧ candidate.signature.parameters.length = 1 ∧
            answering.arguments = ["context"] := by
  have hrendered : (takingService.render .respond plainHandler).toOption.isSome := by
    decide +kernel
  obtain ⟨text, htext⟩ := Results.exists_of_isSome_toOption hrendered
  obtain ⟨candidate, p, making, answering, ⟨hcandidate, _⟩, ⟨_, hp⟩, ⟨hcalls, _⟩, ⟨_, rfl⟩, _,
    ⟨origin⟩, hanswering⟩ := TaggedCatalog.calls_of_build build_taking (List.mem_singleton_self _)
      (List.mem_singleton_self plainHandler) htext
  have hparameters :
      (takingCatalog.candidates.map (·.signature.parameters.length)) = [1] := by
    decide
  have hmem : candidate ∈ takingCatalog.candidates := by
    have hof : candidate ∈ takingCatalog.initializersOf "S" :=
      hcandidate.1 ▸ List.mem_singleton_self candidate
    exact (List.mem_filter.mp hof).1
  refine ⟨build_taking, text, candidate, p, _, answering, htext, hp, hcandidate, hcalls, rfl, ?_, ?_⟩
  · have hlength := List.mem_map_of_mem (f := (·.signature.parameters.length)) hmem
    rw [hparameters] at hlength
    exact List.mem_singleton.mp hlength
  · rw [(hanswering origin).1]
    rfl

end Sample

end Entrypoint
