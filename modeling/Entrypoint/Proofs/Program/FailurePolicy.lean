import Entrypoint.Proofs.Program.RequestValues

/-! What the policy about bad values decides. A program is built without it, so the faults of a handler
are the same under each policy. It is asked for in one kind of statement, which converts a path or query
variable: a value that does not convert is answered with status 400, or ends the program. All the
others, those that make the service, decode the body and answer, have one text. -/

namespace Entrypoint

open Statement (spaced braced localName matchOrReturn)

theorem mapIdx_map {α β γ : Type} (f : Nat → β → γ) (g : α → β) (list : List α) :
    (list.map g).mapIdx f = list.mapIdx fun index a => f index (g a) := by
  refine List.ext_getElem? fun index => ?_
  rw [List.getElem?_mapIdx, List.getElem?_map, List.getElem?_mapIdx, Option.map_map]
  rfl

theorem map_mapIdx {α β γ : Type} (f : Nat → α → β) (g : β → γ) (list : List α) :
    (list.mapIdx f).map g = list.mapIdx fun index a => g (f index a) := by
  refine List.ext_getElem? fun index => ?_
  rw [List.getElem?_map, List.getElem?_mapIdx, List.getElem?_mapIdx, Option.map_map]
  rfl

theorem Statement.spaced_spaced_before (l value after : String) :
    spaced ["let", l, "=", spaced [value, after], ";"] = spaced ["let", l, "=", value, after, ";"] := by
  simp only [spaced, String.intercalate_cons_cons, String.intercalate_singleton, String.append_assoc]

/-- A variable that is converted to a scalar. -/
structure Conversion where
  origin : Origin
  scalar : Scalar
  externalName : String

namespace Conversion

/-- The conversion of a variable of a place. -/
structure Of (origin : Origin) (v : Variable) (c : Conversion) : Prop where
  origin_eq : c.origin = origin
  type_eq : v.type = .scalar c.scalar
  externalName_eq : c.externalName = v.externalName

variable (c : Conversion) (policy : FailurePolicy) (index : Nat)

def extraction : Extraction := .converted c.origin c.scalar c.externalName

/-- The expression that reads the variable and converts it. -/
def value : String := Statement.converted c.origin c.scalar c.externalName

/-- The report of a value that does not convert. -/
def report : String := Statement.report (Statement.invalidMessage c.origin c.externalName)

/-- The expression for the converted value, with what is done about one that does not convert. -/
def outcome : FailurePolicy → String
  | .respond => spaced ["match", c.value, braced (spaced ["Ok (value) =>", "value",
      ", Err (err) => return", "respond_error (400 , " ++ c.report ++ ")", ","])]
  | .abort => spaced [c.value, ". unwrap_or_else (| err | panic ! (" ++
      Text.Quoted.literal "\x7b\x7d" ++ " , " ++ c.report ++ "))"]

/-- The statement that binds the converted value to a numbered local. -/
def text : String := spaced ["let", localName index, "=", c.outcome policy, ";"]

theorem errorAnswer_badRequest (message : String) : Statement.errorAnswer "400" message =
    "respond_error (400 , " ++ Statement.report message ++ ")" := by
  have hstatus : "respond_error (" ++ "400" ++ " , " = "respond_error (400 , " := by decide
  exact congrArg (· ++ Statement.report message ++ ")") hstatus

theorem outcome_respond : c.outcome .respond =
    matchOrReturn c.value "value" "400" (Statement.invalidMessage c.origin c.externalName) := by
  have hgood : "Ok (" ++ "value" ++ ") =>" = "Ok (value) =>" := by decide
  rw [outcome, matchOrReturn, errorAnswer_badRequest, hgood, report]

theorem text_extract : (Statement.extract index c.extraction).text policy = c.text policy index := by
  cases policy with
  | respond =>
    rw [text, outcome_respond]
    rfl
  | abort =>
    rw [text, outcome, Statement.spaced_spaced_before]
    rfl

theorem exists_conversion (scalar : Scalar) :
    ∃ rest, Statement.conversion scalar = "r" ++ rest := by
  cases scalar with
  | string => exact ⟨"untime :: coerce_string", by decide⟩
  | boolean => exact ⟨"untime :: coerce_bool", by decide⟩
  | integer kind =>
    refine ⟨"untime :: coerce_integer :: < " ++ kind.name ++ " >", ?_⟩
    rw [← String.append_assoc, ← String.append_assoc]
    rfl

/-! One outcome begins with a match, the other with the conversion itself. -/

theorem exists_outcome_respond : ∃ after, c.outcome .respond = "m" ++ after := by
  have hmatch : "match" = "m" ++ "atch" := by decide
  rw [outcome, spaced, String.intercalate_cons_cons, hmatch, String.append_assoc, String.append_assoc]
  exact ⟨_, rfl⟩

theorem exists_outcome_abort : ∃ after, c.outcome .abort = "r" ++ after := by
  obtain ⟨rest, hrest⟩ := exists_conversion c.scalar
  rw [outcome, value, Statement.converted, hrest, spaced, String.intercalate_cons_cons]
  simp only [String.append_assoc]
  exact ⟨_, rfl⟩

theorem text_eq : c.text policy index =
    "let" ++ " " ++ localName index ++ " " ++ "=" ++ " " ++ c.outcome policy ++ (" " ++ ";") := by
  simp only [text, spaced, String.intercalate_cons_cons, String.intercalate_singleton,
    String.append_assoc]

end Conversion

namespace Statement

/-- The statement converts a variable. -/
def converts : Statement → Bool
  | .extract _ (.converted ..) => true
  | _ => false

theorem text_eq_of_not_converts {s : Statement} (h : s.converts = false)
    (policy policy' : FailurePolicy) : s.text policy = s.text policy' := by
  cases s with
  | extract index extraction =>
    cases extraction with
    | converted => cases h
    | decoded => rfl
  | _ => rfl

end Statement

/-- The path and query variables of a handler, in the order they are taken. -/
def Handler.variables (handler : Handler) : List (Origin × Variable) :=
  (handler.config.map fun config =>
    config.pathVariables.map (.path, ·) ++ config.queryVariables.map (.query, ·)).getD []

namespace Program

variable {service : Service} {handler : Handler} {config : RequestConfig} {p : Program}

/-- The text of a program with the given texts of statements. -/
def frame (statements : List String) : String :=
  header ++ "\n\n" ++
    spaced [imports, handleSignature, braced (spaced statements), epilogue] ++ "\n"

theorem exists_conversions {origin : Origin} {vs : List Variable} {assigned : List Assignment}
    (h : vs.mapM (scalarAssignment origin) = .ok assigned) : ∃ conversions : List Conversion,
      List.Forall₂ (fun v c => c.Of v.1 v.2) (vs.map (origin, ·)) conversions ∧
      assigned.map (·.extraction) = conversions.map (·.extraction) := by
  have hfills := Results.mapM_eq_ok.mp h
  clear h
  induction hfills with
  | nil => exact ⟨[], .nil, rfl⟩
  | @cons v a vs assigned hv _ ih =>
    obtain ⟨conversions, hof, hmap⟩ := ih
    cases fills_of_scalarAssignment hv with
    | @parameter _ _ scalar field htype _ =>
      exact ⟨⟨origin, scalar, v.externalName⟩ :: conversions, .cons ⟨rfl, htype, rfl⟩ hof,
        congrArg _ hmap⟩

/-- The first text behind others stands in the frame behind what depends on those only. -/
theorem exists_frame {front : List String} (hne : front ≠ []) : ∃ start : String, ∀ text rest,
    ∃ after, frame (front ++ text :: rest) = start ++ text ++ after := by
  refine ⟨header ++ "\n\n" ++ (imports ++ " " ++ (handleSignature ++ " " ++ ("\x7b " ++
    (spaced front ++ " ")))), fun text rest => ?_⟩
  obtain ⟨after, hafter⟩ : ∃ after, spaced (text :: rest) = text ++ after := by
    cases rest with
    | nil => exact ⟨"", by rw [spaced, String.intercalate_singleton, String.append_empty]⟩
    | cons next rest =>
      refine ⟨" " ++ spaced (next :: rest), ?_⟩
      rw [spaced, String.intercalate_cons_cons, String.append_assoc]
      rfl
  have hspaced : spaced (front ++ text :: rest) = spaced front ++ " " ++ (text ++ after) := by
    rw [← hafter, spaced, String.intercalate_append_of_ne_nil hne (List.cons_ne_nil _ _)]
    rfl
  refine ⟨after ++ " \x7d" ++ " " ++ epilogue ++ "\n", ?_⟩
  rw [frame, braced, hspaced]
  simp only [spaced, String.intercalate_cons_cons, String.intercalate_singleton, String.append_assoc]

/-- Frames that come to the conversion of a variable at one place are not those of both policies. -/
theorem frame_ne {front : List String} (hne : front ≠ []) (c : Conversion) (index : Nat)
    (rest rest' : List String) :
    frame (front ++ c.text .respond index :: rest) ≠ frame (front ++ c.text .abort index :: rest') := by
  intro heq
  obtain ⟨start, hstart⟩ := exists_frame hne
  obtain ⟨after, hafter⟩ := hstart (c.text .respond index) rest
  obtain ⟨after', hafter'⟩ := hstart (c.text .abort index) rest'
  obtain ⟨value, hvalue⟩ := c.exists_outcome_respond
  obtain ⟨value', hvalue'⟩ := c.exists_outcome_abort
  rw [hafter, hafter', c.text_eq, c.text_eq, hvalue, hvalue'] at heq
  have hlist := congrArg String.toList heq
  simp [String.toList_append] at hlist

/-- The body of a config is decoded, by a statement with the given number. -/
def DecodesBody (config : RequestConfig) (index : Nat) (statements : List Statement) : Prop :=
  ∀ v, config.body = some v → ∃ name type, v.type = .struct name ∧ path name.path = .ok type ∧
    statements.head? = some (.extract index (.decoded type))

/-- The variables of a config are converted, numbered in their order, and then come its bodies. -/
theorem exists_extracts {l : ConfigLiteral} (h : literal config = .ok l) :
    ∃ (conversions : List Conversion) (bodies : List Assignment),
      List.Forall₂ (fun v c => c.Of v.1 v.2)
        (config.pathVariables.map (Origin.path, ·) ++ config.queryVariables.map (Origin.query, ·))
        conversions ∧
      config.body.toList.mapM bodyAssignment = .ok bodies ∧
      l.extracts = conversions.mapIdx (fun index c => .extract index c.extraction) ++
        bodies.mapIdx fun index a => .extract (index + conversions.length) a.extraction := by
  obtain ⟨paths, queries, bodies, hpaths, hqueries, hbodies, hassigned⟩ :=
    assignments_eq_ok (literal_eq_ok h).1
  obtain ⟨paths', hpaths', hpathMap⟩ := exists_conversions hpaths
  obtain ⟨queries', hqueries', hqueryMap⟩ := exists_conversions hqueries
  have hvariables : (paths ++ queries).map (·.extraction) =
      (paths' ++ queries').map (·.extraction) := by
    rw [List.map_append, List.map_append, hpathMap, hqueryMap]
  have hlength := congrArg List.length hvariables
  rw [List.length_map, List.length_map] at hlength
  have hnumbered := congrArg (List.mapIdx Statement.extract) hvariables
  rw [mapIdx_map, mapIdx_map] at hnumbered
  refine ⟨paths' ++ queries', bodies, List.rel_append hpaths' hqueries', hbodies, ?_⟩
  rw [ConfigLiteral.extracts, hassigned, List.mapIdx_append, hnumbered, hlength]

section Bodies

variable {bodies : List Assignment} (h : config.body.toList.mapM bodyAssignment = .ok bodies)
  (offset : Nat)

include h

theorem decodesBody_append (more : List Statement) : DecodesBody config offset
    (bodies.mapIdx (fun index a => .extract (index + offset) a.extraction) ++ more) := by
  intro v hv
  have hfills := Results.mapM_eq_ok.mp h
  rw [hv] at hfills
  obtain ⟨a, _, ha, -, rfl⟩ := List.forall₂_cons_left_iff.mp hfills
  cases fills_of_bodyAssignment ha with
  | @body _ name type field htype hpath _ =>
    exact ⟨name, type, htype, hpath, by simp⟩

theorem not_converts_of_bodies :
    ∀ s ∈ bodies.mapIdx fun index a => Statement.extract (index + offset) a.extraction,
      s.converts = false := by
  intro s hs
  obtain ⟨index, hindex, rfl⟩ := List.mem_mapIdx.mp hs
  obtain ⟨v, -, ha⟩ := Results.exists_of_mem_mapM h (List.getElem_mem hindex)
  generalize bodies[index] = a at ha ⊢
  cases fills_of_bodyAssignment ha
  rfl

end Bodies

/-- The statements of a config: conversions in the order of the variables, and before and behind them
statements that convert nothing. -/
theorem exists_configStatements {l : ConfigLiteral} (h : literal config = .ok l) :
    ∃ (conversions : List Conversion) (rest : List Statement),
      List.Forall₂ (fun v c => c.Of v.1 v.2)
        (config.pathVariables.map (Origin.path, ·) ++ config.queryVariables.map (Origin.query, ·))
        conversions ∧
      l.statements = l.lookups ++ conversions.mapIdx (fun index c => .extract index c.extraction) ++
        rest ∧
      DecodesBody config conversions.length rest ∧ ∀ s ∈ rest, s.converts = false := by
  obtain ⟨conversions, bodies, hconversions, hbodies, hextracts⟩ := exists_extracts h
  refine ⟨conversions, bodies.mapIdx (fun index a =>
    .extract (index + conversions.length) a.extraction) ++ [l.binding], hconversions, ?_,
    decodesBody_append hbodies _ _, ?_⟩
  · rw [ConfigLiteral.statements, hextracts, List.append_assoc, List.append_assoc, List.append_assoc]
  · exact List.forall_mem_append.mpr
      ⟨not_converts_of_bodies hbodies _, List.forall_mem_singleton.mpr rfl⟩

/-- A program's statements stand before, among and behind the conversions of a handler's variables. The
first makes the service, one right behind the conversions decodes the body, and the last answers. -/
structure StandsAround (p : Program) (handler : Handler) (front : List Statement)
    (conversions : List Conversion) (back : List Statement) : Prop where
  statements : p.statements =
    front ++ conversions.mapIdx (fun index c => .extract index c.extraction) ++ back
  takes : List.Forall₂ (fun v c => c.Of v.1 v.2) handler.variables conversions
  first : front.head? = some (.service p.initializer p.awaitsInitializer)
  body : ∀ config, handler.config = some config → DecodesBody config conversions.length back
  last : back.getLast? = some (.answer p.method p.context p.config.isSome p.awaitsMethod p.returns)
  not_converts : ∀ s ∈ front ++ back, s.converts = false

theorem exists_standsAround (h : ofHandler service handler = .ok p) :
    ∃ front conversions back, p.StandsAround handler front conversions back := by
  cases hconfig : handler.config with
  | none =>
    have hnone : p.config = none := by
      have hsome := (ofHandler_eq_ok h).2.1
      rwa [hconfig, Option.isSome_none, Option.isSome_eq_false_iff, Option.isNone_iff_eq_none] at hsome
    have hvariables : handler.variables = [] := by rw [Handler.variables, hconfig]; rfl
    refine ⟨[.service p.initializer p.awaitsInitializer, .context], [],
      [.answer p.method p.context p.config.isSome p.awaitsMethod p.returns],
      ?_, hvariables ▸ .nil, rfl, by simp [hconfig], rfl, by simp [Statement.converts]⟩
    rw [Program.statements, hnone]
    rfl
  | some config =>
    obtain ⟨l, hl, hpl⟩ := config_of_ofHandler h hconfig
    obtain ⟨conversions, rest, hconversions, hstatements, hbody, hrest⟩ := exists_configStatements hl
    have hvariables : handler.variables = config.pathVariables.map (Origin.path, ·) ++
        config.queryVariables.map (Origin.query, ·) := by
      rw [Handler.variables, hconfig]
      rfl
    refine ⟨[.service p.initializer p.awaitsInitializer, .context] ++ l.lookups, conversions,
      rest ++ [.answer p.method p.context p.config.isSome p.awaitsMethod p.returns],
      ?_, hvariables ▸ hconversions, rfl, ?_, List.getLast?_concat, ?_⟩
    · rw [Program.statements, hpl, Option.map_some, Option.getD_some, hstatements]
      simp only [List.append_assoc]
    · intro config' hconfig' v hv
      cases hconfig.symm.trans hconfig'
      obtain ⟨name, type, htype, hpath, hhead⟩ := hbody v hv
      exact ⟨name, type, htype, hpath, by rw [List.head?_append, hhead]; rfl⟩
    · simp only [List.forall_mem_append, List.forall_mem_cons]
      refine ⟨⟨⟨rfl, rfl, List.forall_mem_nil _⟩, fun s hs => ?_⟩, hrest, rfl, List.forall_mem_nil _⟩
      obtain ⟨origin, -, rfl⟩ := List.mem_map.mp hs
      rfl

end Program

/-- The parts of a handler's programs: the texts before the conversions of its variables and those behind
them are the same for each policy. -/
structure Service.Splits (service : Service) (handler : Handler) (front : List String)
    (conversions : List Conversion) (back : List String) : Prop where
  render : ∀ policy, service.render policy handler = .ok (Program.frame
    (front ++ conversions.mapIdx (fun index c => c.text policy index) ++ back))
  takes : List.Forall₂ (fun v c => c.Of v.1 v.2) handler.variables conversions
  initializer : ∃ path, Program.path (service.initializer.callPath service.typeRef) = .ok path ∧
    ∀ policy, front.head? = some ((Statement.service path service.initializer.isAsync).text policy)
  /-- A body that does not decode is answered with status 400. -/
  body : ∀ config v, handler.config = some config → config.body = some v → ∃ name type,
    v.type = .struct name ∧ Program.path name.path = .ok type ∧
      back.head? = some (spaced ["let", localName conversions.length, ":", type.text, "=",
        matchOrReturn "runtime :: from_json (request . body () . as_ref ())" "value" "400"
          "invalid request body", ";"])
  answer : ∃ method, Program.ident handler.function = .ok method ∧ ∀ policy, back.getLast? = some
    ((Statement.answer method handler.context handler.config.isSome handler.isAsync
      handler.returns).text policy)

namespace Program

variable {service : Service} {handler : Handler} {p : Program} {front back : List Statement}
  {conversions : List Conversion}

theorem StandsAround.map_text (H : p.StandsAround handler front conversions back)
    (policy : FailurePolicy) : p.statements.map (·.text policy) =
      front.map (·.text .respond) ++ conversions.mapIdx (fun index c => c.text policy index) ++
        back.map (·.text .respond) := by
  -- What converts nothing has the text that it has when values are answered.
  have hsame (part : List Statement) (hpart : part ⊆ front ++ back) :
      part.map (·.text policy) = part.map (·.text .respond) :=
    List.map_congr_left fun s hs =>
      Statement.text_eq_of_not_converts (H.not_converts s (hpart hs)) policy .respond
  have hconversions : (conversions.mapIdx fun index c => Statement.extract index c.extraction).map
      (·.text policy) = conversions.mapIdx fun index c => c.text policy index := by
    rw [map_mapIdx]
    exact congrArg (List.mapIdx · conversions)
      (funext fun index => funext fun c => c.text_extract policy index)
  rw [H.statements, List.map_append, List.map_append, hconversions,
    hsame front (List.subset_append_left _ _), hsame back (List.subset_append_right _ _)]

theorem StandsAround.splits (H : p.StandsAround handler front conversions back)
    (h : ofHandler service handler = .ok p) :
    service.Splits handler (front.map (·.text .respond)) conversions (back.map (·.text .respond)) := by
  obtain ⟨hpath, hconfig, hmethod, hcontext⟩ := ofHandler_eq_ok h
  obtain ⟨hawaits, hawaitsMethod, hreturns⟩ := taken_of_ofHandler h
  refine ⟨fun policy => ?_, H.takes, ⟨_, hpath, fun policy => ?_⟩, fun config v hc hv => ?_,
    ⟨_, hmethod, fun policy => ?_⟩⟩
  · rw [Service.render, h]
    exact congrArg Except.ok (congrArg frame (H.map_text policy))
  · rw [List.head?_map, H.first, ← hawaits]
    rfl
  · obtain ⟨name, type, htype, hpath, hhead⟩ := H.body config hc v hv
    exact ⟨name, type, htype, hpath, by rw [List.head?_map, hhead]; rfl⟩
  · rw [List.getLast?_map, H.last, ← hcontext, ← hconfig, ← hawaitsMethod, ← hreturns]
    rfl

end Program

/-- The policies give a handler different programs if it has variables. -/
theorem Service.Splits.render_eq_iff {service : Service} {handler : Handler} {front back : List String}
    {conversions : List Conversion} (H : service.Splits handler front conversions back) :
    service.render .respond handler = service.render .abort handler ↔ handler.variables = [] := by
  obtain ⟨_, _, hfirst⟩ := H.initializer
  have hne : front ≠ [] := fun hnil => by
    have hhead := hfirst .respond
    rw [hnil] at hhead
    cases hhead
  have hvariables := H.takes
  rw [H.render, H.render]
  cases conversions with
  | nil => simp [List.forall₂_nil_right_iff.mp hvariables]
  | cons c conversions =>
    refine iff_of_false (fun heq => ?_) fun hnil => ?_
    · rw [List.mapIdx_cons, List.mapIdx_cons, List.append_assoc, List.append_assoc, List.cons_append,
        List.cons_append] at heq
      exact Program.frame_ne hne c 0 _ _ (Except.ok.inj heq)
    · rw [hnil] at hvariables
      cases hvariables

/-- **What the policy decides.** Either no policy gives a handler a program, all with one fault; or all
do, the programs have the same statements around the conversions of the path and query variables, and
they are one program exactly if there are no such variables. -/
theorem Service.render_policies (service : Service) (handler : Handler) :
    (∃ fault, ∀ policy, service.render policy handler = .error fault) ∨
    (∃ front conversions back, service.Splits handler front conversions back) ∧
      (service.render .respond handler = service.render .abort handler ↔ handler.variables = []) := by
  cases h : Program.ofHandler service handler with
  | error fault =>
    refine .inl ⟨.render (service.location handler) fault, fun policy => ?_⟩
    rw [Service.render, h]
    rfl
  | ok p =>
    obtain ⟨front, conversions, back, H⟩ := Program.exists_standsAround h
    have hsplits := H.splits h
    exact .inr ⟨⟨_, _, _, hsplits⟩, hsplits.render_eq_iff⟩

end Entrypoint
