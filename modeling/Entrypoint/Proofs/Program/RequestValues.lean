import Entrypoint.Proofs.Program.Calls
import Entrypoint.Proofs.Source.LiteralValue

/-! The values that a program takes from a request. Each value of a config has a numbered local: the
path variables come first, then the query variables and the body, and the numbers count from zero.
A variable is looked up among those of its place, under a literal that denotes its external name, and
converted to its scalar. The config pairs each field with the local of its value. -/

namespace Entrypoint

open Text (StandsIn)

/-- A value that a config takes from a request. -/
inductive RequestValue
  | parameter (origin : Origin) (v : Variable)
  | body (v : Variable)

namespace RequestValue

/-- The name of the field that gets the value. -/
def fieldName : RequestValue → String
  | parameter _ v => v.fieldName
  | body v => v.fieldName

/-- The value is a variable of the given place. -/
def isFrom (origin : Origin) : RequestValue → Bool
  | parameter o _ => o == origin
  | body _ => false

/-- The assignment takes the value into its field: a variable by its external name from its place,
converted to its scalar, and a body decoded to its struct. -/
inductive Fills : RequestValue → Assignment → Prop
  | parameter {origin : Origin} {v : Variable} {scalar : Scalar} {field : Ident}
      (htype : v.type = .scalar scalar) (hfield : Program.ident v.fieldName = .ok field) :
      Fills (.parameter origin v) ⟨field, .converted origin scalar v.externalName⟩
  | body {v : Variable} {name : QualifiedName} {type : PathExpr} {field : Ident}
      (htype : v.type = .struct name) (hpath : Program.path name.path = .ok type)
      (hfield : Program.ident v.fieldName = .ok field) : Fills (.body v) ⟨field, .decoded type⟩

/-- The text binds a numbered local to the value. A variable is read by a literal that denotes its
external name. -/
inductive BoundBy (policy : FailurePolicy) (index : Nat) (text : String) : RequestValue → Prop
  | parameter {origin : Origin} {v : Variable} {scalar : Scalar} {literal message : String}
      (htype : v.type = .scalar scalar) (hliteral : Lexeme.IsLiteral literal)
      (hdenotes : Attribute.textValue? literal = some v.externalName)
      (hmessage : Attribute.textValue? message = some (Spelling.complaint v.externalName origin))
      (htext : text = Spelling.parameter policy index origin scalar literal message) :
      BoundBy policy index text (.parameter origin v)
  | body {v : Variable} {name : QualifiedName} {type : PathExpr}
      (htype : v.type = .struct name) (hpath : Program.path name.path = .ok type)
      (htext : text = Spelling.body index (TokenTree.textAll type.tokens)) :
      BoundBy policy index text (.body v)

variable {value : RequestValue} {a : Assignment}

theorem Fills.isFrom_eq (H : value.Fills a) (origin : Origin) :
    a.extraction.isFrom origin = value.isFrom origin := by
  cases H <;> rfl

theorem Fills.ident_eq (H : value.Fills a) : Program.ident value.fieldName = .ok a.field := by
  cases H with
  | parameter _ hfield => exact hfield
  | body _ _ hfield => exact hfield

/-- What an assignment takes is bound by its statement. -/
theorem Fills.boundBy (H : value.Fills a) (policy : FailurePolicy) (index : Nat) :
    value.BoundBy policy index ((Statement.extract index a.extraction).text policy) := by
  cases H with
  | parameter htype _ =>
    exact .parameter htype (Lexeme.isLiteral_literal _) (Attribute.textValue?_literal _)
      (Attribute.textValue?_literal _) (Statement.text_converted ..)
  | body htype hpath _ => exact .body htype hpath (Statement.text_decoded ..)

end RequestValue

namespace RequestConfig

variable {config : RequestConfig} {assigned : List Assignment}

/-- The variables of a place. -/
def parameters (config : RequestConfig) : Origin → List Variable
  | .path => config.pathVariables
  | .query => config.queryVariables

/-- The places that a config has variables of. -/
def places (config : RequestConfig) : List Origin :=
  [Origin.path, .query].filter fun origin => !(config.parameters origin).isEmpty

/-- The values of a config, in the order they are taken. -/
def values (config : RequestConfig) : List RequestValue :=
  config.pathVariables.map (.parameter .path) ++ config.queryVariables.map (.parameter .query) ++
    config.body.toList.map .body

theorem length_values (config : RequestConfig) : config.values.length =
    config.pathVariables.length + config.queryVariables.length + config.body.toList.length := by
  simp only [values, List.length_append, List.length_map]

theorem any_isFrom_values (config : RequestConfig) (origin : Origin) :
    config.values.any (·.isFrom origin) = !(config.parameters origin).isEmpty := by
  have hother (vs : List Variable) (o : Origin) :
      (vs.map (RequestValue.parameter o)).any (·.isFrom origin) = (!vs.isEmpty && o == origin) := by
    induction vs with
    | nil => rfl
    | cons v vs ih =>
      rw [List.map_cons, List.any_cons, ih, RequestValue.isFrom]
      cases o == origin <;> simp
  have hbody : (config.body.toList.map RequestValue.body).any (·.isFrom origin) = false := by
    cases config.body <;> rfl
  rw [values, List.any_append, List.any_append, hother, hother, hbody, Bool.or_false]
  cases origin <;> simp [parameters]

end RequestConfig

namespace Program

variable {config : RequestConfig} {assigned : List Assignment} {v : Variable} {a : Assignment}

theorem fills_of_scalarAssignment {origin : Origin} (h : scalarAssignment origin v = .ok a) :
    (RequestValue.parameter origin v).Fills a := by
  unfold scalarAssignment at h
  split at h
  · rename_i scalar htype
    obtain ⟨field, hfield, rfl⟩ := Results.map_eq_ok.mp h
    exact .parameter htype hfield
  · cases h

theorem fills_of_bodyAssignment (h : bodyAssignment v = .ok a) : (RequestValue.body v).Fills a := by
  unfold bodyAssignment at h
  split at h
  · rename_i name htype
    obtain ⟨type, hpath, h⟩ := Results.bind_eq_ok.mp h
    obtain ⟨field, hfield, h⟩ := Results.bind_eq_ok.mp h
    cases h
    exact .body htype hpath hfield
  · cases h

/-- The assignments of a config take its values in their order. -/
theorem fills_of_assignments (h : assignments config = .ok assigned) :
    List.Forall₂ RequestValue.Fills config.values assigned := by
  obtain ⟨paths, queries, body, hpaths, hqueries, hbody, rfl⟩ := assignments_eq_ok h
  refine List.rel_append (List.rel_append ?_ ?_) ?_ <;> rw [List.forall₂_map_left_iff]
  · exact (Results.mapM_eq_ok.mp hpaths).imp fun _ _ => fills_of_scalarAssignment
  · exact (Results.mapM_eq_ok.mp hqueries).imp fun _ _ => fills_of_scalarAssignment
  · exact (Results.mapM_eq_ok.mp hbody).imp fun _ _ => fills_of_bodyAssignment

/-- Assignments use a place exactly if the config has variables of it. -/
theorem uses_of_fills {l : ConfigLiteral}
    (H : List.Forall₂ RequestValue.Fills config.values l.assignments) (origin : Origin) :
    l.uses origin = !(config.parameters origin).isEmpty := by
  rw [← config.any_isFrom_values, ConfigLiteral.uses]
  generalize config.values = values at H
  generalize l.assignments = assigned at H
  induction H with
  | nil => rfl
  | cons hhead _ ih => rw [List.any_cons, List.any_cons, hhead.isFrom_eq, ih]

end Program

/-- Statements bind the values of a config to locals, and its fields are named. -/
structure RequestConfig.TakenBy (config : RequestConfig) (policy : FailurePolicy) (type : PathExpr)
    (fields : List Ident) (locals : List String) : Prop where
  path_typeRef : Program.path config.typeRef.path = .ok type
  named : List.Forall₂ (fun value field => Program.ident value.fieldName = .ok field)
    config.values fields
  length : locals.length =
    config.pathVariables.length + config.queryVariables.length + config.body.toList.length
  bound : ∀ index (value : RequestValue), config.values[index]? = some value →
    ∃ text, locals[index]? = some text ∧ value.BoundBy policy index text

/-- The statements by which a program takes what its method needs besides the context. The places of
variables come first, each once, then the values in their order and the config, which pairs each field
with the local of its value. -/
inductive Handler.TakenBy (handler : Handler) (policy : FailurePolicy) : List String → Prop
  | plain (h : handler.config = none) : TakenBy handler policy []
  | config {config : RequestConfig} {type : PathExpr} {fields : List Ident} {locals : List String}
      (h : handler.config = some config) (htaken : config.TakenBy policy type fields locals) :
      TakenBy handler policy (config.places.map Spelling.lookup ++ locals ++
        [Spelling.config (TokenTree.textAll type.tokens) (fields.map (·.text)) config.hasOtherFields])

namespace Program

variable {service : Service} {handler : Handler} {config : RequestConfig} {p : Program}

theorem takenBy_of_literal {l : ConfigLiteral} (policy : FailurePolicy)
    (h : literal config = .ok l) : config.TakenBy policy l.type (l.assignments.map (·.field))
      (l.extracts.map (·.text policy)) := by
  obtain ⟨hassigned, htype, _⟩ := literal_eq_ok h
  have hfills := fills_of_assignments hassigned
  refine ⟨htype, ?_, ?_, fun index value hvalue => ?_⟩
  · rw [List.forall₂_map_right_iff]
    exact hfills.imp fun _ _ H => H.ident_eq
  · rw [List.length_map, ConfigLiteral.extracts, List.length_mapIdx, ← hfills.length_eq,
      config.length_values]
  · obtain ⟨hindex, rfl⟩ := List.getElem?_eq_some_iff.mp hvalue
    have hlt : index < l.assignments.length := hfills.length_eq ▸ hindex
    refine ⟨_, ?_, (hfills.get hindex hlt).boundBy policy index⟩
    rw [List.getElem?_map, ConfigLiteral.extracts, List.getElem?_mapIdx,
      List.getElem?_eq_getElem hlt]
    rfl

/-- The statements of a config are those that take its values. -/
theorem map_text_statements {l : ConfigLiteral} (policy : FailurePolicy)
    (h : literal config = .ok l) : l.statements.map (·.text policy) =
      config.places.map Spelling.lookup ++ l.extracts.map (·.text policy) ++
        [Spelling.config (TokenTree.textAll l.type.tokens)
          ((l.assignments.map (·.field)).map (·.text)) config.hasOtherFields] := by
  obtain ⟨hassigned, _, hrest⟩ := literal_eq_ok h
  have hlookups : l.lookups.map (·.text policy) = config.places.map Spelling.lookup := by
    rw [ConfigLiteral.lookups, funext (uses_of_fills (fills_of_assignments hassigned)),
      List.map_map]
    exact List.map_congr_left fun origin _ => Statement.text_lookup policy origin
  rw [ConfigLiteral.statements, List.map_append, List.map_append, hlookups, List.map_singleton,
    l.text_binding, hrest, List.map_map]
  rfl

theorem exists_takenBy (policy : FailurePolicy) (h : ofHandler service handler = .ok p) :
    ∃ taken, handler.TakenBy policy taken ∧
      ((p.config.map ConfigLiteral.statements).getD []).map (·.text policy) = taken := by
  cases hconfig : handler.config with
  | none =>
    have hsome := (ofHandler_eq_ok h).2.1
    rw [hconfig, Option.isSome_none, Option.isSome_eq_false_iff, Option.isNone_iff_eq_none] at hsome
    rw [hsome]
    exact ⟨_, .plain hconfig, rfl⟩
  | some config =>
    obtain ⟨l, hl, hpl⟩ := config_of_ofHandler h hconfig
    rw [hpl]
    exact ⟨_, .config hconfig (takenBy_of_literal policy hl), map_text_statements policy hl⟩

/-- What a program takes over from its service and its handler. -/
theorem taken_of_ofHandler (h : ofHandler service handler = .ok p) :
    p.awaitsInitializer = service.initializer.isAsync ∧ p.awaitsMethod = handler.isAsync ∧
      p.returns = handler.returns := by
  obtain ⟨initializer, _, h⟩ := Results.bind_eq_ok.mp h
  obtain ⟨found, _, h⟩ := Results.bind_eq_ok.mp h
  obtain ⟨method, _, h⟩ := Results.bind_eq_ok.mp h
  dsimp only at h
  split at h
  · cases h
    exact ⟨rfl, rfl, rfl⟩
  · cases h

end Program

/-- **What a program takes from a request.** A rendered program is spelled out by the statements of the
function that handles a request. It has one local for each path variable, each query variable and the
body, in this order and numbered from zero. A variable is looked up in the map of its place, which is
bound once and only if some variable is in it, by a literal that denotes its external name, and
converted to its scalar; the config pairs each field with the local of its value. Without a config there
are neither locals nor a config, and the method gets the context alone. -/
theorem Service.takes_of_render {policy : FailurePolicy} {service : Service} {handler : Handler}
    {text : String} (h : service.render policy handler = .ok text) :
    ∃ (initializer : PathExpr) (method : Ident) (taken : List String),
      Program.path (service.initializer.callPath service.typeRef) = .ok initializer ∧
      Program.ident handler.function = .ok method ∧ handler.TakenBy policy taken ∧
      StandsIn (Spelling.function (
        [Spelling.service (TokenTree.textAll initializer.tokens) service.initializer.isAsync,
          "let context = request . lambda_context () ;"] ++ taken ++
        [Spelling.answer (Spelling.call method.text handler.context handler.config.isSome
          handler.isAsync) handler.returns])) text := by
  obtain ⟨p, hp, rfl⟩ := Service.render_eq_ok h
  obtain ⟨hinitializer, hconfig, hmethod, hcontext⟩ := Program.ofHandler_eq_ok hp
  obtain ⟨hawaits, hawaitsMethod, hreturns⟩ := Program.taken_of_ofHandler hp
  obtain ⟨taken, htaken, htext⟩ := Program.exists_takenBy policy hp
  refine ⟨p.initializer, p.method, taken, hinitializer, hmethod, htaken, ?_⟩
  have hfunction := p.standsIn_function policy
  rw [Program.statements, List.map_append, List.map_append, htext, List.map_cons, List.map_singleton,
    List.map_singleton, Statement.text_service, Statement.text_answer] at hfunction
  rwa [← hawaits, ← hcontext, ← hconfig, ← hawaitsMethod, ← hreturns]

/-! ### A name with a quote

The config `R` of the handler `h` has a path variable and a query variable, whose name is a quote, a
null character and the digit one. -/

namespace Sample

def quotedVariable : Variable := ⟨"\"\x001", .scalar .boolean, "b"⟩

def quotedConfig : RequestConfig :=
  ⟨⟨"s", "R"⟩, [⟨"id", .scalar (.integer .u64), "a"⟩], [quotedVariable], none, false⟩

def quotedHandler : Handler := ⟨.get, "/{id}", some quotedConfig, "h", false, .byValue, .plain⟩

def quotedService : Service := ⟨⟨"s", "S"⟩, [], ⟨⟨"s", "n"⟩, true, false⟩, [quotedHandler]⟩

theorem parameter_quoted (literal message : String) :
    Spelling.parameter .abort 1 .query .boolean literal message =
      "let arg_1 = runtime :: coerce_bool (query_parameters . first (" ++ literal ++
        ") . unwrap_or_default ()) . unwrap_or_else (| err | panic ! (\"\x7b\x7d\" , " ++
        "ApiError :: new (" ++ message ++ " , err))) ;" := by
  refine String.toList_inj.mp ?_
  dsimp only [Spelling.parameter, Spelling.converted, Spelling.conversion, Spelling.variableOf]
  simp only [String.toList_append, List.append_assoc]
  repeat rw [String.toList_ofList]
  rfl

/-- The name comes back from the literal of the second local, which the config takes over. -/
theorem takes_of_quoted :
    ∃ text literal message : String, quotedService.render .abort quotedHandler = .ok text ∧
      Attribute.textValue? literal = some "\"\x001" ∧
      StandsIn "let query_parameters = request . query_string_parameters () ;" text ∧
      StandsIn ("let arg_1 = runtime :: coerce_bool (query_parameters . first (" ++ literal ++
        ") . unwrap_or_default ()) . unwrap_or_else (| err | panic ! (\"\x7b\x7d\" , " ++
        "ApiError :: new (" ++ message ++ " , err))) ;") text ∧
      StandsIn "let config = s :: R \x7b a : arg_0 , b : arg_1 , \x7d ;" text := by
  have hrendered : (quotedService.render .abort quotedHandler).toOption.isSome := by
    decide +kernel
  obtain ⟨text, htext⟩ := Results.exists_of_isSome_toOption hrendered
  obtain ⟨_, _, taken, _, _, htaken, hfunction⟩ := Service.takes_of_render htext
  have hstands : ∀ s ∈ taken, StandsIn s text := fun s hs =>
    .trans (Program.standsIn_of_mem (List.mem_append_left _ (List.mem_append_right _ hs))) hfunction
  cases htaken with
  | plain h => cases h
  | @config _ type fields locals h H =>
    cases h
    obtain ⟨bound, hlocal, hbound⟩ := H.bound 1 (.parameter .query quotedVariable) rfl
    have hmem : bound ∈ locals := List.mem_of_getElem? hlocal
    have hfields : fields.map (·.text) = ["a", "b"] := by
      have hidents : List.Forall₂ (fun (value : RequestValue) (field : Ident) =>
          Program.ident value.fieldName = .ok field) quotedConfig.values [firstName, secondName] :=
        .cons (Program.ident_text firstName) (.cons (Program.ident_text secondName) .nil)
      have hunique : Relator.RightUnique fun (value : RequestValue) (field : Ident) =>
          Program.ident value.fieldName = .ok field :=
        fun _ _ _ hfield hother => Except.ok.inj (hfield.symm.trans hother)
      rw [hunique.forall₂ H.named hidents]
      rfl
    have htype : TokenTree.textAll type.tokens = "s :: R" := by
      have hpath : (Program.path quotedConfig.typeRef.path).toOption.map
          (fun path => TokenTree.textAll path.tokens) = some "s :: R" := by
        decide +kernel
      rw [H.path_typeRef] at hpath
      exact Option.some.inj hpath
    cases hbound with
    | @parameter _ _ scalar literal message hscalar _ hdenotes _ hbinds =>
      cases hscalar
      refine ⟨text, literal, message, htext, hdenotes, ?_, ?_, ?_⟩
      · exact hstands _ (List.mem_append_left _ (List.mem_append_left _ (by decide)))
      · rw [← parameter_quoted, ← hbinds]
        exact hstands _ (List.mem_append_left _ (List.mem_append_right _ hmem))
      · have hconfig : Spelling.config "s :: R" ["a", "b"] false =
            "let config = s :: R \x7b a : arg_0 , b : arg_1 , \x7d ;" := by
          decide
        rw [← hconfig, ← htype, ← hfields]
        exact hstands _ (List.mem_append_right _ (List.mem_singleton_self _))

end Sample

end Entrypoint
