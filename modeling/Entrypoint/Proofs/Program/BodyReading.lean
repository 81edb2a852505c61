import Entrypoint.Proofs.Program.Rows
import Entrypoint.Proofs.Source.StatementReading

/-! The statements of a program are read again from their tokens. A statement that binds a name is
taken whole in front of any others, and the answer ends the row. -/

namespace Entrypoint.Grammar

open Reading Statement

variable {policy : FailurePolicy} {depth fuel : Nat} {structs : Bool} {status message : String}
  {scrutinee rest : List TokenTree}

/-! ### Arms -/

set_option maxRecDepth 2000 in
theorem run_arm_err (depth : Nat) (status message : String) {jump : List TokenTree}
    (hjump : jump = [] ∨ jump = [.named "return"]) :
    ∃ tokens, (Grammar.ofDepth (depth + 13)).arm.run ⟨errRow jump status message, []⟩ =
      some (tokens, ⟨[], []⟩) := by
  rcases hjump with rfl | rfl <;> exact ⟨_, rfl⟩

theorem run_arm_value :
    ∃ tokens, (Grammar.ofDepth (depth + 13)).arm.run
      ⟨okRow (.named "value") [.named "value"] ++ rest, []⟩ = some (tokens, ⟨rest, []⟩) := ⟨_, rfl⟩

theorem run_arm_service :
    ∃ tokens, (Grammar.ofDepth (depth + 13)).arm.run
      ⟨okRow (.named "service") [.named "service"] ++ rest, []⟩ = some (tokens, ⟨rest, []⟩) :=
  ⟨_, rfl⟩

theorem run_arm_output :
    ∃ tokens, (Grammar.ofDepth (depth + 13)).arm.run
      ⟨okRow (.named "output") outputRow ++ rest, []⟩ = some (tokens, ⟨rest, []⟩) := ⟨_, rfl⟩

/-! ### Scrutinees -/

theorem run_atom_conversion (scalar : Scalar) {body : List TokenTree} :
    ((Grammar.ofDepth (depth + 12)).atom structs).run
        ⟨conversionRow scalar ++ .group .paren body :: rest, []⟩ =
      some (.plain (conversionRow scalar), ⟨.group .paren body :: rest, []⟩) := by
  rcases scalar with _ | _ | kind
  · cases structs <;> rfl
  · cases structs <;> rfl
  · cases kind <;> cases structs <;> rfl

theorem run_selections_argument (depth fuel : Nat) (origin : Origin) (externalName : String)
    (tokens rest : List TokenTree) :
    ∃ tokens', ((Grammar.ofDepth (depth + 12)).selections (.plain tokens) (fuel + 1)).run
        ⟨.group .paren (argumentRow origin externalName) :: rest, []⟩ =
      ((Grammar.ofDepth (depth + 12)).selections (.plain tokens') fuel).run ⟨rest, []⟩ := by
  cases origin <;> exact ⟨_, rfl⟩

theorem run_selections_abort {tokens : List TokenTree} :
    ∃ tokens', ((Grammar.ofDepth (depth + 12)).selections (.plain tokens) (fuel + 2)).run
        ⟨abortRow message ++ rest, []⟩ =
      ((Grammar.ofDepth (depth + 12)).selections (.plain tokens') fuel).run ⟨rest, []⟩ :=
  ⟨_, rfl⟩

theorem run_expression_decoded {inside : List TokenTree} :
    ∃ e, ((Grammar.ofDepth (depth + 12)).expression false).run
        ⟨decodedRow ++ .group .brace inside :: rest, []⟩ =
      some (e, ⟨.group .brace inside :: rest, []⟩) := ⟨_, rfl⟩

/-! ### Conversions -/

theorem endsExpression_brace {inside : List TokenTree} :
    EndsExpression (.group .brace inside :: rest) := ⟨rfl, rfl, rfl⟩

theorem endsExpression_semicolon : EndsExpression (.punct ';' false :: rest) := ⟨rfl, rfl, rfl⟩

theorem endsExpression_comma : EndsExpression (.punct ',' false :: rest) := ⟨rfl, rfl, rfl⟩

theorem endsExpression_nil : EndsExpression [] := ⟨rfl, rfl, rfl⟩

/-- A conversion is an expression, with what is selected from its outcome. -/
theorem run_expression_converted (depth : Nat) (structs : Bool) (selected : List TokenTree)
    (H : EndsExpression rest) (origin : Origin) (scalar : Scalar) (externalName : String)
    (hselected : ∀ tokens, ∃ tokens' fuel, ((Grammar.ofDepth (depth + 12)).selections (.plain tokens)
      ((selected ++ rest).length + 1)).run ⟨selected ++ rest, []⟩ =
        ((Grammar.ofDepth (depth + 12)).selections (.plain tokens') (fuel + 1)).run ⟨rest, []⟩) :
    ∃ e, ((Grammar.ofDepth (depth + 13)).expression structs).run
        ⟨convertedRow origin scalar externalName ++ (selected ++ rest), []⟩ =
      some (e, ⟨rest, []⟩) := by
  obtain ⟨tokens, hargument⟩ := run_selections_argument depth ((selected ++ rest).length + 1) origin
    externalName (conversionRow scalar) (selected ++ rest)
  obtain ⟨tokens', fuel, hrest⟩ := hselected tokens
  rw [hrest, run_selections_end H] at hargument
  have hrow : convertedRow origin scalar externalName ++ (selected ++ rest) =
      conversionRow scalar ++ .group .paren (argumentRow origin externalName) :: (selected ++ rest) :=
    List.append_assoc ..
  have hoperand : (operandWith (.ofDepth (depth + 12)) structs).run
      ⟨convertedRow origin scalar externalName ++ (selected ++ rest), []⟩ =
        some (.plain tokens', ⟨rest, []⟩) := by
    rw [hrow]
    refine run_operandWith ?_ ?_ (run_atom_conversion scalar) hargument (kind_plain _)
    all_goals cases scalar <;> rfl
  exact ⟨_, run_expression H hoperand⟩

/-! ### Choices -/

/-- A choice between a good value and an error is read arm by arm. -/
theorem run_match {ok : List TokenTree} (jump : List TokenTree) {e : Expression}
    (hok : ∀ rest, ∃ tokens, (Grammar.ofDepth (depth + 13)).arm.run ⟨ok ++ rest, []⟩ =
      some (tokens, ⟨rest, []⟩))
    (hstart : ok.head? = some (.named "Ok"))
    (hjump : jump = [] ∨ jump = [.named "return"])
    (hscrutinee : ((Grammar.ofDepth (depth + 13)).expression false).run
      ⟨scrutinee ++ .group .brace (ok ++ errRow jump status message) :: rest, []⟩ =
        some (e, ⟨.group .brace (ok ++ errRow jump status message) :: rest, []⟩)) :
    ∃ tokens, (Grammar.ofDepth (depth + 13)).blockExpression.run
      ⟨.named "match" :: (scrutinee ++ .group .brace (ok ++ errRow jump status message) :: rest), []⟩ =
        some (⟨.block, tokens, true⟩, ⟨rest, []⟩) := by
  obtain ⟨tokens, herr⟩ := run_arm_err depth status message hjump
  obtain ⟨tokens', hok⟩ := hok (errRow jump status message)
  obtain ⟨_, others, rfl⟩ : ∃ tree others, ok = tree :: others := by
    cases ok with
    | nil => cases hstart
    | cons tree others => exact ⟨tree, others, rfl⟩
  cases hstart
  have harms : (many .atEnd (Grammar.ofDepth (depth + 13)).arm
      ((.named "Ok" :: others ++ errRow jump status message).length + 1)).run
      ⟨.named "Ok" :: others ++ errRow jump status message, []⟩ =
        some ([tokens', tokens], ⟨[], []⟩) := by
    have hlength : 0 < (errRow jump status message).length := Nat.succ_pos _
    obtain ⟨fuel, hfuel⟩ : ∃ fuel,
        (.named "Ok" :: others ++ errRow jump status message).length + 1 = fuel + 3 :=
      ⟨others.length + (errRow jump status message).length - 1, by
        rw [List.length_append, List.length_cons]; omega⟩
    rw [hfuel]
    exact run_many_cons rfl hok (run_many_cons rfl herr run_many_nil)
  exact ⟨_, run_blockExpression_match hscrutinee rfl harms⟩

/-- A choice is the value of a binding. -/
theorem run_value_match (depth : Nat) (status message : String) (rest : List TokenTree)
    {good : TokenTree}
    (hgood : ∀ rest, ∃ tokens, (Grammar.ofDepth (depth + 13)).arm.run ⟨okRow good [good] ++ rest, []⟩ =
      some (tokens, ⟨rest, []⟩))
    (hscrutinee : ∀ inside, ∃ e, ((Grammar.ofDepth (depth + 13)).expression false).run
      ⟨scrutinee ++ .group .brace inside :: .punct ';' false :: rest, []⟩ =
        some (e, ⟨.group .brace inside :: .punct ';' false :: rest, []⟩)) :
    ∃ e, ((Grammar.ofDepth (depth + 14)).expression true).run
      ⟨matchRow scrutinee good status message ++ .punct ';' false :: rest, []⟩ =
        some (e, ⟨.punct ';' false :: rest, []⟩) := by
  obtain ⟨e, hscrutinee⟩ := hscrutinee (armsRow good status message)
  obtain ⟨tokens, hmatch⟩ := run_match [.named "return"] hgood rfl (.inr rfl) hscrutinee
  have hrow : matchRow scrutinee good status message ++ .punct ';' false :: rest =
      .named "match" :: (scrutinee ++ .group .brace (armsRow good status message) ::
        .punct ';' false :: rest) := by
    simp [matchRow]
  rw [hrow]
  exact ⟨_, run_expression_match endsExpression_semicolon hmatch⟩

/-! ### Bindings -/

/-- A row for a statement that ends by itself is taken whole. -/
def ReadsStatement (g : Grammar) (row rest : List TokenTree) : Prop :=
  ∃ tokens, g.statement.run ⟨row ++ rest, []⟩ = some (⟨tokens, true⟩, ⟨rest, []⟩)

theorem readsStatement_let {g : Grammar} (attributes : List TokenTree)
    {names value : List TokenTree} {pattern : Pattern}
    (hattributes : ∀ rest, ∃ tokens, g.outerAttributes.run
      ⟨attributes ++ .named "let" :: rest, []⟩ = some (tokens, ⟨.named "let" :: rest, []⟩))
    (hpattern : ∀ rest, g.pattern.run ⟨names ++ .punct '=' false :: rest, []⟩ =
      some (pattern, ⟨.punct '=' false :: rest, []⟩))
    (hvalue : ∃ e, (g.expression true).run ⟨value ++ .punct ';' false :: rest, []⟩ =
      some (e, ⟨.punct ';' false :: rest, []⟩)) :
    g.ReadsStatement (attributes ++ letRow names value) rest := by
  obtain ⟨e, hvalue⟩ := hvalue
  obtain ⟨tokens, hattributes⟩ :=
    hattributes (names ++ .punct '=' false :: (value ++ .punct ';' false :: rest))
  obtain ⟨bound, hbinding⟩ := run_binding (hpattern _) hvalue
  have hrow : attributes ++ letRow names value ++ rest = attributes ++ .named "let" ::
      (names ++ .punct '=' false :: (value ++ .punct ';' false :: rest)) := by
    simp [letRow]
  rw [ReadsStatement, hrow]
  exact ⟨_, run_statement_let hattributes hbinding⟩

theorem run_outerAttributes_let {g : Grammar} :
    ∃ tokens, g.outerAttributes.run ⟨[] ++ .named "let" :: rest, []⟩ =
      some (tokens, ⟨.named "let" :: rest, []⟩) :=
  ⟨_, run_outerAttributes (Ahead.punct_word _)⟩

theorem run_outerAttributes_allow :
    ∃ tokens, (Grammar.ofDepth (depth + 14)).outerAttributes.run
      ⟨allowRow ++ .named "let" :: rest, []⟩ = some (tokens, ⟨.named "let" :: rest, []⟩) := ⟨_, rfl⟩

theorem run_pattern_ident (i : Ident) :
    (Grammar.ofDepth (depth + 14)).pattern.run ⟨[.word i.word] ++ .punct '=' false :: rest, []⟩ =
      some (plainPattern [.word i.word], ⟨.punct '=' false :: rest, []⟩) :=
  run_patternWith_name (g := .ofDepth (depth + 13)) rfl

/-! ### Statements -/

theorem readsStatement_context :
    (Grammar.ofDepth (depth + 14)).ReadsStatement (Statement.context.row policy) rest := ⟨_, rfl⟩

theorem readsStatement_lookup (origin : Origin) :
    (Grammar.ofDepth (depth + 14)).ReadsStatement ((Statement.lookup origin).row policy) rest := by
  cases origin <;> exact ⟨_, rfl⟩

theorem run_expression_initializer {initializer : PathExpr} {awaits : Bool} {inside : List TokenTree}
    (hplain : initializer.isPlain = true) (htry : initializer.isTry = false) :
    ∃ e, ((Grammar.ofDepth (depth + 13)).expression false).run
      ⟨initializerRow initializer awaits ++ .group .brace inside :: rest, []⟩ =
        some (e, ⟨.group .brace inside :: rest, []⟩) := by
  let waiting : List TokenTree := if awaits then [.punct '.' false, .named "await"] else []
  have hrow : initializerRow initializer awaits ++ .group .brace inside :: rest =
      initializer.tokens ++ .group .paren [] :: (waiting ++ .group .brace inside :: rest) := by
    simp [initializerRow, awaitRow, waiting]
  have hpunct : ∀ {operator : String}, (operator.toList.head? == some ':') = false →
      Ahead.punct operator (initializer.tokens ++ .group .paren [] ::
        (waiting ++ .group .brace inside :: rest)) = false := fun h => punct_tokens hplain h _
  have hends : EndsValue false (.group .paren [] :: (waiting ++ .group .brace inside :: rest)) :=
    ⟨endsPath_value rfl, rfl, rfl, rfl⟩
  have hselections : ∃ tokens, ((Grammar.ofDepth (depth + 12)).selections (.plain initializer.tokens)
      ((.group .paren [] :: (waiting ++ .group .brace inside :: rest)).length + 1)).run
      ⟨.group .paren [] :: (waiting ++ .group .brace inside :: rest), []⟩ =
        some (.plain tokens, ⟨.group .brace inside :: rest, []⟩) := by
    rw [List.length_cons, run_selections_call]
    cases awaits with
    | false => exact ⟨_, run_selections_end endsExpression_brace _ _⟩
    | true => exact ⟨_, run_selections_await.trans (run_selections_end endsExpression_brace _ _)⟩
  obtain ⟨tokens, hselections⟩ := hselections
  have hoperand : (operandWith (.ofDepth (depth + 12)) false).run
      ⟨initializer.tokens ++ .group .paren [] :: (waiting ++ .group .brace inside :: rest), []⟩ =
        some (.plain tokens, ⟨.group .brace inside :: rest, []⟩) :=
    run_operandWith (hpunct (by decide)) (by simp (disch := decide) [Ahead.any, hpunct])
      (run_atom_value hplain htry hends) hselections (kind_plain _)
  rw [hrow]
  exact ⟨_, run_expression endsExpression_brace hoperand⟩

theorem readsStatement_service {initializer : PathExpr} {awaits : Bool}
    (hplain : initializer.isPlain = true) (htry : initializer.isTry = false) :
    (Grammar.ofDepth (depth + 14)).ReadsStatement ((Statement.service initializer awaits).row policy)
      rest :=
  readsStatement_let allowRow (fun _ => run_outerAttributes_allow) (fun _ => rfl)
    (run_value_match depth "500" "failed to initialize service" rest (fun _ => run_arm_service)
      fun _ => run_expression_initializer hplain htry)

theorem readsStatement_extract {index : Nat} {extraction : Extraction}
    (hplain : extraction.isPlain = true) (hplaceable : extraction.isPlaceable = true) :
    (Grammar.ofDepth (depth + 14)).ReadsStatement ((Statement.extract index extraction).row policy)
      rest := by
  cases extraction with
  | converted origin scalar externalName =>
    refine readsStatement_let [] (fun _ => run_outerAttributes_let)
      (fun _ => run_pattern_ident (localIdent index)) ?_
    cases policy with
    | respond =>
      refine run_value_match depth "400" (invalidMessage origin externalName) rest
        (fun _ => run_arm_value) fun inside => ?_
      exact run_expression_converted depth false [] endsExpression_brace origin scalar externalName
        fun tokens => ⟨tokens, _, rfl⟩
    | abort =>
      rw [List.append_assoc]
      exact run_expression_converted (depth + 1) true (abortRow (invalidMessage origin externalName))
        endsExpression_semicolon origin scalar externalName fun tokens =>
          let ⟨tokens', h⟩ := run_selections_abort; ⟨tokens', _, h⟩
  | decoded type =>
    have htry : type.leadsWithTry = false := by simpa [Extraction.isPlaceable] using hplaceable
    obtain ⟨e, hvalue⟩ := run_value_match depth "400" "invalid request body" rest
      (fun _ => run_arm_value) fun _ => run_expression_decoded
    have hname : ∀ rest, EndsName (.punct ':' false :: (type.tokens ++ rest)) := fun _ => rfl
    obtain ⟨bound, hbinding⟩ := run_binding_typed
      (run_patternWith_name (g := .ofDepth (depth + 13)) (i := localIdent index) (hname _))
      (run_typeWith_path hplain htry ⟨⟨rfl, fun _ => rfl⟩, rfl, rfl⟩) hvalue
    have hrow : (Statement.extract index (.decoded type)).row policy ++ rest =
        .named "let" :: .word (localIdent index).word :: .punct ':' false :: (type.tokens ++
          .punct '=' false :: (matchRow decodedRow (.named "value") "400" "invalid request body" ++
            .punct ';' false :: rest)) := by
      simp [Statement.row, extractRow, letRow]
    rw [ReadsStatement, hrow]
    exact ⟨_, run_statement_let (run_outerAttributes (Ahead.punct_word _)) hbinding⟩

/-! ### The config -/

theorem run_fieldValues_rest {hasRest : Bool} :
    ∃ tokens, ((Grammar.ofDepth (depth + 13)).fieldValues (fuel + 1)).run
      ⟨fieldsRow [] hasRest, []⟩ = some (tokens, ⟨[], []⟩) := by
  cases hasRest <;> exact ⟨_, rfl⟩

/-- The fields of a literal take the values of names. -/
theorem run_fieldValues_fieldsRow (depth : Nat) {fields : List (Ident × Nat)} {hasRest : Bool}
    (h : fields.length < fuel) :
    ∃ tokens, ((Grammar.ofDepth (depth + 13)).fieldValues fuel).run
      ⟨fieldsRow fields hasRest, []⟩ = some (tokens, ⟨[], []⟩) := by
  induction fields generalizing fuel with
  | nil =>
    obtain ⟨fuel, rfl⟩ := Nat.exists_eq_add_of_lt h
    rw [List.length_nil, Nat.zero_add]
    exact run_fieldValues_rest
  | cons field fields ih =>
    obtain ⟨fuel, rfl⟩ : ∃ k, fuel = k + 1 := ⟨fuel - 1, by omega⟩
    obtain ⟨tokens, hothers⟩ := ih (Nat.lt_of_succ_lt_succ h)
    let name : PathExpr := .ofNames false (.ofIdent (localIdent field.2)) []
    have htokens : name.tokens = [.word (localIdent field.2).word] := PathExpr.tokens_ofNames ..
    have hplain : name.isPlain = true := rfl
    have htry : name.isTry = false := by
      refine PathExpr.isTry_of_leadsWithTry ?_
      rw [PathExpr.leadsWithTry_ofNames]
      exact beq_false_of_ne (localName_ne rfl (by decide)).symm
    have hvalue : ((Grammar.ofDepth (depth + 13)).expression true).run
        ⟨name.tokens ++ .punct ',' false :: fieldsRow fields hasRest, []⟩ =
          some (.plain name.tokens, ⟨.punct ',' false :: fieldsRow fields hasRest, []⟩) :=
      run_expression_path hplain htry ⟨endsPath_value rfl, rfl, rfl, rfl⟩ endsExpression_comma
    rw [htokens] at hvalue
    exact run_fieldValues_cons hvalue hothers

/-- The word that leads a block. -/
theorem tokens_of_isTry {p : PathExpr} (hplain : p.isPlain = true) (htry : p.isTry = true) :
    p.tokens = [.named "try"] := by
  obtain ⟨rooted, first, names, rfl⟩ := PathExpr.exists_ofNames hplain
  obtain ⟨hlead, hparents⟩ := Bool.and_eq_true_iff.mp htry
  rw [PathExpr.leadsWithTry_ofNames, Bool.and_eq_true_iff, beq_iff_eq, Bool.not_eq_true'] at hlead
  obtain ⟨rfl, htext⟩ := hlead
  cases names with
  | nil =>
    obtain ⟨⟨text, hword⟩, hname⟩ := first
    cases htext
    exact PathExpr.tokens_ofNames ..
  | cons name names => cases hparents

set_option maxRecDepth 2000 in
/-- A literal of a path that leads a block is a block. -/
theorem run_expression_tryLiteral {hasRest : Bool} :
    ∃ e, ((Grammar.ofDepth (depth + 14)).expression true).run
      ⟨[.named "try", .group .brace (fieldsRow [] hasRest)] ++ .punct ';' false :: rest, []⟩ =
        some (e, ⟨.punct ';' false :: rest, []⟩) := by
  cases hasRest <;> exact ⟨_, rfl⟩

theorem length_lt_length_fieldsRow (fields : List (Ident × Nat)) (hasRest : Bool) :
    fields.length < (fieldsRow fields hasRest).length + 1 := by
  have hfields : fields.length ≤ (fields.flatMap fieldRow).length := by
    induction fields with
    | nil => exact Nat.le_refl _
    | cons field fields ih =>
      rw [List.flatMap_cons, List.length_append, List.length_cons]
      have hfield : 0 < (fieldRow field).length := Nat.succ_pos _
      omega
  rw [fieldsRow, List.length_append]
  omega

theorem run_expression_literal {type : PathExpr} {fields : List (Ident × Nat)} {hasRest : Bool}
    (hplain : type.isPlain = true) (htry : type.isTry = false ∨ fields = []) :
    ∃ e, ((Grammar.ofDepth (depth + 14)).expression true).run
      ⟨type.tokens ++ [.group .brace (fieldsRow fields hasRest)] ++ .punct ';' false :: rest, []⟩ =
        some (e, ⟨.punct ';' false :: rest, []⟩) := by
  cases htype : type.isTry with
  | false =>
    obtain ⟨tokens, hfields⟩ := run_fieldValues_fieldsRow depth
      (length_lt_length_fieldsRow fields hasRest)
    have hoperand : (operandWith (.ofDepth (depth + 13)) true).run
        ⟨type.tokens ++ .group .brace (fieldsRow fields hasRest) :: .punct ';' false :: rest, []⟩ =
          some (.plain (type.tokens ++ [.group .brace tokens]), ⟨.punct ';' false :: rest, []⟩) := by
      have hpunct : ∀ {operator : String}, (operator.toList.head? == some ':') = false →
          Ahead.punct operator (type.tokens ++ .group .brace (fieldsRow fields hasRest) ::
            .punct ';' false :: rest) = false := fun h => punct_tokens hplain h _
      exact run_operandWith (hpunct (by decide)) (by simp (disch := decide) [Ahead.any, hpunct])
        (run_atom_literal hplain htype hfields) (run_selections_end endsExpression_semicolon _ _)
        (kind_plain _)
    rw [List.append_assoc]
    exact ⟨_, run_expression endsExpression_semicolon hoperand⟩
  | true =>
    rw [htry.resolve_left (by simp [htype]), tokens_of_isTry hplain htype]
    exact run_expression_tryLiteral

theorem readsStatement_config {type : PathExpr} {fields : List (Ident × Nat)} {hasRest : Bool}
    (hplain : type.isPlain = true) (htry : type.isTry = false ∨ fields = []) :
    (Grammar.ofDepth (depth + 14)).ReadsStatement
      ((Statement.config type fields hasRest).row policy) rest :=
  readsStatement_let [] (fun _ => run_outerAttributes_let) (fun _ => rfl)
    (run_expression_literal hplain htry)

/-! ### The answer -/

theorem run_atom_service :
    ((Grammar.ofDepth (depth + 12)).atom structs).run
        ⟨.named "service" :: .punct '.' false :: rest, []⟩ =
      some (.plain [.named "service"], ⟨.punct '.' false :: rest, []⟩) := by
  cases structs <;> rfl

theorem run_selections_arguments (depth fuel : Nat) (passing : ContextPassing) (withConfig : Bool)
    (tokens rest : List TokenTree) :
    ∃ tokens', ((Grammar.ofDepth (depth + 12)).selections (.plain tokens) (fuel + 1)).run
        ⟨.group .paren (argumentsRow passing withConfig) :: rest, []⟩ =
      ((Grammar.ofDepth (depth + 12)).selections (.plain tokens') fuel).run ⟨rest, []⟩ := by
  cases passing <;> cases withConfig <;> exact ⟨_, rfl⟩

theorem run_expression_call (depth : Nat) (structs : Bool) (method : Ident)
    (passing : ContextPassing) (withConfig awaits : Bool) (H : EndsExpression rest) :
    ∃ e, ((Grammar.ofDepth (depth + 13)).expression structs).run
      ⟨callRow method passing withConfig awaits ++ rest, []⟩ = some (e, ⟨rest, []⟩) := by
  let waiting : List TokenTree := if awaits then [.punct '.' false, .named "await"] else []
  have hrow : callRow method passing withConfig awaits ++ rest =
      .named "service" :: .punct '.' false :: .word method.word ::
        .group .paren (argumentsRow passing withConfig) :: (waiting ++ rest) := by
    simp [callRow, awaitRow, waiting]
  obtain ⟨tokens, harguments⟩ := run_selections_arguments depth ((waiting ++ rest).length + 2)
    passing withConfig [.named "service", .punct '.' false, .word method.word] (waiting ++ rest)
  have hwaiting : ∃ tokens', ((Grammar.ofDepth (depth + 12)).selections (.plain tokens)
      ((waiting ++ rest).length + 2)).run ⟨waiting ++ rest, []⟩ =
        some (.plain tokens', ⟨rest, []⟩) := by
    cases awaits with
    | false => exact ⟨_, run_selections_end H _ _⟩
    | true => exact ⟨_, run_selections_await.trans (run_selections_end H _ _)⟩
  obtain ⟨tokens', hwaiting⟩ := hwaiting
  have hselections : ((Grammar.ofDepth (depth + 12)).selections (.plain [.named "service"])
      ((waiting ++ rest).length + 4)).run ⟨.punct '.' false :: .word method.word ::
        .group .paren (argumentsRow passing withConfig) :: (waiting ++ rest), []⟩ =
          some (.plain tokens', ⟨rest, []⟩) :=
    (run_selections_method rfl).trans (harguments.trans hwaiting)
  have hoperand : (operandWith (.ofDepth (depth + 12)) structs).run
      ⟨.named "service" :: .punct '.' false :: .word method.word ::
        .group .paren (argumentsRow passing withConfig) :: (waiting ++ rest), []⟩ =
        some (.plain tokens', ⟨rest, []⟩) :=
    run_operandWith rfl rfl run_atom_service hselections (kind_plain _)
  rw [hrow]
  exact ⟨_, run_expression H hoperand⟩

/-- A row of statements is read to its end. -/
def ReadsStatements (g : Grammar) (row : List TokenTree) : Prop :=
  ∀ fuel, row.length < fuel →
    ∃ tokens, (g.statementsFrom fuel).run ⟨row, []⟩ = some (tokens, ⟨[], []⟩)

theorem readsStatements_output : (Grammar.ofDepth (depth + 14)).ReadsStatements outputRow := by
  intro fuel hfuel
  obtain ⟨fuel, rfl⟩ : ∃ k, fuel = k + 3 := ⟨fuel - 3, by
    rw [outputRow, List.length_cons, List.length_singleton] at hfuel
    omega⟩
  exact ⟨_, rfl⟩

/-- A row of statements is a body. -/
theorem ReadsStatements.run {body : List TokenTree}
    (H : (Grammar.ofDepth depth).ReadsStatements body) :
    ∃ tokens, (Grammar.ofDepth (depth + 1)).statements.run ⟨body, []⟩ = some (tokens, ⟨[], []⟩) :=
  H (body.length + 1) (Nat.lt_succ_self _)

/-- A statement that ends by itself is followed by others. -/
theorem ReadsStatements.cons {row others : List TokenTree} {g : Grammar}
    (H : g.ReadsStatements others) (hstart : Ahead.any [.atEnd, .punct ";"] (row ++ others) = false)
    (hrow : g.ReadsStatement row others) (hne : row ≠ []) : g.ReadsStatements (row ++ others) := by
  intro fuel hfuel
  have hpos : 0 < row.length := List.length_pos_iff.mpr hne
  obtain ⟨fuel, rfl⟩ : ∃ k, fuel = k + 1 := ⟨fuel - 1, by omega⟩
  obtain ⟨tokens, hrow⟩ := hrow
  obtain ⟨others, hothers⟩ := H fuel (by rw [List.length_append] at hfuel; omega)
  exact ⟨_, run_statementsFrom_cons hstart hrow hothers⟩

theorem readsStatements_match {front : List TokenTree} {tokens : List TokenTree}
    (h : (Grammar.ofDepth (depth + 13)).blockExpression.run ⟨.named "match" :: front, []⟩ =
      some (⟨.block, tokens, true⟩, ⟨[], []⟩)) (hne : front ≠ []) :
    (Grammar.ofDepth (depth + 14)).ReadsStatements (.named "match" :: front) := by
  intro fuel hfuel
  have hpos : 0 < front.length := List.length_pos_iff.mpr hne
  obtain ⟨fuel, rfl⟩ : ∃ k, fuel = k + 2 := ⟨fuel - 2, by rw [List.length_cons] at hfuel; omega⟩
  exact run_statementsFrom_match h fuel

theorem readsStatements_answer {method : Ident} {passing : ContextPassing}
    {withConfig awaits : Bool} {returns : ReturnShape} :
    (Grammar.ofDepth (depth + 14)).ReadsStatements
      ((Statement.answer method passing withConfig awaits returns).row policy) := by
  cases returns with
  | result =>
    obtain ⟨e, hcall⟩ := run_expression_call depth false method passing withConfig awaits
      (endsExpression_brace : EndsExpression [.group .brace resultRow])
    obtain ⟨tokens, hmatch⟩ := run_match [] (fun _ => run_arm_output) rfl (.inl rfl) hcall
    exact readsStatements_match hmatch (List.append_ne_nil_of_right_ne_nil _ (List.cons_ne_nil _ _))
  | plain =>
    exact readsStatements_output.cons rfl (readsStatement_let []
      (fun _ => run_outerAttributes_let) (fun _ => rfl)
      (run_expression_call (depth + 1) true method passing withConfig awaits
        endsExpression_semicolon)) (List.cons_ne_nil _ _)

/-! ### Bodies -/

/-- The rows of statements, each of which ends by itself, before others. -/
theorem ReadsStatements.flatMap {g : Grammar} {statements : List Statement} {last : List TokenTree}
    (H : g.ReadsStatements last)
    (h : ∀ s ∈ statements, ∀ rest, s.row policy ≠ [] ∧
      Ahead.any [.atEnd, .punct ";"] (s.row policy ++ rest) = false ∧
        g.ReadsStatement (s.row policy) rest) :
    g.ReadsStatements (statements.flatMap (·.row policy) ++ last) := by
  induction statements with
  | nil => exact H
  | cons s statements ih =>
    obtain ⟨hs, hstatements⟩ := List.forall_mem_cons.mp h
    obtain ⟨hne, hstart, hrow⟩ := hs (statements.flatMap (·.row policy) ++ last)
    rw [List.flatMap_cons, List.append_assoc]
    exact (ih hstatements).cons hstart hrow hne

end Entrypoint.Grammar

namespace Entrypoint.Program

open Grammar

variable {policy : FailurePolicy} {depth : Nat} {p : Program}

/-- The statements of a config, which the answer follows. -/
theorem readsStatement_of_mem_literal {l : ConfigLiteral} (hplain : l.isPlain = true)
    (hplaceable : l.isPlaceable = true) {s : Statement} (hs : s ∈ l.statements)
    (rest : List TokenTree) : s.row policy ≠ [] ∧
      Ahead.any [.atEnd, .punct ";"] (s.row policy ++ rest) = false ∧
        (Grammar.ofDepth (depth + 14)).ReadsStatement (s.row policy) rest := by
  obtain ⟨htype, hassignments⟩ := Bool.and_eq_true_iff.mp hplain
  obtain ⟨hliteral, hextractions⟩ := Bool.and_eq_true_iff.mp hplaceable
  obtain ⟨-, htry⟩ := Bool.and_eq_true_iff.mp hliteral
  rcases List.mem_append.mp hs with hs | hs
  · rcases List.mem_append.mp hs with hs | hs
    · obtain ⟨origin, -, rfl⟩ := List.mem_map.mp hs
      exact ⟨by cases origin <;> exact List.cons_ne_nil _ _, by cases origin <;> rfl,
        readsStatement_lookup origin⟩
    · obtain ⟨index, hindex, rfl⟩ := List.mem_mapIdx.mp hs
      have hmem := List.getElem_mem hindex
      have hplain := List.all_eq_true.mp hassignments _ hmem
      have hplaceable := List.all_eq_true.mp hextractions _ hmem
      generalize l.assignments[index].extraction = extraction at hplain hplaceable
      refine ⟨?_, ?_, readsStatement_extract hplain hplaceable⟩
      · cases extraction <;> exact List.cons_ne_nil _ _
      · cases extraction <;> rfl
  · rw [List.mem_singleton.mp hs]
    refine ⟨List.cons_ne_nil _ _, rfl, readsStatement_config htype ?_⟩
    rw [Bool.or_eq_true, Bool.not_eq_true', List.isEmpty_iff] at htry
    exact htry.imp_right fun h => by rw [h]; rfl

theorem readsStatements_bodyRow (depth : Nat) (policy : FailurePolicy)
    (hplaceable : p.isPlaceable = true) (hplain : p.isPlain = true) :
    (Grammar.ofDepth (depth + 14)).ReadsStatements (p.bodyRow policy) := by
  obtain ⟨initializer, awaitsInitializer, config, method, awaitsMethod, context, returns⟩ := p
  obtain ⟨hinitializer, hconfig⟩ := Bool.and_eq_true_iff.mp hplain
  obtain ⟨hexpression, hconfig'⟩ := Bool.and_eq_true_iff.mp hplaceable
  obtain ⟨-, htry⟩ := Bool.and_eq_true_iff.mp hexpression
  rw [bodyRow, statements, List.flatMap_append]
  refine ReadsStatements.flatMap ?_ fun s hs rest => ?_
  · rw [List.flatMap_singleton]
    exact readsStatements_answer
  · rcases List.mem_append.mp hs with hs | hs
    · rcases List.mem_cons.mp hs with rfl | hs
      · exact ⟨List.cons_ne_nil _ _, rfl, readsStatement_service hinitializer (by simpa using htry)⟩
      · rw [List.mem_singleton.mp hs]
        exact ⟨List.cons_ne_nil _ _, rfl, readsStatement_context⟩
    · cases config with
      | none => cases hs
      | some literal => exact readsStatement_of_mem_literal hconfig hconfig' hs rest

end Entrypoint.Program
