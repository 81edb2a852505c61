import Entrypoint.Proofs.Source.NameReading

/-! Expressions and statements as programs have them: calls of paths and of methods, choices between
two arms, and bindings. -/

namespace Entrypoint.Grammar

open Reading PathWord

variable {g : Grammar} {structs : Bool} {e e' : Expression} {p : PathExpr} {m : Ident}
  {front mid rest tokens inside tokens' : List TokenTree} {found : List Item} {fuel depth : Nat}

/-! ### Items in a row -/

theorem run_many_cons {α : Type} {item : Reading α} {stop : Ahead} {a : α} {others : List α}
    {found' found'' : List Item} (hstop : stop front = false)
    (hfirst : item.run ⟨front, found⟩ = some (a, ⟨mid, found'⟩))
    (hothers : (many stop item fuel).run ⟨mid, found'⟩ = some (others, ⟨rest, found''⟩)) :
    (many stop item (fuel + 1)).run ⟨front, found⟩ = some (a :: others, ⟨rest, found''⟩) := by
  unfold many
  rw [run_sees_bind, hstop, if_neg Bool.false_ne_true, run_bind hfirst, run_bind hothers]
  rfl

theorem run_many_nil {α : Type} {item : Reading α} :
    (many .atEnd item (fuel + 1)).run ⟨[], found⟩ = some ([], ⟨[], found⟩) := rfl

/-! ### Where expressions end -/

/-- Nothing that follows an operand belongs to it or goes on from it. -/
structure EndsExpression (rest : List TokenTree) : Prop where
  selection : Ahead.any [.group .paren, .group .bracket, .singlePoint, .punct "?"] rest = false
  binary : binaryOperator? rest = none
  other : Ahead.any [assignmentBegins, .punct "..", .word "as"] rest = false

theorem run_selections_end (H : EndsExpression rest) (e : Expression) (fuel : Nat) :
    (g.selections e (fuel + 1)).run ⟨rest, found⟩ = some (e, ⟨rest, found⟩) := by
  have h := H.selection
  simp only [Ahead.any, List.any_cons, List.any_nil, Bool.or_eq_false_iff] at h
  obtain ⟨hparen, hbracket, hpoint, hquestion, -⟩ := h
  unfold selections
  simp only [↓run_sees_bind, hparen, hbracket, Bool.false_eq_true, ↓reduceIte]
  split
  · rfl
  · simp only [↓run_sees_bind, hpoint, hquestion, Bool.false_eq_true, ↓reduceIte]
    rfl

theorem run_operatorsWith_end (H : EndsExpression rest) (e : Expression) :
    (g.operatorsWith .least structs e).run ⟨rest, found⟩ = some (e, ⟨rest, found⟩) := by
  have h := H.other
  simp only [Ahead.any, List.any_cons, List.any_nil, Bool.or_eq_false_iff] at h
  obtain ⟨hassignment, hdots, has, -⟩ := h
  have hroom : room.run ⟨rest, found⟩ = some (rest.length + 1, ⟨rest, found⟩) := rfl
  have htrees : trees.run ⟨rest, found⟩ = some (rest, ⟨rest, found⟩) := rfl
  unfold operatorsWith
  rw [run_bind hroom]
  unfold operatorsFrom
  split
  · rfl
  · rw [run_bind htrees]
    simp only [H.binary, hassignment, hdots, has, Bool.and_false, Bool.false_eq_true, ↓reduceIte]
    rfl

/-! ### Operands -/

theorem kind_plain (tokens : List TokenTree) :
    (Expression.plain tokens).kind ≠ .written ∧ (Expression.plain tokens).kind ≠ .range :=
  ⟨nofun, nofun⟩

theorem run_operandWith (hhash : Ahead.punct "#" front = false)
    (hmark : Ahead.any [.punct "&", .punct "*", .punct "!", .punct "-"] front = false)
    (hatom : (g.atom structs).run ⟨front, found⟩ = some (e, ⟨mid, found⟩))
    (hselections : (g.selections e (mid.length + 1)).run ⟨mid, found⟩ = some (e', ⟨rest, found⟩))
    (hkind : e'.kind ≠ .written ∧ e'.kind ≠ .range) :
    (g.operandWith structs).run ⟨front, found⟩ = some (e', ⟨rest, found⟩) := by
  have hget : (get : Reading Row).run ⟨front, found⟩ = some (⟨front, found⟩, ⟨front, found⟩) := rfl
  have hroom : room.run ⟨mid, found⟩ = some (mid.length + 1, ⟨mid, found⟩) := rfl
  unfold operandWith
  rw [run_bind hget, run_bind (run_outerAttributes hhash), run_sees_bind, hmark,
    if_neg Bool.false_ne_true, run_bind hatom, run_bind hroom, run_bind hselections]
  obtain ⟨kind, tokens, takes⟩ := e'
  cases kind <;> first | rfl | simp at hkind

/-- An expression is an operand if nothing goes on from it. -/
theorem run_expression (H : EndsExpression rest)
    (h : (operandWith (.ofDepth depth) structs).run ⟨front, found⟩ = some (e, ⟨rest, found⟩)) :
    ((Grammar.ofDepth (depth + 1)).expression structs).run ⟨front, found⟩ =
      some (e, ⟨rest, found⟩) := by
  have hoperand : ((Grammar.ofDepth (depth + 1)).operand structs).run ⟨front, found⟩ =
    some (e, ⟨rest, found⟩) := h
  unfold expression
  rw [run_bind hoperand]
  exact run_operatorsWith_end H e

/-- A path that is a value is an expression. -/
theorem run_expression_path (hplain : p.isPlain = true) (htry : p.isTry = false)
    (H : EndsValue structs rest) (H' : EndsExpression rest) :
    ((Grammar.ofDepth (depth + 1)).expression structs).run ⟨p.tokens ++ rest, found⟩ =
      some (.plain p.tokens, ⟨rest, found⟩) := by
  have hpunct : ∀ {operator : String}, (operator.toList.head? == some ':') = false →
      Ahead.punct operator (p.tokens ++ rest) = false := fun h => punct_tokens hplain h rest
  refine run_expression H' (run_operandWith (hpunct (by decide)) ?_ (run_atom_value hplain htry H)
    (run_selections_end H' ..) (kind_plain _))
  simp (disch := decide) [Ahead.any, hpunct]

/-! ### Calls -/

theorem run_selections_call :
    (g.selections (.plain tokens) (fuel + 1)).run ⟨.group .paren [] :: rest, found⟩ =
      (g.selections (.plain (tokens ++ [.group .paren []])) fuel).run ⟨rest, found⟩ := rfl

theorem run_selections_await :
    (g.selections (.plain tokens) (fuel + 1)).run
        ⟨.punct '.' false :: .named "await" :: rest, found⟩ =
      (g.selections (.plain (tokens ++ [.punct '.' false, .named "await"])) fuel).run
        ⟨rest, found⟩ := rfl

/-- A method is selected by its name, since no name is a word with a meaning of its own. -/
theorem run_selections_method (h : Ahead.punct "::" rest = false) :
    (g.selections (.plain tokens) (fuel + 1)).run
        ⟨.punct '.' false :: .word m.word :: rest, found⟩ =
      (g.selections (.plain (tokens ++ [.punct '.' false, .word m.word])) fuel).run
        ⟨rest, found⟩ := by
  have hselected : g.selected.run ⟨.word m.word :: rest, found⟩ =
      some ([.word m.word], ⟨rest, found⟩) := by
    unfold selected
    rw [run_sees_bind, Ahead.word_word, m.text_ne (by decide), if_neg Bool.false_ne_true,
      run_bind (run_member ..), run_sees_bind, h]
    rfl
  have hselection : g.selection.run ⟨.punct '.' false :: .word m.word :: rest, found⟩ =
      some ([.punct '.' false, .word m.word], ⟨rest, found⟩) := by
    have hrun : g.selection.run ⟨.punct '.' false :: .word m.word :: rest, found⟩ =
        (do return [.punct '.' false] ++ (← g.selected) : Reading (List TokenTree)).run
          ⟨.word m.word :: rest, found⟩ := rfl
    rw [hrun, run_bind hselected]
    rfl
  have hrun : (g.selections (.plain tokens) (fuel + 1)).run
        ⟨.punct '.' false :: .word m.word :: rest, found⟩ =
      (do g.selections (.plain (tokens ++ (← g.selection))) fuel : Reading Expression).run
        ⟨.punct '.' false :: .word m.word :: rest, found⟩ := rfl
  rw [hrun, run_bind hselection]

/-- One expression is a list. -/
theorem run_commas_single {reading : Reading (List TokenTree)} (hne : inside ≠ [])
    (h : reading.run ⟨inside, []⟩ = some (tokens, ⟨[], []⟩)) :
    (commas reading).run ⟨inside, []⟩ = some (tokens, ⟨[], []⟩) := by
  obtain ⟨tree, others, rfl⟩ := List.exists_cons_of_ne_nil hne
  have hend : Ahead.atEnd (tree :: others) = false := rfl
  have hroom : room.run ⟨tree :: others, []⟩ = some (others.length + 2, ⟨tree :: others, []⟩) := rfl
  have hitems : (separated "," .atEnd reading (others.length + 2)).run ⟨tree :: others, []⟩ =
      some (([tokens], false), ⟨[], []⟩) := by
    unfold separated
    rw [run_sees_bind, hend, if_neg Bool.false_ne_true, run_bind h]
    rfl
  unfold commas listed
  rw [run_bind hroom, run_bind hitems]
  simp [TokenTree.listed, TokenTree.separate]

/-- A value in brackets after an operand is an argument of a call. -/
theorem run_selections_single (hne : inside ≠ [])
    (h : (g.expression true).run ⟨inside, []⟩ = some (.plain tokens', ⟨[], []⟩)) :
    (g.selections (.plain tokens) (fuel + 1)).run ⟨.group .paren inside :: rest, []⟩ =
      (g.selections (.plain (tokens ++ [.group .paren tokens'])) fuel).run ⟨rest, []⟩ := by
  have hitem : g.expressionTokens.run ⟨inside, []⟩ = some (tokens', ⟨[], []⟩) := run_bind h
  have hgroup : (grouped .paren (commas g.expressionTokens)).run ⟨.group .paren inside :: rest, []⟩ =
      some ([.group .paren tokens'], ⟨rest, []⟩) := run_grouped (run_commas_single hne hitem)
  have hsees : Ahead.group .paren (.group .paren inside :: rest) = true := rfl
  rw [selections, run_sees_bind, hsees, if_pos rfl, run_bind hgroup]
  rfl

/-! ### Choices -/

/-- A head is read up to the braces of its body, and the body to its end. -/
theorem run_headed {head body : Reading (List TokenTree)} {inside arms : List TokenTree}
    (hhead : head.run ⟨front, []⟩ = some (tokens, ⟨.group .brace inside :: rest, []⟩))
    (hinner : Ahead.punct "#" inside = false)
    (hbody : body.run ⟨inside, found⟩ = some (arms, ⟨[], found⟩)) :
    (g.headed head body).run ⟨front, found⟩ =
      some (tokens ++ [.group .brace arms], ⟨rest, found⟩) := by
  have hattributes : g.innerAttributes.run ⟨inside, found⟩ = some ([], ⟨inside, found⟩) := by
    have hroom : room.run ⟨inside, found⟩ = some (inside.length + 1, ⟨inside, found⟩) := rfl
    have hmany : (many (.not (.both (.punct "#") (.second (.punct "!")))) g.innerAttribute
        (inside.length + 1)).run ⟨inside, found⟩ = some ([], ⟨inside, found⟩) := by
      rw [many, run_sees_bind, Ahead.not, Ahead.both, hinner]
      rfl
    unfold innerAttributes innerAttributeList
    rw [bind_assoc, run_bind hroom, run_bind hmany]
    rfl
  unfold headed
  rw [run_bind (run_gathered hhead)]
  dsimp only
  rw [run_bind (run_grouped _)]
  · rfl
  · rw [run_bind hattributes, run_bind (run_record_nil _), run_bind hbody]
    rfl

/-- A choice between arms ends by itself. -/
theorem run_blockExpression_match {inside : List TokenTree} {arms : List (List TokenTree)}
    (hhead : (g.expression false).run ⟨front, []⟩ = some (e, ⟨.group .brace inside :: rest, []⟩))
    (hinner : Ahead.punct "#" inside = false)
    (harms : (many .atEnd g.arm (inside.length + 1)).run ⟨inside, found⟩ =
      some (arms, ⟨[], found⟩)) :
    g.blockExpression.run ⟨.named "match" :: front, found⟩ =
      some (⟨.block, .named "match" :: e.tokens ++ [.group .brace arms.flatten], true⟩,
        ⟨rest, found⟩) := by
  have hkeyword : (do return (← word "match") ++ (← g.expression false).tokens :
      Reading (List TokenTree)).run ⟨.named "match" :: front, []⟩ =
        some (.named "match" :: e.tokens, ⟨.group .brace inside :: rest, []⟩) := by
    have hword : (word "match").run ⟨.named "match" :: front, []⟩ =
        some ([.named "match"], ⟨front, []⟩) := rfl
    rw [run_bind hword, run_bind hhead]
    rfl
  have hbody : (do return (← many .atEnd g.arm (← room)).flatten : Reading (List TokenTree)).run
      ⟨inside, found⟩ = some (arms.flatten, ⟨[], found⟩) := by
    have hroom : room.run ⟨inside, found⟩ = some (inside.length + 1, ⟨inside, found⟩) := rfl
    rw [run_bind hroom, run_bind harms]
    rfl
  have hrun : g.blockExpression.run ⟨.named "match" :: front, found⟩ =
      (do return ⟨.block, ← g.headed (do return (← word "match") ++ (← g.expression false).tokens)
        (do return (← many .atEnd g.arm (← room)).flatten), true⟩ : Reading Expression).run
          ⟨.named "match" :: front, found⟩ := rfl
  rw [hrun, run_bind (run_headed hkeyword hinner hbody)]
  rfl

/-- A choice is an expression if nothing goes on from it. -/
theorem run_expression_match (H : EndsExpression rest)
    (h : (blockExpression (.ofDepth depth)).run ⟨.named "match" :: front, found⟩ =
      some (⟨.block, tokens, true⟩, ⟨rest, found⟩)) :
    ((Grammar.ofDepth (depth + 1)).expression true).run ⟨.named "match" :: front, found⟩ =
      some (⟨.block, tokens, true⟩, ⟨rest, found⟩) :=
  run_expression H (run_operandWith rfl rfl h (run_selections_end H ..) ⟨nofun, nofun⟩)

/-! ### Bindings -/

/-- A value is bound by a pattern. -/
theorem run_binding {pattern : Pattern}
    (hpattern : g.pattern.run ⟨front, found⟩ = some (pattern, ⟨.punct '=' false :: mid, found⟩))
    (hvalue : (g.expression true).run ⟨mid, found⟩ =
      some (e, ⟨.punct ';' false :: rest, found⟩)) :
    ∃ bound, g.binding.run ⟨.named "let" :: front, found⟩ = some (bound, ⟨rest, found⟩) := by
  have hword : (word "let").run ⟨.named "let" :: front, found⟩ =
      some ([.named "let"], ⟨front, found⟩) := rfl
  have hequals : (punct "=").run ⟨.punct '=' false :: mid, found⟩ =
      some ([.punct '=' false], ⟨mid, found⟩) := rfl
  have hcolon : Ahead.punct ":" (.punct '=' false :: mid) = false := rfl
  have hsees : Ahead.punct "=" (.punct '=' false :: mid) = true := rfl
  have helse : Ahead.word "else" (.punct ';' false :: rest) = false := rfl
  unfold binding
  simp only [↓run_bind hword, ↓run_bind hpattern, ↓run_sees_bind, hcolon, hsees, ↓run_bind hequals,
    ↓run_bind hvalue, helse, Bool.and_false, Bool.false_eq_true, ↓reduceIte, ↓pure_bind]
  exact ⟨_, rfl⟩

/-- A value is bound by a pattern with a type. -/
theorem run_binding_typed {pattern : Pattern} {type : TypeExpr} {last : List TokenTree}
    (hpattern : g.pattern.run ⟨front, found⟩ = some (pattern, ⟨.punct ':' false :: mid, found⟩))
    (htype : (g.type true).run ⟨mid, found⟩ = some (type, ⟨.punct '=' false :: last, found⟩))
    (hvalue : (g.expression true).run ⟨last, found⟩ =
      some (e, ⟨.punct ';' false :: rest, found⟩)) :
    ∃ bound, g.binding.run ⟨.named "let" :: front, found⟩ = some (bound, ⟨rest, found⟩) := by
  have hword : (word "let").run ⟨.named "let" :: front, found⟩ =
      some ([.named "let"], ⟨front, found⟩) := rfl
  have hcolon : (punct ":").run ⟨.punct ':' false :: mid, found⟩ =
      some ([.punct ':' false], ⟨mid, found⟩) := rfl
  have hequals : (punct "=").run ⟨.punct '=' false :: last, found⟩ =
      some ([.punct '=' false], ⟨last, found⟩) := rfl
  have htokens : g.typeTokens.run ⟨mid, found⟩ =
      some (type.tokens, ⟨.punct '=' false :: last, found⟩) := run_bind htype
  have hsees : Ahead.punct ":" (.punct ':' false :: mid) = true := rfl
  have hsees' : Ahead.punct "=" (.punct '=' false :: last) = true := rfl
  have helse : Ahead.word "else" (.punct ';' false :: rest) = false := rfl
  unfold binding
  simp only [↓run_bind hword, ↓run_bind hpattern, ↓run_sees_bind, hsees, ↓run_bind hcolon,
    ↓run_bind htokens, hsees', ↓run_bind hequals, ↓run_bind hvalue, helse, Bool.and_false,
    Bool.false_eq_true, ↓reduceIte, ↓pure_bind]
  exact ⟨_, rfl⟩

/-! ### Statements -/

/-- A binding after its attributes is a statement that ends by itself. -/
theorem run_statement_let {attributes bound : List TokenTree}
    (hattributes : g.outerAttributes.run ⟨front, []⟩ = some (attributes, ⟨.named "let" :: mid, []⟩))
    (hbinding : g.binding.run ⟨.named "let" :: mid, found⟩ = some (bound, ⟨rest, found⟩)) :
    g.statement.run ⟨front, found⟩ = some (⟨attributes ++ bound, true⟩, ⟨rest, found⟩) := by
  have hget : (get : Reading Row).run ⟨front, found⟩ = some (⟨front, found⟩, ⟨front, found⟩) := rfl
  have htrees : trees.run ⟨.named "let" :: mid, found⟩ =
      some (.named "let" :: mid, ⟨.named "let" :: mid, found⟩) := rfl
  have hcall : bracedCallBegins (.named "let" :: mid) = false := rfl
  have hdeclaration : declarationBegins (.named "let" :: mid) = false := rfl
  have hlet : Ahead.word "let" (.named "let" :: mid) = true := rfl
  unfold statement
  rw [run_bind hget, run_bind (run_gathered hattributes)]
  dsimp only
  rw [run_bind htrees, hcall, hdeclaration, Bool.and_false, if_neg Bool.false_ne_true]
  unfold plainStatement
  rw [run_sees_bind, hcall, if_neg Bool.false_ne_true, run_sees_bind, hlet, if_pos rfl,
    run_bind (run_record_nil _), run_bind hbinding]
  rfl

/-- A statement that ends by itself is followed by others. -/
theorem run_statementsFrom_cons {others : List TokenTree}
    (hstart : Ahead.any [.atEnd, .punct ";"] front = false)
    (hfirst : g.statement.run ⟨front, found⟩ = some (⟨tokens, true⟩, ⟨mid, found⟩))
    (hothers : (g.statementsFrom fuel).run ⟨mid, found⟩ = some (others, ⟨[], found⟩)) :
    (g.statementsFrom (fuel + 1)).run ⟨front, found⟩ = some (tokens ++ others, ⟨[], found⟩) := by
  simp only [Ahead.any, List.any_cons, List.any_nil, Bool.or_eq_false_iff] at hstart
  obtain ⟨hend, hsemicolon, -⟩ := hstart
  unfold statementsFrom
  simp only [↓run_sees_bind, hend, hsemicolon, ↓run_bind hfirst, Bool.false_eq_true, ↓reduceIte,
    Bool.true_or]
  rw [run_bind hothers]
  rfl

/-- A choice stands where a statement begins. -/
theorem run_leadingWith_match
    (h : g.blockExpression.run ⟨.named "match" :: front, []⟩ =
      some (⟨.block, tokens, true⟩, ⟨[], []⟩)) :
    g.leadingWith.run ⟨.named "match" :: front, []⟩ =
      some (⟨.block, tokens, true⟩, ⟨[], []⟩) := by
  have hattributes : (gathered g.outerAttributes).run ⟨.named "match" :: front, []⟩ =
      some (([], []), ⟨.named "match" :: front, []⟩) := run_gathered (run_outerAttributes rfl)
  have htrees : trees.run ⟨.named "match" :: front, []⟩ =
      some (.named "match" :: front, ⟨.named "match" :: front, []⟩) := rfl
  have hbegins : blockBegins (.named "match" :: front) = true := rfl
  unfold leadingWith
  rw [run_bind hattributes]
  dsimp only
  rw [run_bind htrees, hbegins, if_pos rfl, run_bind (run_gathered h)]
  rfl

/-- A choice without a semicolon is the last statement. -/
theorem run_statementsFrom_match
    (h : (blockExpression (.ofDepth depth)).run ⟨.named "match" :: front, []⟩ =
      some (⟨.block, tokens, true⟩, ⟨[], []⟩)) (fuel : Nat) :
    ∃ statements, (statementsFrom (.ofDepth (depth + 1)) (fuel + 2)).run
      ⟨.named "match" :: front, []⟩ = some (statements, ⟨[], []⟩) := by
  have hleading : (gathered (Grammar.ofDepth (depth + 1)).leading).run
      ⟨.named "match" :: front, []⟩ = some ((⟨.block, tokens, true⟩, []), ⟨[], []⟩) :=
    run_gathered (run_leadingWith_match h)
  have hstatement : (statement (.ofDepth (depth + 1))).run ⟨.named "match" :: front, []⟩ =
      some (⟨tokens ++ [], true⟩, ⟨[], []⟩) := by
    have hrun : (statement (.ofDepth (depth + 1))).run ⟨.named "match" :: front, []⟩ =
        (do
          let first ← gathered (Grammar.ofDepth (depth + 1)).leading
          record (if first.1.takesAttributes then [] ++ first.2 else first.2)
          let semicolon ← punctIfAny ";"
          return ⟨(if first.1.takesAttributes then [] else []) ++ first.1.tokens ++ semicolon,
            !semicolon.isEmpty || !first.1.needsSemicolon⟩ : Reading WrittenStatement).run
            ⟨.named "match" :: front, []⟩ := rfl
    rw [hrun, run_bind hleading]
    rfl
  exact ⟨_, run_statementsFrom_cons rfl hstatement rfl⟩

/-- An operand that is no block is the last statement if nothing follows it. -/
theorem run_statementsFrom_operand
    (hhash : Ahead.punct "#" front = false) (hblock : blockBegins front = false)
    (hcall : bracedCallBegins front = false) (hdeclaration : declarationBegins front = false)
    (hlet : Ahead.word "let" front = false) (hstart : Ahead.any [.atEnd, .punct ";"] front = false)
    (h : ((Grammar.ofDepth (depth + 1)).operand true).run ⟨front, []⟩ =
      some (.plain tokens, ⟨[], []⟩)) :
    ∃ statements, ((Grammar.ofDepth (depth + 2)).statementsFrom (fuel + 2)).run ⟨front, []⟩ =
      some (statements, ⟨[], []⟩) := by
  have hattributes {depth : Nat} : (gathered (Grammar.ofDepth depth).outerAttributes).run ⟨front, []⟩ =
      some (([], []), ⟨front, []⟩) := run_gathered (run_outerAttributes hhash)
  have htrees : trees.run ⟨front, []⟩ = some (front, ⟨front, []⟩) := rfl
  have hget : (get : Reading Row).run ⟨front, []⟩ = some (⟨front, []⟩, ⟨front, []⟩) := rfl
  have hleading : (Grammar.ofDepth (depth + 2)).leading.run ⟨front, []⟩ =
      some (.plain tokens, ⟨[], []⟩) := by
    show (leadingWith (.ofDepth (depth + 1))).run _ = _
    unfold leadingWith
    rw [run_bind hattributes]
    dsimp only
    rw [run_bind htrees, hblock, if_neg Bool.false_ne_true, run_bind (run_gathered h)]
    rfl
  have hstatement : (Grammar.ofDepth (depth + 2)).statement.run ⟨front, []⟩ =
      some (⟨[] ++ tokens ++ [], false⟩, ⟨[], []⟩) := by
    unfold statement
    rw [run_bind hget, run_bind hattributes]
    dsimp only
    rw [run_bind htrees, hcall, hdeclaration, Bool.and_false, if_neg Bool.false_ne_true]
    unfold plainStatement
    rw [run_sees_bind, hcall, if_neg Bool.false_ne_true, run_sees_bind, hlet,
      if_neg Bool.false_ne_true, run_bind (run_gathered hleading)]
    rfl
  simp only [Ahead.any, List.any_cons, List.any_nil, Bool.or_eq_false_iff] at hstart
  obtain ⟨hend, hsemicolon, -⟩ := hstart
  unfold statementsFrom
  simp only [↓run_sees_bind, hend, hsemicolon, ↓run_bind hstatement, Bool.false_eq_true, ↓reduceIte,
    Bool.false_or]
  exact ⟨_, rfl⟩

/-! ### Struct literals -/

/-- A field with a value is followed by others. -/
theorem run_fieldValues_cons {field : Ident} {others : List TokenTree}
    (hvalue : (g.expression true).run ⟨front, found⟩ =
      some (e, ⟨.punct ',' false :: rest, found⟩))
    (hothers : (g.fieldValues fuel).run ⟨rest, found⟩ = some (others, ⟨[], found⟩)) :
    ∃ fields, (g.fieldValues (fuel + 1)).run
      ⟨.word field.word :: .punct ':' false :: front, found⟩ = some (fields, ⟨[], found⟩) := by
  have hcolon : (punct ":").run ⟨.punct ':' false :: front, found⟩ =
      some ([.punct ':' false], ⟨front, found⟩) := rfl
  have hcomma : (punct ",").run ⟨.punct ',' false :: rest, found⟩ =
      some ([.punct ',' false], ⟨rest, found⟩) := rfl
  have htokens : g.expressionTokens.run ⟨front, found⟩ =
      some (e.tokens, ⟨.punct ',' false :: rest, found⟩) := run_bind hvalue
  have hstart : Ahead.atEnd (.word field.word :: .punct ':' false :: front) = false := rfl
  have hsees : Ahead.punct ":" (.punct ':' false :: front) = true := rfl
  have hend : Ahead.atEnd (.punct ',' false :: rest) = false := rfl
  unfold fieldValues
  simp only [↓run_sees_bind, hstart, Ahead.punct_word,
    ↓run_bind (run_outerAttributes (Ahead.punct_word _)), ↓run_bind (run_member ..), hsees,
    ↓run_bind hcolon, ↓run_bind htokens, hend, ↓run_bind hcomma, ↓run_bind hothers, Bool.not_true,
    Bool.or_true, Bool.false_eq_true, ↓reduceIte, ↓pure_bind]
  exact ⟨_, rfl⟩

end Entrypoint.Grammar
