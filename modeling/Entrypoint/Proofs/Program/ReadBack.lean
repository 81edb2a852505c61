import Entrypoint.Proofs.Catalog.Additions
import Entrypoint.Proofs.Program.BodyReading
import Entrypoint.Proofs.Program.RowTexts
import Entrypoint.Proofs.Source.ItemReading

/-! The text of a program is read again, as imports and functions without documentation. So what is
generated says nothing about services. -/

namespace Entrypoint

/-! ### Declarations beside services -/

/-- A function without documentation, or an import that binds some of the given names. -/
def Item.IsAside (names : List String) : Item → Prop
  | .function f => f.documentation = ""
  | .imports tree => ∀ b ∈ tree.bindings [], b.1 ∈ names
  | _ => False

theorem Item.isAside_declarationsAll {names : List String} {scope : String} {items : List Item}
    (h : ∀ item ∈ items, item.IsAside names) : ∀ d ∈ Item.declarationsAll scope items,
      d.IsAside fun scope' name => scope' = scope ∧ name ∈ names := by
  induction items with
  | nil => nofun
  | cons item items ih =>
    obtain ⟨hitem, hitems⟩ := List.forall_mem_cons.mp h
    rw [Item.declarationsAll]
    refine List.forall_mem_append.mpr ⟨?_, ih hitems⟩
    cases item with
    | function f =>
      rw [Item.declarations]
      exact List.forall_mem_singleton.mpr (.function hitem)
    | imports tree =>
      rw [Item.declarations]
      exact List.forall_mem_map.mpr fun b hb => .binding ⟨rfl, hitem b hb⟩
    | _ => exact absurd hitem id

namespace Program

/-- The names that every program imports. -/
def importedNames : List String :=
  ["run", "service_fn", "Body", "Error", "Request", "RequestExt", "Response", "runtime", "ApiError"]

/-- A text is read as a file of functions without documentation and of the imports of programs. -/
def ReadsAside (text : String) : Prop :=
  ∀ path scope, ∃ file, SourceFile.ofText path scope text = .ok file ∧
    ∀ d ∈ file.declarations, d.IsAside fun scope' name => scope' = scope ∧ name ∈ importedNames

end Program

namespace Grammar

open Reading Statement Program

variable {depth fuel : Nat} {rest body tokens row : List TokenTree} {g : Grammar}

/-- A row is taken whole as a declaration that says nothing about services. -/
def ReadsItem (g : Grammar) (row : List TokenTree) : Prop :=
  ∀ rest found, ∃ tokens item, item.IsAside Program.importedNames ∧
    g.item.run ⟨row ++ rest, found⟩ = some (tokens, ⟨rest, found ++ [item]⟩)

/-! ### Imports -/

theorem readsItem_useRow {tree : UseTree} (haside : (Item.imports tree).IsAside importedNames)
    (hroot : ∀ rest, Ahead.punct "::" (row ++ .punct ';' false :: rest) = false)
    (hsize : ∀ rest, fuel ≤ TokenTree.sizeAll (row ++ .punct ';' false :: rest))
    (htree : ∀ more rest found, (useTree (more + fuel + 1) true).run
      ⟨row ++ .punct ';' false :: rest, found⟩ =
        some ((some tree, tokens), ⟨.punct ';' false :: rest, found⟩)) :
    (Grammar.ofDepth (depth + 1)).ReadsItem (useRow row) := by
  intro rest found
  obtain ⟨tokens, hitem⟩ := run_item_use (g := .ofDepth depth) (hroot rest) (hsize rest)
    fun more => htree more rest found
  rw [useRow, List.append_assoc]
  exact ⟨tokens, .imports tree, haside, hitem⟩

theorem readsItem_requestImports :
    (Grammar.ofDepth (depth + 1)).ReadsItem (useRow requestImportsRow) := by
  obtain ⟨tree, tokens, hnames, htree⟩ : ∃ tree tokens, (tree.bindings []).map Prod.fst =
      ["run", "service_fn", "Body", "Error", "Request", "RequestExt", "Response"] ∧
      ∀ more rest found, (useTree (more + 2 + 1) true).run
        ⟨requestImportsRow ++ .punct ';' false :: rest, found⟩ =
          some ((some tree, tokens), ⟨.punct ';' false :: rest, found⟩) :=
    ⟨_, _, rfl, fun _ _ _ => rfl⟩
  refine readsItem_useRow (fun b hb => ?_) (fun _ => rfl) (fun rest => ?_) htree
  · exact List.mem_append_left ["runtime", "ApiError"] (hnames ▸ List.mem_map_of_mem hb)
  · show 2 ≤ 1 + (1 + _)
    omega

theorem readsItem_runtimeImports :
    (Grammar.ofDepth (depth + 1)).ReadsItem (useRow runtimeImportsRow) := by
  obtain ⟨tree, tokens, hnames, htree⟩ : ∃ tree tokens,
      (tree.bindings []).map Prod.fst = ["runtime", "ApiError"] ∧
      ∀ more rest found, (useTree (more + 3 + 1) true).run
        ⟨runtimeImportsRow ++ .punct ';' false :: rest, found⟩ =
          some ((some tree, tokens), ⟨.punct ';' false :: rest, found⟩) :=
    ⟨_, _, rfl, fun _ _ _ => rfl⟩
  refine readsItem_useRow (fun b hb => ?_) (fun _ => rfl) (fun rest => ?_) htree
  · exact List.mem_append_right ["run", "service_fn", "Body", "Error", "Request", "RequestExt",
      "Response"] (hnames ▸ List.mem_map_of_mem hb)
  · show 3 ≤ 1 + (1 + (1 + _))
    omega

/-! ### Functions -/

theorem run_result_response (depth : Nat) (body rest : List TokenTree) :
    ∃ type, ((Grammar.ofDepth (depth + 15)).result? true).run
      ⟨responseRow ++ .group .brace body :: rest, []⟩ =
        some (type, ⟨.group .brace body :: rest, []⟩) := ⟨_, rfl⟩

theorem run_conditions_none :
    (Grammar.ofDepth (depth + 15)).conditions.run ⟨.group .brace body :: rest, []⟩ =
      some (⟨false, []⟩, ⟨.group .brace body :: rest, []⟩) := rfl

theorem readsItem_handle (hinner : Ahead.both (.punct "#") (.second (.punct "!")) body = false)
    (H : (Grammar.ofDepth (depth + 14)).ReadsStatements body) :
    (Grammar.ofDepth (depth + 16)).ReadsItem (handleRow ++ [.group .brace body]) := by
  intro rest found
  obtain ⟨statements, hbody⟩ := H.run
  obtain ⟨type, hresult⟩ := run_result_response depth body rest
  obtain ⟨s, hsignature⟩ : ∃ s, ((Grammar.ofDepth (depth + 15)).signature false).run
      ⟨handleRow ++ .group .brace body :: rest, []⟩ = some (s, ⟨.group .brace body :: rest, []⟩) :=
    run_signature (.named "handle") rfl rfl rfl hresult run_conditions_none
  obtain ⟨tokens, hitem⟩ := run_itemWith_function found (run_outerAttributeList rfl) rfl rfl
    hsignature hinner hbody
  rw [List.append_assoc]
  exact ⟨tokens, .function ⟨_, s.signature⟩, rfl, hitem⟩

/-- A function that gives a response is a declaration. -/
theorem readsItem_respondRow {name : Ident} {parameters list body : List TokenTree}
    (hparameters : ∀ rest, ∃ written, (Grammar.ofDepth (depth + 15)).parameters.run
      ⟨parameters ++ .group .paren list :: rest, []⟩ =
        some (written, ⟨.group .paren list :: rest, []⟩))
    (hlist : ∃ types, ((Grammar.ofDepth (depth + 15)).functionParameters true (list.length + 1)).run
      ⟨list, []⟩ = some (types, ⟨[], []⟩))
    (hinner : Ahead.both (.punct "#") (.second (.punct "!")) body = false)
    (H : (Grammar.ofDepth (depth + 14)).ReadsStatements body) :
    (Grammar.ofDepth (depth + 16)).ReadsItem (respondRow name parameters list body) := by
  intro rest found
  obtain ⟨statements, hbody⟩ := H.run
  obtain ⟨type, hresult⟩ := run_result_response depth body rest
  obtain ⟨written, hparameters⟩ := hparameters (responseRow ++ .group .brace body :: rest)
  obtain ⟨types, hlist⟩ := hlist
  let sig := .named "fn" :: .word name.word :: (parameters ++ .group .paren list :: responseRow)
  have hsig : ∀ rest, sig ++ rest = .named "fn" :: .word name.word ::
      (parameters ++ .group .paren list :: (responseRow ++ rest)) := fun rest => by
    simp [sig]
  have hmarks : (functionMarks false).run ⟨sig ++ .group .brace body :: rest, []⟩ =
      some (⟨false, false, []⟩, ⟨sig ++ .group .brace body :: rest, []⟩) := rfl
  rw [hsig] at hmarks
  obtain ⟨s, hsignature⟩ := run_signature name hmarks hparameters hlist hresult run_conditions_none
  rw [← hsig] at hsignature
  obtain ⟨tokens, hitem⟩ := run_itemWith_function found (run_outerAttributeList (Ahead.punct_word _))
    rfl rfl hsignature hinner hbody
  have hrow : respondRow name parameters list body ++ rest = sig ++ .group .brace body :: rest := by
    rw [hsig, respondRow]
    simp
  rw [hrow]
  exact ⟨tokens, .function ⟨_, s.signature⟩, rfl, hitem⟩

theorem run_parameters_bound : ∃ parameters, (Grammar.ofDepth (depth + 15)).parameters.run
    ⟨boundRow ++ .group .paren body :: rest, []⟩ =
      some (parameters, ⟨.group .paren body :: rest, []⟩) := ⟨_, rfl⟩

theorem run_arm_encoded : ∃ tokens, (Grammar.ofDepth (depth + 13)).arm.run
    ⟨okRow (.named "body") encodedRow ++ rest, []⟩ = some (tokens, ⟨rest, []⟩) := ⟨_, rfl⟩

theorem run_expression_encode (depth : Nat) (body rest : List TokenTree) :
    ∃ e, ((Grammar.ofDepth (depth + 13)).expression false).run
      ⟨encodeRow ++ .group .brace body :: rest, []⟩ = some (e, ⟨.group .brace body :: rest, []⟩) :=
  ⟨_, rfl⟩

theorem readsItem_respondOutput (depth : Nat) :
    (Grammar.ofDepth (depth + 16)).ReadsItem respondOutputRow := by
  obtain ⟨e, hscrutinee⟩ := run_expression_encode depth encodingRow []
  obtain ⟨tokens, hmatch⟩ := run_match [] (fun _ => run_arm_encoded) rfl (.inl rfl) hscrutinee
  exact readsItem_respondRow (fun _ => run_parameters_bound) ⟨_, rfl⟩ rfl
    (readsStatements_match hmatch (List.append_ne_nil_of_right_ne_nil _ (List.cons_ne_nil _ _)))

theorem readsItem_respondError (depth : Nat) :
    (Grammar.ofDepth (depth + 16)).ReadsItem respondErrorRow := by
  refine readsItem_respondRow (fun _ => ⟨_, rfl⟩) ⟨_, rfl⟩ rfl fun fuel hfuel => ?_
  obtain ⟨fuel, rfl⟩ : ∃ k, fuel = k + 3 := ⟨fuel - 3, by
    simp only [List.length_cons, List.length_nil] at hfuel; omega⟩
  exact ⟨_, rfl⟩

theorem run_selections_status (depth fuel : Nat) (tokens rest : List TokenTree) : ∃ tokens',
    ((Grammar.ofDepth (depth + 12)).selections (.plain tokens) (fuel + 3)).run
      ⟨statusRow ++ rest, []⟩ =
    ((Grammar.ofDepth (depth + 12)).selections (.plain tokens') fuel).run ⟨rest, []⟩ := ⟨_, rfl⟩

theorem run_selections_header (depth fuel : Nat) (name value : String)
    (tokens rest : List TokenTree) : ∃ tokens',
    ((Grammar.ofDepth (depth + 12)).selections (.plain tokens) (fuel + 2)).run
      ⟨headerRow name value ++ rest, []⟩ =
    ((Grammar.ofDepth (depth + 12)).selections (.plain tokens') fuel).run ⟨rest, []⟩ := ⟨_, rfl⟩

theorem run_selections_content (depth fuel : Nat) (tokens : List TokenTree) : ∃ tokens',
    ((Grammar.ofDepth (depth + 12)).selections (.plain tokens) (fuel + 4)).run ⟨contentRow, []⟩ =
      some (.plain tokens', ⟨[], []⟩) := ⟨_, rfl⟩

/-- What is built step by step is read step by step. -/
theorem run_expression_built (depth : Nat) :
    ∃ tokens, ((Grammar.ofDepth (depth + 13)).expression true).run ⟨builtRow, []⟩ =
      some (.plain tokens, ⟨[], []⟩) := by
  let start := [.named "Response"] ++ colonsRow ++ [.named "builder"]
  let mid := statusRow ++ (headerRow "content-type" "application/json" ++ contentRow)
  obtain ⟨tokens, hstatus⟩ := run_selections_status depth 9 start
    (headerRow "content-type" "application/json" ++ contentRow)
  obtain ⟨tokens', hheader⟩ :=
    run_selections_header depth 7 "content-type" "application/json" tokens contentRow
  obtain ⟨tokens'', hcontent⟩ := run_selections_content depth 3 tokens'
  rw [hheader, hcontent] at hstatus
  have hatom : ((Grammar.ofDepth (depth + 12)).atom true).run ⟨builtRow, []⟩ =
      some (.plain start, ⟨mid, []⟩) := rfl
  have hoperand : (operandWith (.ofDepth (depth + 12)) true).run ⟨builtRow, []⟩ =
      some (.plain tokens'', ⟨[], []⟩) :=
    run_operandWith rfl rfl hatom hstatus (kind_plain _)
  exact ⟨tokens'', run_expression endsExpression_nil hoperand⟩

theorem readsStatements_built :
    (Grammar.ofDepth (depth + 15)).ReadsStatements [.named "Ok", .group .paren builtRow] := by
  obtain ⟨tokens, hvalue⟩ := run_expression_built depth
  have hselections : ((Grammar.ofDepth (depth + 13)).selections (.plain [.named "Ok"]) 2).run
      ⟨[.group .paren builtRow], []⟩ =
        some (.plain ([.named "Ok"] ++ [.group .paren tokens]), ⟨[], []⟩) :=
    run_selections_single (List.cons_ne_nil _ _) hvalue
  have hatom : ((Grammar.ofDepth (depth + 13)).atom true).run
      ⟨[.named "Ok", .group .paren builtRow], []⟩ =
        some (.plain [.named "Ok"], ⟨[.group .paren builtRow], []⟩) := rfl
  have hoperand : ((Grammar.ofDepth (depth + 14)).operand true).run
      ⟨[.named "Ok", .group .paren builtRow], []⟩ =
        some (.plain ([.named "Ok"] ++ [.group .paren tokens]), ⟨[], []⟩) :=
    run_operandWith rfl rfl hatom hselections (kind_plain _)
  intro fuel hfuel
  obtain ⟨fuel, rfl⟩ : ∃ k, fuel = k + 2 := ⟨fuel - 2, by rw [List.length_cons] at hfuel; omega⟩
  exact run_statementsFrom_operand rfl rfl rfl rfl rfl rfl hoperand

theorem readsItem_respondJson :
    (Grammar.ofDepth (depth + 17)).ReadsItem respondJsonRow :=
  readsItem_respondRow (fun _ => ⟨_, rfl⟩) ⟨_, rfl⟩ rfl readsStatements_built

theorem readsItem_main (depth : Nat) : (Grammar.ofDepth (depth + 16)).ReadsItem mainRow := by
  intro rest found
  let start : List TokenTree := [.named "fn", .named "main", .group .paren []]
  let after := mainResultRow ++ .group .brace mainBodyRow :: rest
  obtain ⟨statements, hbody⟩ : ∃ tokens, (Grammar.ofDepth (depth + 15)).statements.run
      ⟨mainBodyRow, []⟩ = some (tokens, ⟨[], []⟩) := ⟨_, rfl⟩
  obtain ⟨type, hresult⟩ : ∃ type, ((Grammar.ofDepth (depth + 15)).result? true).run ⟨after, []⟩ =
      some (type, ⟨.group .brace mainBodyRow :: rest, []⟩) := ⟨_, rfl⟩
  obtain ⟨marks, hmarks⟩ : ∃ marks, (functionMarks false).run ⟨.named "async" :: start ++ after, []⟩ =
      some (marks, ⟨start ++ after, []⟩) := ⟨_, rfl⟩
  obtain ⟨parameters, hparameters⟩ : ∃ parameters, (Grammar.ofDepth (depth + 15)).parameters.run
      ⟨.group .paren [] :: after, []⟩ = some (parameters, ⟨.group .paren [] :: after, []⟩) :=
    ⟨_, rfl⟩
  obtain ⟨list, hlist⟩ : ∃ list, ((Grammar.ofDepth (depth + 15)).functionParameters true 1).run
      ⟨[], []⟩ = some (list, ⟨[], []⟩) := ⟨_, rfl⟩
  obtain ⟨s, hsignature⟩ := run_signature (.named "main") hmarks hparameters hlist hresult
    run_conditions_none
  obtain ⟨attributes, hattributes, hempty⟩ : ∃ attributes,
      (Grammar.ofDepth (depth + 15)).outerAttributeList.run ⟨mainRow ++ rest, []⟩ =
        some (attributes, ⟨.named "async" :: start ++ mainResultRow ++
          .group .brace mainBodyRow :: rest, []⟩) ∧ Attribute.documentation attributes = "" :=
    ⟨_, rfl, rfl⟩
  obtain ⟨tokens, hitem⟩ := run_itemWith_function found hattributes rfl rfl hsignature rfl hbody
  exact ⟨tokens, .function ⟨_, s.signature⟩, hempty, hitem⟩

/-! ### Files -/

/-- Rows that are declarations are recorded one after the other. -/
theorem run_many_items (found : List Item) {rows : List (List TokenTree)}
    (h : ∀ row ∈ rows, row ≠ [] ∧ g.ReadsItem row) (hfuel : rows.flatten.length < fuel) :
    ∃ tokens items, (∀ item ∈ items, item.IsAside importedNames) ∧
      (many .atEnd g.item fuel).run ⟨rows.flatten, found⟩ = some (tokens, ⟨[], found ++ items⟩) := by
  induction rows generalizing found fuel with
  | nil =>
    obtain ⟨fuel, rfl⟩ := Nat.exists_eq_add_of_lt hfuel
    refine ⟨[], [], nofun, ?_⟩
    rw [List.append_nil]
    exact run_many_nil
  | cons row rows ih =>
    obtain ⟨⟨hne, hrow⟩, hrows⟩ := List.forall_mem_cons.mp h
    have hpos : 0 < row.length := List.length_pos_iff.mpr hne
    rw [List.flatten_cons, List.length_append] at hfuel
    obtain ⟨fuel, rfl⟩ : ∃ k, fuel = k + 1 := ⟨fuel - 1, by omega⟩
    obtain ⟨tokens, item, haside, hitem⟩ := hrow rows.flatten found
    obtain ⟨others, items, hitems, hmany⟩ := ih (found ++ [item]) hrows
      (show rows.flatten.length < fuel by omega)
    have hstop : Ahead.atEnd (row ++ rows.flatten) = false := by
      obtain ⟨tree, trees, rfl⟩ := List.exists_cons_of_ne_nil hne
      rfl
    rw [List.append_assoc] at hmany
    exact ⟨tokens :: others, item :: items, List.forall_mem_cons.mpr ⟨haside, hitems⟩,
      run_many_cons hstop hitem hmany⟩

end Grammar

namespace Program

open Grammar Reading

variable {p : Program}

theorem readsItem_of_mem_rows (hplaceable : p.isPlaceable = true) (hplain : p.isPlain = true)
    (policy : FailurePolicy) (depth : Nat) :
    ∀ row ∈ p.rows policy, row ≠ [] ∧ (Grammar.ofDepth (depth + 17)).ReadsItem row := by
  have hbody := readsStatements_bodyRow (depth + 1) policy hplaceable hplain
  simp only [rows, List.forall_mem_cons]
  exact ⟨⟨List.cons_ne_nil _ _, readsItem_requestImports⟩,
    ⟨List.cons_ne_nil _ _, readsItem_runtimeImports⟩,
    ⟨List.cons_ne_nil _ _, readsItem_handle rfl hbody⟩,
    ⟨List.cons_ne_nil _ _, readsItem_respondOutput (depth + 1)⟩,
    ⟨List.cons_ne_nil _ _, readsItem_respondError (depth + 1)⟩,
    ⟨List.cons_ne_nil _ _, readsItem_respondJson⟩,
    ⟨List.cons_ne_nil _ _, readsItem_main (depth + 1)⟩, nofun⟩

/-- The tokens of a program are read as declarations that say nothing about services. -/
theorem read?_row (hplaceable : p.isPlaceable = true) (hplain : p.isPlain = true)
    (policy : FailurePolicy) :
    ∃ items, TokenTree.read? (p.row policy) Grammar.file = some items ∧
      ∀ item ∈ items, item.IsAside importedNames := by
  obtain ⟨depth, hdepth⟩ : ∃ depth, 16 * TokenTree.sizeAll (p.row policy) + 16 = depth + 17 := by
    have hsize : TokenTree.sizeAll (p.row policy) = 1 + TokenTree.sizeAll (p.row policy).tail := rfl
    exact ⟨16 * TokenTree.sizeAll (p.row policy).tail + 15, by omega⟩
  obtain ⟨tokens, items, haside, hmany⟩ := run_many_items []
    (readsItem_of_mem_rows hplaceable hplain policy depth) (Nat.lt_succ_self _)
  have hinner : (Grammar.ofDepth (depth + 17)).innerAttributes.run ⟨p.row policy, []⟩ =
      some ([], ⟨p.row policy, []⟩) := rfl
  have hroom : room.run ⟨p.row policy, []⟩ = some ((p.row policy).length + 1, ⟨p.row policy, []⟩) :=
    rfl
  have hfile : (Grammar.file (.ofDepth (depth + 17))).run ⟨p.row policy, []⟩ =
      some (items, ⟨[], []⟩) := by
    unfold Grammar.file
    have hitems : (do
        let _ ← (Grammar.ofDepth (depth + 17)).innerAttributes
        many .atEnd (Grammar.ofDepth (depth + 17)).item (← room)).run ⟨p.row policy, []⟩ =
          some (tokens, ⟨[], items⟩) := by
      rw [run_bind hinner, run_bind hroom]
      exact hmany
    exact run_bind (run_gathered hitems)
  refine ⟨items, ?_, haside⟩
  rw [TokenTree.read?, Grammar.forTrees, hdepth, whole?, hfile]
  rfl

/-- The text of a program is the file that its tokens are read as. -/
theorem ofText_text {policy : FailurePolicy} {items : List Item} (hplain : p.isPlain = true)
    (hread : TokenTree.read? (p.row policy) Grammar.file = some items) (path scope : String) :
    SourceFile.ofText path scope (p.text policy) = .ok ⟨path, scope, items⟩ := by
  rw [SourceFile.ofText, Item.ofText?, ofChars?_text policy hplain, Option.bind_some, hread]

/-- The text of a program whose paths have no arguments says nothing about services. -/
theorem readsAside (hplaceable : p.isPlaceable = true) (hplain : p.isPlain = true)
    (policy : FailurePolicy) : ReadsAside (p.text policy) := by
  intro path scope
  obtain ⟨items, hread, haside⟩ := read?_row hplaceable hplain policy
  exact ⟨⟨path, scope, items⟩, ofText_text hplain hread path scope,
    Item.isAside_declarationsAll haside⟩

end Program

end Entrypoint
