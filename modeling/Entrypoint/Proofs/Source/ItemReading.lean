import Entrypoint.Proofs.Source.NameReading

/-! Declarations as programs have them: functions with a body, and imports. -/

namespace Entrypoint.Grammar

open Reading

variable {g : Grammar} {sig body rest tokens : List TokenTree} {found : List Item} {fuel : Nat}

/-- A function whose body is read to its end is recorded with the documentation before it. -/
theorem run_functionItem (attributes : List Attribute) (found : List Item) {s : WrittenSignature}
    {statements : List TokenTree}
    (hsignature : (g.signature false).run ⟨sig ++ .group .brace body :: rest, []⟩ =
      some (s, ⟨.group .brace body :: rest, []⟩))
    (hinner : Ahead.both (.punct "#") (.second (.punct "!")) body = false)
    (hbody : g.statements.run ⟨body, []⟩ = some (statements, ⟨[], []⟩)) :
    ∃ tokens, (g.functionItem attributes).run ⟨sig ++ .group .brace body :: rest, found⟩ =
      some (some tokens,
        ⟨rest, found ++ [.function ⟨Attribute.documentation attributes, s.signature⟩]⟩) := by
  have hsemicolon : (punct? ";").run ⟨.group .brace body :: rest, found⟩ =
      some (false, ⟨.group .brace body :: rest, found⟩) := rfl
  have hinside : (do
      let inner ← g.innerAttributeList
      return (inner, ← g.statements) : Reading (List Attribute × List TokenTree)).run ⟨body, []⟩ =
        some (([], statements), ⟨[], []⟩) := by
    have hattributes : g.innerAttributeList.run ⟨body, []⟩ = some ([], ⟨body, []⟩) := by
      have hroom : room.run ⟨body, []⟩ = some (body.length + 1, ⟨body, []⟩) := rfl
      unfold innerAttributeList
      rw [run_bind hroom, many, run_sees_bind, Ahead.not, hinner]
      rfl
    rw [run_bind hattributes, run_bind hbody]
    rfl
  have hfunction : (g.functionBody attributes s).run ⟨.group .brace body :: rest, []⟩ =
      some ((⟨Attribute.documentation attributes, s.signature⟩,
        s.tokens ++ [.group .brace statements]), ⟨rest, []⟩) := by
    unfold functionBody
    rw [run_bind (run_group ..), run_bind (run_within hinside)]
    simp only [List.append_nil]
    rfl
  unfold functionItem unrecorded
  simp only [bind_assoc, pure_bind]
  rw [run_bind (run_gathered hsignature), run_bind hsemicolon]
  simp only [Bool.false_eq_true, ↓reduceIte]
  rw [run_bind (run_gathered hfunction)]
  exact ⟨_, rfl⟩

/-- A declaration without visibility is read after its attributes. -/
theorem run_itemWith {attributes : List Attribute} {row front : List TokenTree} {found' : List Item}
    (hattributes : g.outerAttributeList.run ⟨row, []⟩ = some (attributes, ⟨front, []⟩))
    (hvisibility : Ahead.word "pub" front = false)
    (hbody : (g.itemBody attributes [] false).run ⟨front, found⟩ =
      some (some tokens, ⟨rest, found'⟩)) :
    ∃ tokens', g.itemWith.run ⟨row, found⟩ = some (tokens', ⟨rest, found'⟩) := by
  have hget : (get : Reading Row).run ⟨row, found⟩ = some (⟨row, found⟩, ⟨row, found⟩) := rfl
  have hvisible : visibility.run ⟨front, found⟩ = some ([], ⟨front, found⟩) := by
    unfold visibility
    rw [run_sees_bind, hvisibility]
    rfl
  unfold itemWith orWritten
  simp only [bind_assoc]
  rw [run_bind hget, run_bind (run_gathered hattributes)]
  dsimp only
  rw [run_bind hvisible, List.isEmpty_nil, Bool.not_true, run_bind hbody]
  exact ⟨_, rfl⟩

/-- A function is a declaration. -/
theorem run_itemWith_function (found : List Item) {attributes : List Attribute} {s : WrittenSignature}
    {row statements : List TokenTree}
    (hattributes : g.outerAttributeList.run ⟨row, []⟩ =
      some (attributes, ⟨sig ++ .group .brace body :: rest, []⟩))
    (hvisibility : Ahead.word "pub" (sig ++ .group .brace body :: rest) = false)
    (hbegins : signatureBegins false (sig ++ .group .brace body :: rest) = true)
    (hsignature : (g.signature false).run ⟨sig ++ .group .brace body :: rest, []⟩ =
      some (s, ⟨.group .brace body :: rest, []⟩))
    (hinner : Ahead.both (.punct "#") (.second (.punct "!")) body = false)
    (hbody : g.statements.run ⟨body, []⟩ = some (statements, ⟨[], []⟩)) :
    ∃ tokens, g.itemWith.run ⟨row, found⟩ = some (tokens,
      ⟨rest, found ++ [.function ⟨Attribute.documentation attributes, s.signature⟩]⟩) := by
  obtain ⟨tokens, hitem⟩ := run_functionItem attributes found hsignature hinner hbody
  have htrees : trees.run ⟨sig ++ .group .brace body :: rest, found⟩ =
      some (sig ++ .group .brace body :: rest, ⟨sig ++ .group .brace body :: rest, found⟩) := rfl
  refine run_itemWith hattributes hvisibility (Eq.trans ?_ hitem)
  unfold itemBody
  rw [run_bind htrees, hbegins, if_pos rfl]

/-- An import that is part of the catalogue is recorded. -/
theorem run_item_use {row : List TokenTree} {tree : UseTree}
    (hroot : Ahead.punct "::" (row ++ .punct ';' false :: rest) = false)
    (hsize : fuel ≤ TokenTree.sizeAll (row ++ .punct ';' false :: rest))
    (htree : ∀ more, (useTree (more + fuel + 1) true).run ⟨row ++ .punct ';' false :: rest, found⟩ =
      some ((some tree, tokens), ⟨.punct ';' false :: rest, found⟩)) :
    ∃ tokens', g.itemWith.run ⟨.named "use" :: (row ++ .punct ';' false :: rest), found⟩ =
      some (tokens', ⟨rest, found ++ [.imports tree]⟩) := by
  obtain ⟨more, hmore⟩ := Nat.exists_eq_add_of_le' hsize
  have hword : (word "use").run ⟨.named "use" :: (row ++ .punct ';' false :: rest), found⟩ =
      some ([.named "use"], ⟨row ++ .punct ';' false :: rest, found⟩) := rfl
  have hmark : (punctIfAny "::").run ⟨row ++ .punct ';' false :: rest, found⟩ =
      some ([], ⟨row ++ .punct ';' false :: rest, found⟩) := by
    unfold punctIfAny
    rw [run_sees_bind, hroot]
    rfl
  have htrees {row : Row} : trees.run row = some (row.trees, row) := rfl
  have hsemicolon : (punct ";").run ⟨.punct ';' false :: rest, found⟩ =
      some ([.punct ';' false], ⟨rest, found⟩) := rfl
  have huse : useItem.run ⟨.named "use" :: (row ++ .punct ';' false :: rest), found⟩ =
      some (some ([.named "use"] ++ [] ++ tokens ++ [.punct ';' false]),
        ⟨rest, found ++ [.imports tree]⟩) := by
    unfold useItem
    rw [run_bind hword, run_bind hmark, run_bind htrees]
    dsimp only
    rw [hmore, List.isEmpty_nil, run_bind (htree more)]
    dsimp only
    rw [run_bind hsemicolon]
    rfl
  have hattributes : g.outerAttributeList.run
      ⟨.named "use" :: (row ++ .punct ';' false :: rest), []⟩ =
        some ([], ⟨.named "use" :: (row ++ .punct ';' false :: rest), []⟩) :=
    run_outerAttributeList rfl
  have hbegins : signatureBegins false (.named "use" :: (row ++ .punct ';' false :: rest)) = false :=
    rfl
  have hkeyword : Ahead.word "use" (.named "use" :: (row ++ .punct ';' false :: rest)) = true := rfl
  refine run_itemWith hattributes rfl (Eq.trans ?_ huse)
  unfold itemBody
  rw [run_bind htrees, hbegins, if_neg Bool.false_ne_true, run_sees_bind, hkeyword, if_pos rfl]

/-- A signature is read part by part. -/
theorem run_signature (name : Ident) {marks : FunctionMarks} {parameters : Parameters}
    {front others list result mid : List TokenTree}
    {list' : Option Receiver × List TypeExpr × List TokenTree} {type : Option TypeExpr}
    {conditions : Conditions}
    (hmarks : (functionMarks false).run ⟨front, []⟩ =
      some (marks, ⟨.named "fn" :: .word name.word :: others, []⟩))
    (hparameters : g.parameters.run ⟨others, []⟩ =
      some (parameters, ⟨.group .paren list :: result, []⟩))
    (hlist : (g.functionParameters true (list.length + 1)).run ⟨list, []⟩ = some (list', ⟨[], []⟩))
    (hresult : (g.result? true).run ⟨result, []⟩ = some (type, ⟨mid, []⟩))
    (hconditions : g.conditions.run ⟨mid, []⟩ = some (conditions, ⟨mid, []⟩)) :
    ∃ s, (g.signature false).run ⟨front, []⟩ = some (s, ⟨mid, []⟩) := by
  have hword : (word "fn").run ⟨.named "fn" :: .word name.word :: others, []⟩ =
      some ([.named "fn"], ⟨.word name.word :: others, []⟩) := rfl
  have hroom : room.run ⟨list, []⟩ = some (list.length + 1, ⟨list, []⟩) := rfl
  have hinside : (do g.functionParameters true (← room) :
      Reading (Option Receiver × List TypeExpr × List TokenTree)).run ⟨list, []⟩ =
        some (list', ⟨[], []⟩) := by
    rw [run_bind hroom, hlist]
  have hgroup : (do within (← group .paren) do g.functionParameters true (← room) :
      Reading (Option Receiver × List TypeExpr × List TokenTree)).run
        ⟨.group .paren list :: result, []⟩ = some (list', ⟨result, []⟩) := by
    rw [run_bind (run_group ..)]
    exact run_within hinside
  unfold signature
  rw [run_bind hmarks, run_bind hword, run_bind (run_ident ..), run_bind hparameters,
    run_bind (run_gathered hgroup)]
  dsimp only
  rw [run_bind (run_gathered hresult)]
  dsimp only
  rw [run_bind hconditions, List.nil_append, run_bind (run_record_nil _)]
  exact ⟨_, rfl⟩

end Entrypoint.Grammar
