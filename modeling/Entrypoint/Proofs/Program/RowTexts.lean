import Entrypoint.Proofs.Program.Rows
import Entrypoint.Proofs.Source.RowSpelling
import Entrypoint.Source.File

/-! The text of a program is the text of its tokens, which are legible. So they come back from the
text. -/

namespace Entrypoint

open Lexeme (isLiteral_literal isLiteral_status operatorMarks)
open TokenTree (textAll gap)

namespace Statement

/-! ### Texts of rows -/

/-- A row comes back from a text. -/
structure Writes (row : List TokenTree) (text : String) : Prop where
  legible : Legible row
  ne_nil : row ≠ []
  text : (textAll row).toList = text.toList

theorem toList_spaced_singleton (a : String) : (spaced [a]).toList = a.toList := by
  rw [spaced, String.intercalate_singleton]

theorem toList_spaced_cons (a b : String) (texts : List String) :
    (spaced (a :: b :: texts)).toList = a.toList ++ ' ' :: (spaced (b :: texts)).toList := by
  rw [spaced, String.intercalate_cons_cons, String.toList_append, String.toList_append,
    List.append_assoc]
  rfl

theorem toList_braced (inside : String) :
    (braced inside).toList = '{' :: ' ' :: (inside.toList ++ [' ', '}']) := by
  rw [braced, String.toList_append, String.toList_append]
  simp

namespace Writes

variable {first second others : List TokenTree} {text text' : String} {texts : List String}

theorem gap_append (H : Writes first text) (others : List TokenTree) :
    gap (first ++ others) = [' '] := by
  cases first with
  | nil => exact absurd rfl H.ne_nil
  | cons tree trees => rfl

theorem gap (H : Writes first text) : gap first = [' '] := by
  simpa using H.gap_append []

/-- The text after a row stands behind a blank. -/
theorem toList_append (H : Writes first text) (hne : others ≠ []) :
    (textAll (first ++ others)).toList = text.toList ++ ' ' :: (textAll others).toList := by
  rw [H.legible.toList_textAll_append H.ne_nil, H.text]
  cases others with
  | nil => exact absurd rfl hne
  | cons tree trees => rfl

/-- Rows one after the other. -/
theorem flatten (parts : List (List TokenTree × String)) (hne : parts ≠ [])
    (h : ∀ part ∈ parts, Writes part.1 part.2) :
    Writes (parts.map Prod.fst).flatten (spaced (parts.map Prod.snd)) := by
  induction parts with
  | nil => exact absurd rfl hne
  | cons part parts ih =>
    obtain ⟨hpart, hparts⟩ := List.forall_mem_cons.mp h
    cases parts with
    | nil => exact ⟨by simpa using hpart.legible, by simpa using hpart.ne_nil,
        by simpa [toList_spaced_singleton] using hpart.text⟩
    | cons next parts =>
      have hrest := ih (List.cons_ne_nil _ _) hparts
      refine ⟨hpart.legible.append hrest.legible,
        List.append_ne_nil_of_left_ne_nil hpart.ne_nil _, ?_⟩
      rw [List.map_cons, List.flatten_cons, hpart.toList_append hrest.ne_nil, hrest.text]
      exact (toList_spaced_cons ..).symm

end Writes

/-! ### Parts of statements -/

variable {scrutinee call : List TokenTree} {text status : String}

theorem writes_report (message : String) : Writes (reportRow message) (report message) where
  legible := by simp +decide [reportRow, isLiteral_literal]
  ne_nil := List.cons_ne_nil _ _
  text := by
    delta report
    simp only [String.toList_append]
    repeat rw [String.toList_ofList]
    simp [reportRow]

theorem writes_errorAnswer (h : status ∈ ["200", "400", "500"]) (message : String) :
    Writes (errorAnswerRow status message) (errorAnswer status message) where
  legible := by
    simp +decide [errorAnswerRow, (writes_report message).legible, isLiteral_status h]
  ne_nil := List.cons_ne_nil _ _
  text := by
    delta errorAnswer
    simp only [String.toList_append]
    repeat rw [String.toList_ofList]
    simp [errorAnswerRow, (writes_report message).text, (writes_report message).gap]

theorem legible_err {jump : List TokenTree} (hjump : Legible jump)
    (h : status ∈ ["200", "400", "500"]) (message : String) :
    Legible (errRow jump status message) := by
  have hanswer := (writes_errorAnswer h message).legible
  have hstart : Legible [.named "Err", .group .paren [.named "err"], .punct '=' true,
      .punct '>' false] := by simp +decide
  rw [errRow]
  exact ((hstart.append hjump).append hanswer).append (by simp +decide)

theorem writes_match {good : String} {chars : List Char} {hgood : good = String.ofList chars}
    {hword : Word.isText chars = true} (H : Writes scrutinee text)
    (h : status ∈ ["200", "400", "500"]) (message : String) :
    Writes (matchRow scrutinee (.named good hgood hword) status message)
      (matchOrReturn text good status message) where
  legible := by
    have harms : Legible (armsRow (.named good hgood hword) status message) :=
      Legible.append (by simp +decide [okRow]) (legible_err (by simp) h message)
    simp [matchRow, H.legible.append, harms]
  ne_nil := List.cons_ne_nil _ _
  text := by
    have hanswer := writes_errorAnswer h message
    have hchars : good.toList = chars := by rw [hgood, String.toList_ofList]
    unfold matchOrReturn
    simp only [toList_spaced_cons, toList_spaced_singleton, toList_braced, String.toList_append, hchars]
    repeat rw [String.toList_ofList]
    simp [matchRow, armsRow, okRow, errRow, H.gap_append, H.toList_append, hanswer.gap_append,
      hanswer.toList_append]

theorem conversion_string : conversion .string = "runtime :: coerce_string" := rfl

theorem conversion_boolean : conversion .boolean = "runtime :: coerce_bool" := rfl

theorem conversion_integer (kind : IntegerKind) :
    conversion (.integer kind) = "runtime :: coerce_integer :: < " ++ kind.name ++ " >" := rfl

theorem word_kindIdent (kind : IntegerKind) : (kindIdent kind).word.text = kind.name := rfl

theorem word_localIdent (index : Nat) : (localIdent index).word.text = localName index := rfl

theorem writes_converted (origin : Origin) (scalar : Scalar) (externalName : String) :
    Writes (convertedRow origin scalar externalName) (converted origin scalar externalName) where
  legible := by
    cases origin <;> cases scalar <;>
      simp +decide [convertedRow, argumentRow, conversionRow, mapToken, isLiteral_literal]
  ne_nil := by simp [convertedRow]
  text := by
    unfold converted
    cases origin <;> cases scalar <;>
      simp only [conversion_string, conversion_boolean, conversion_integer, mapName,
        String.toList_append] <;> (repeat rw [String.toList_ofList]) <;>
      simp [convertedRow, argumentRow, conversionRow, mapToken, word_kindIdent]

theorem writes_decoded :
    Writes decodedRow "runtime :: from_json (request . body () . as_ref ())" where
  legible := by simp +decide [decodedRow]
  ne_nil := List.cons_ne_nil _ _
  text := by
    rw [String.toList_ofList]
    simp [decodedRow]

theorem legible_tailTokens (names : List PathWord) : Legible (PathWord.tailTokens names) := by
  induction names with
  | nil => exact .nil
  | cons name names ih => simpa +decide [PathWord.tailTokens] using ih

theorem writes_path {path : PathExpr} (hplain : path.isPlain = true) :
    Writes path.tokens path.text := by
  obtain ⟨rooted, first, names, rfl⟩ := PathExpr.exists_ofNames hplain
  refine ⟨?_, ?_, rfl⟩
  · rw [PathExpr.tokens_ofNames]
    cases rooted <;>
      simpa +decide [TokenTree.operator, TokenTree.operator.go] using legible_tailTokens names
  · rw [PathExpr.tokens_ofNames]
    exact List.append_ne_nil_of_right_ne_nil _ (List.cons_ne_nil _ _)

/-! ### Statements -/

theorem writes_initializer {initializer : PathExpr} (hplain : initializer.isPlain = true)
    (awaits : Bool) : Writes (initializerRow initializer awaits)
      (spaced ([initializer.text, "()"] ++ optional awaits ". await")) := by
  have hpath := writes_path hplain
  refine ⟨(hpath.legible.append (by simp)).append ?_, ?_, ?_⟩
  · cases awaits <;> simp +decide
  · exact List.append_ne_nil_of_left_ne_nil (List.append_ne_nil_of_left_ne_nil hpath.ne_nil _) _
  · cases awaits <;>
      simp only [optional, Bool.false_eq_true, if_true, if_false, List.cons_append, List.nil_append,
        toList_spaced_cons, toList_spaced_singleton] <;> (repeat rw [String.toList_ofList]) <;>
      simp [initializerRow, awaitRow, hpath.toList_append]

theorem legible_let {pattern value : List TokenTree} (hpattern : Legible pattern)
    (hvalue : Legible value) : Legible (letRow pattern value) := by
  simp +decide [letRow]
  exact hpattern.append (by simpa +decide using hvalue.append (by simp +decide))

theorem extractText_decoded {policy : FailurePolicy} {index : Nat} {type : PathExpr} :
    extractText policy index (.decoded type) = spaced ["let", localName index, ":", type.text, "=",
      matchOrReturn "runtime :: from_json (request . body () . as_ref ())" "value" "400"
        "invalid request body", ";"] := rfl

theorem extractText_respond {index : Nat} {origin : Origin} {scalar : Scalar} {externalName : String} :
    extractText .respond index (.converted origin scalar externalName) =
      spaced ["let", localName index, "=", matchOrReturn (converted origin scalar externalName)
        "value" "400" (invalidMessage origin externalName), ";"] := rfl

theorem extractText_abort {index : Nat} {origin : Origin} {scalar : Scalar} {externalName : String} :
    extractText .abort index (.converted origin scalar externalName) =
      spaced ["let", localName index, "=", converted origin scalar externalName,
        ". unwrap_or_else (| err | panic ! (" ++ Text.Quoted.literal "\x7b\x7d" ++ " , " ++
          report (invalidMessage origin externalName) ++ "))", ";"] := rfl

theorem legible_abort (message : String) : Legible (abortRow message) := by
  simp +decide [abortRow, (writes_report message).legible, isLiteral_literal]

theorem writes_extract (policy : FailurePolicy) (index : Nat) {extraction : Extraction}
    (hplain : extraction.isPlain = true) :
    Writes (extractRow policy index extraction) (extractText policy index extraction) := by
  cases extraction with
  | converted origin scalar externalName =>
    have hvalue := writes_converted origin scalar externalName
    cases policy with
    | respond =>
      have hmatch : Writes (matchRow (convertedRow origin scalar externalName) (.named "value") "400"
          (invalidMessage origin externalName)) _ :=
        writes_match hvalue (by decide) (invalidMessage origin externalName)
      refine ⟨legible_let (by simp) hmatch.legible, List.cons_ne_nil _ _, ?_⟩
      simp only [extractText_respond, toList_spaced_cons, toList_spaced_singleton]
      repeat rw [String.toList_ofList]
      simp [extractRow, letRow, hmatch.gap_append, hmatch.toList_append, word_localIdent]
    | abort =>
      have hreport := writes_report (invalidMessage origin externalName)
      refine ⟨legible_let (by simp) (hvalue.legible.append (legible_abort _)),
        List.cons_ne_nil _ _, ?_⟩
      simp only [extractText_abort, toList_spaced_cons, toList_spaced_singleton,
        String.toList_append]
      repeat rw [String.toList_ofList]
      simp [extractRow, letRow, abortRow, hvalue.gap_append, hvalue.toList_append, hreport.gap,
        hreport.text, word_localIdent]
  | decoded type =>
    have htype := writes_path hplain
    have hmatch : Writes (matchRow decodedRow (.named "value") "400" "invalid request body") _ :=
      writes_match writes_decoded (by decide) "invalid request body"
    refine ⟨legible_let (by simpa +decide using htype.legible) hmatch.legible,
      List.cons_ne_nil _ _, ?_⟩
    simp only [extractText_decoded, toList_spaced_cons, toList_spaced_singleton]
    repeat rw [String.toList_ofList]
    simp [extractRow, letRow, hmatch.gap_append, hmatch.toList_append, htype.gap_append,
      htype.toList_append, word_localIdent]

theorem writes_field (field : Ident × Nat) :
    Writes (fieldRow field) (spaced [field.1.text, ":", localName field.2, ","]) where
  legible := by simp +decide [fieldRow]
  ne_nil := List.cons_ne_nil _ _
  text := by
    simp [fieldRow, toList_spaced_cons, toList_spaced_singleton, word_localIdent, Ident.text]

theorem writes_default : Writes defaultRow ".. Default :: default ()" where
  legible := by simp +decide [defaultRow]
  ne_nil := List.cons_ne_nil _ _
  text := by
    rw [String.toList_ofList]
    simp [defaultRow]

theorem writes_literal {type : PathExpr} (hplain : type.isPlain = true)
    (fields : List (Ident × Nat)) (hasRest : Bool) :
    Writes (type.tokens ++ [.group .brace (fieldsRow fields hasRest)])
      (literalText type fields hasRest) := by
  have htype := writes_path hplain
  let parts := fields.map (fun f => (fieldRow f, spaced [f.1.text, ":", localName f.2, ","])) ++
    if hasRest then [(defaultRow, ".. Default :: default ()")] else []
  have hparts : ∀ part ∈ parts, Writes part.1 part.2 := by
    refine List.forall_mem_append.mpr ⟨List.forall_mem_map.mpr fun f _ => writes_field f, ?_⟩
    split
    · exact List.forall_mem_singleton.mpr writes_default
    · nofun
  have hrow : (parts.map Prod.fst).flatten = fieldsRow fields hasRest := by
    cases hasRest <;> simp [parts, fieldsRow, List.flatMap, Function.comp_def]
  have htext : literalText type fields hasRest = if (parts.map Prod.snd).isEmpty then
      type.text ++ " \x7b \x7d" else type.text ++ " " ++ braced (spaced (parts.map Prod.snd)) := by
    cases hasRest <;> simp [parts, literalText, optional, Function.comp_def]
  rw [htext, ← hrow]
  by_cases hne : parts = []
  · refine ⟨htype.legible.append (by simp [hne]), List.append_ne_nil_of_left_ne_nil htype.ne_nil _, ?_⟩
    rw [htype.toList_append (List.cons_ne_nil _ _)]
    simp [hne]
  · have hwrites := Writes.flatten parts hne hparts
    refine ⟨htype.legible.append (by simp [hwrites.legible]),
      List.append_ne_nil_of_left_ne_nil htype.ne_nil _, ?_⟩
    rw [htype.toList_append (List.cons_ne_nil _ _)]
    simp [hne, hwrites.gap, hwrites.text, toList_braced]

theorem writes_call (method : Ident) (passing : ContextPassing) (withConfig awaits : Bool) :
    Writes (callRow method passing withConfig awaits)
      (callText method passing withConfig awaits) := by
  have hargs : Legible (argumentsRow passing withConfig) := by
    cases passing <;> cases withConfig <;> simp +decide [argumentsRow]
  refine ⟨?_, List.append_ne_nil_of_left_ne_nil (List.cons_ne_nil _ _) _, ?_⟩
  · cases awaits <;> simp +decide [callRow, awaitRow, hargs]
  · unfold callText
    cases passing <;> cases withConfig <;> cases awaits <;>
      simp only [optional, Bool.false_eq_true, if_true, if_false, List.cons_append, List.nil_append,
        List.append_nil, toList_spaced_cons, toList_spaced_singleton, String.toList_append] <;>
      (repeat rw [String.toList_ofList]) <;>
      simp [callRow, awaitRow, argumentsRow, Ident.text]

theorem writes_answer (H : Writes call text) (returns : ReturnShape) :
    Writes (answerRow call returns) (answerText text returns) := by
  cases returns with
  | result =>
    have hanswer := writes_errorAnswer (show "500" ∈ ["200", "400", "500"] by decide) "handler failed"
    have harms : Legible resultRow := Legible.append (by simp +decide [okRow, outputRow])
      (legible_err .nil (by decide) "handler failed")
    refine ⟨?_, List.cons_ne_nil _ _, ?_⟩
    · simp [answerRow, H.legible.append, harms]
    · simp only [answerText, toList_spaced_cons, toList_spaced_singleton, toList_braced]
      repeat rw [String.toList_ofList]
      simp [answerRow, resultRow, okRow, errRow, outputRow, H.gap_append, H.toList_append,
        hanswer.gap_append, hanswer.toList_append]
  | plain =>
    refine ⟨?_, List.cons_ne_nil _ _, ?_⟩
    · exact (legible_let (by simp) H.legible).append (by simp +decide [outputRow])
    · simp only [answerText, toList_spaced_cons, toList_spaced_singleton]
      repeat rw [String.toList_ofList]
      simp [answerRow, letRow, outputRow, H.gap_append, H.toList_append]

/-- The row of a statement comes back from its text. -/
theorem writes_row (policy : FailurePolicy) {s : Statement} (hplain : s.isPlain = true) :
    Writes (s.row policy) (s.text policy) := by
  cases s with
  | service initializer awaits =>
    have hcall := writes_initializer hplain awaits
    have hmatch : Writes (matchRow _ (.named "service") "500" "failed to initialize service") _ :=
      writes_match hcall (by decide) "failed to initialize service"
    refine ⟨Legible.append (by simp +decide [allowRow]) (legible_let (by simp) hmatch.legible),
      List.cons_ne_nil _ _, ?_⟩
    rw [row]
    simp only [Statement.text, toList_spaced_cons, toList_spaced_singleton]
    repeat rw [String.toList_ofList]
    simp [letRow, allowRow, hmatch.gap_append, hmatch.toList_append]
  | context =>
    refine ⟨legible_let (by simp) (by simp +decide), List.cons_ne_nil _ _, ?_⟩
    dsimp only [Statement.text]
    rw [String.toList_ofList]
    simp [row, letRow]
  | lookup origin =>
    cases origin with
    | path | query =>
      refine ⟨legible_let (by simp) (by simp +decide), List.cons_ne_nil _ _, ?_⟩
      simp only [Statement.text, mapName, mapCall, toList_spaced_cons, toList_spaced_singleton]
      repeat rw [String.toList_ofList]
      simp [row, letRow]
  | extract index extraction => exact writes_extract policy index hplain
  | config type fields hasRest =>
    have hliteral := writes_literal hplain fields hasRest
    refine ⟨legible_let (by simp) hliteral.legible, List.cons_ne_nil _ _, ?_⟩
    rw [row, Statement.text]
    generalize type.tokens ++ [.group .brace (fieldsRow fields hasRest)] = value at hliteral
    simp only [toList_spaced_cons, toList_spaced_singleton]
    repeat rw [String.toList_ofList]
    simp [letRow, hliteral.gap_append, hliteral.toList_append]
  | answer method passing withConfig awaits returns =>
    exact writes_answer (writes_call method passing withConfig awaits) returns

end Statement

namespace Program

open Statement (okRow errRow legible_err spaced braced Writes writes_row
  toList_spaced_cons toList_spaced_singleton toList_braced)

variable {p : Program} {policy : FailurePolicy}

/-! ### Programs -/

/-- The tokens of the imports of every program. -/
def importsRow : List TokenTree := useRow requestImportsRow ++ useRow runtimeImportsRow

/-- The tokens of the functions that answer, and of the start of every program. -/
def epilogueRow : List TokenTree :=
  respondOutputRow ++ (respondErrorRow ++ (respondJsonRow ++ mainRow))

/-- The tokens of a program. -/
def row (policy : FailurePolicy) (p : Program) : List TokenTree := (p.rows policy).flatten

theorem row_eq (policy : FailurePolicy) (p : Program) :
    p.row policy = importsRow ++ (handleRow ++ .group .brace (p.bodyRow policy) :: epilogueRow) := rfl

theorem writes_imports : Writes importsRow imports where
  legible := by simp +decide [importsRow, useRow, requestImportsRow, runtimeImportsRow, colonsRow]
  ne_nil := List.cons_ne_nil _ _
  text := by
    delta imports
    simp only [String.toList_append]
    repeat rw [String.toList_ofList]
    simp [importsRow, useRow, requestImportsRow, runtimeImportsRow, colonsRow]

theorem writes_handle : Writes handleRow handleSignature where
  legible := by simp +decide [handleRow, responseRow]
  ne_nil := List.cons_ne_nil _ _
  text := by
    delta handleSignature
    rw [String.toList_ofList]
    simp [handleRow, responseRow]

theorem legible_response : Legible responseRow := by simp +decide [responseRow]

theorem legible_respondOutput : Legible respondOutputRow := by
  have herr := legible_err .nil (show "500" ∈ ["200", "400", "500"] by decide)
    "failed to encode response"
  simp +decide [respondOutputRow, respondRow, boundRow, colonsRow]
  exact legible_response.append
    (by simp +decide [encodeRow, encodingRow, encodedRow, colonsRow, okRow, isLiteral_status, herr])

theorem legible_respondError : Legible respondErrorRow := by
  simp +decide [respondErrorRow, respondRow]
  exact legible_response.append (by simp +decide [colonsRow])

theorem legible_respondJson : Legible respondJsonRow := by
  simp +decide [respondJsonRow, respondRow]
  exact legible_response.append (by
    simp +decide [builtRow, statusRow, headerRow, contentRow, colonsRow, isLiteral_literal])

theorem legible_main : Legible mainRow := by
  simp +decide [mainRow, mainAttributeRow, mainResultRow, mainBodyRow, colonsRow]

theorem writes_epilogue : Writes epilogueRow epilogue where
  legible := legible_respondOutput.append
    (legible_respondError.append (legible_respondJson.append legible_main))
  ne_nil := List.cons_ne_nil _ _
  text := by
    have htext : textAll epilogueRow = epilogue := by decide +kernel
    rw [htext]

theorem isPlain_of_mem_statements {p : Program} (hplain : p.isPlain = true) :
    ∀ s ∈ p.statements, s.isPlain = true := by
  obtain ⟨initializer, awaitsInitializer, config, method, awaitsMethod, context, returns⟩ := p
  obtain ⟨hinitializer, hconfig⟩ := Bool.and_eq_true_iff.mp hplain
  have hliteral : ∀ s ∈ (config.map ConfigLiteral.statements).getD [], s.isPlain = true := by
    cases config with
    | none => nofun
    | some literal =>
      obtain ⟨htype, hassignments⟩ := Bool.and_eq_true_iff.mp hconfig
      have hassignments := List.all_eq_true.mp hassignments
      intro s hs
      rcases List.mem_append.mp hs with hs | hs
      · rcases List.mem_append.mp hs with hs | hs
        · obtain ⟨origin, -, rfl⟩ := List.mem_map.mp hs
          rfl
        · obtain ⟨index, hindex, rfl⟩ := List.mem_mapIdx.mp hs
          exact hassignments _ (List.getElem_mem hindex)
      · rw [List.mem_singleton.mp hs]
        exact htype
  intro s hs
  rcases List.mem_append.mp hs with hs | hs
  · rcases List.mem_append.mp hs with hs | hs
    · rcases List.mem_cons.mp hs with rfl | hs
      · exact hinitializer
      · rw [List.mem_singleton.mp hs]
        rfl
    · exact hliteral s hs
  · rw [List.mem_singleton.mp hs]
    rfl

theorem writes_body (policy : FailurePolicy) {p : Program} (hplain : p.isPlain = true) :
    Writes (p.bodyRow policy) (p.bodyText policy) := by
  have hwrites := Writes.flatten (p.statements.map fun s => (s.row policy, s.text policy))
    (by simp [statements]) (List.forall_mem_map.mpr fun s hs =>
      writes_row policy (isPlain_of_mem_statements hplain s hs))
  simpa [bodyRow, bodyText, List.flatMap, Function.comp_def] using hwrites

theorem legible_row (policy : FailurePolicy) {p : Program} (hplain : p.isPlain = true) :
    Legible (p.row policy) := by
  rw [row_eq]
  exact writes_imports.legible.append (writes_handle.legible.append
    (.group (writes_body policy hplain).legible writes_epilogue.legible))

/-- The characters of the texts that a program is made of. -/
theorem toList_parts (first second third inside last : String) :
    (first ++ "\n\n" ++ spaced [second, third, braced inside, last] ++ "\n").toList =
      first.toList ++ '\n' :: '\n' :: (second.toList ++ ' ' :: (third.toList ++ ' ' :: '{' :: ' ' ::
        (inside.toList ++ ' ' :: '}' :: ' ' :: last.toList)) ++ ['\n']) := by
  simp [toList_spaced_cons, toList_spaced_singleton, toList_braced]

/-- A program is its header, and its tokens after an empty line. -/
theorem toList_text (policy : FailurePolicy) {p : Program} (hplain : p.isPlain = true) :
    (p.text policy).toList =
      header.toList ++ '\n' :: '\n' :: ((textAll (p.row policy)).toList ++ ['\n']) := by
  have hbody := writes_body policy hplain
  have hrow : (textAll (p.row policy)).toList = imports.toList ++ ' ' :: (handleSignature.toList ++
      ' ' :: '{' :: ' ' :: ((p.bodyText policy).toList ++ ' ' :: '}' :: ' ' :: epilogue.toList)) := by
    rw [row_eq, writes_imports.toList_append
      (List.append_ne_nil_of_left_ne_nil writes_handle.ne_nil _),
      writes_handle.toList_append (List.cons_ne_nil _ _), TokenTree.toList_textAll_brace, hbody.gap,
      hbody.text, writes_epilogue.gap, writes_epilogue.text]
    rfl
  rw [Program.text, toList_parts, hrow]

theorem exists_toList_header : ∃ rest, header.toList = '/' :: rest := by
  delta header
  rw [String.toList_ofList]
  exact ⟨_, rfl⟩

/-- The header is a comment before the first token. -/
theorem skipAll_header (tail : List Char) :
    Lexeme.skipAll (header.toList ++ '\n' :: '\n' :: 'u' :: tail) = 'u' :: tail := by
  delta header
  rw [String.toList_ofList]
  rfl

/-- The tokens of a program come back from its text. -/
theorem ofChars?_text (policy : FailurePolicy) {p : Program} (hplain : p.isPlain = true) :
    TokenTree.ofChars? (dropInterpreter (Text.dropMark (p.text policy).toList)) =
      some (p.row policy) := by
  obtain ⟨tail, htail⟩ : ∃ tail, (textAll (p.row policy)).toList ++ ['\n'] = 'u' :: tail := by
    rw [show p.row policy = .named "use" :: (p.row policy).tail from rfl,
      TokenTree.toList_textAll_named]
    exact ⟨_, rfl⟩
  have htext := toList_text policy hplain
  rw [htail] at htext
  obtain ⟨rest, hheader⟩ := exists_toList_header
  have hmark : Text.dropMark (p.text policy).toList = (p.text policy).toList := by
    rw [htext, hheader]
    rfl
  have hinterpreter : dropInterpreter (p.text policy).toList = (p.text policy).toList := by
    rw [htext, hheader]
    rfl
  rw [hmark, hinterpreter]
  refine TokenTree.ofChars?_of_legible (legible_row policy hplain) hmark ?_
  rw [htail, htext]
  refine .of_eq (fun fuel => ?_) (by simp only [List.length_append, List.length_cons]; omega)
  have hfirst : Lexeme.skipAll ('u' :: tail) = 'u' :: tail := rfl
  cases fuel with
  | zero => rfl
  | succ fuel => rw [Lexeme.ofChars?, skipAll_header, Lexeme.ofChars?, hfirst]

end Program

end Entrypoint
