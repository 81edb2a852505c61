import Entrypoint.Program.Basic
import Entrypoint.Proofs.Source.WordLexing

/-! Paths and identifiers come back from their text. The path that words spell is cut into these
words again, and read as the path whose segments are these words, without arguments. -/

namespace Entrypoint

open Lexeme

namespace PathWord

/-- The path that words spell. -/
def spell (names : List PathWord) : String := "::".intercalate (names.map (·.text))

/-- The characters of further words of a path. -/
def tailChars (names : List PathWord) : List Char :=
  names.flatMap fun name => ':' :: ':' :: name.text.toList

/-- The tokens of further words of a path. -/
def tailTokens (names : List PathWord) : List TokenTree :=
  names.flatMap fun name => [.punct ':' true, .punct ':' false, .word name.word]

variable {first name : PathWord} {names : List PathWord}

theorem toList_spell_cons : (spell (first :: names)).toList = first.text.toList ++ tailChars names := by
  induction names generalizing first with
  | nil => simp [spell, tailChars]
  | cons name names ih =>
    have hcons : spell (first :: name :: names) = first.text ++ "::" ++ spell (name :: names) := by
      simp [spell, String.intercalate_cons_cons]
    rw [hcons, String.toList_append, String.toList_append, ih]
    simp [tailChars]

theorem exists_text (name : PathWord) :
    ∃ c text, Text.isIdentStart c = true ∧ name.text.toList = c :: text := by
  obtain ⟨c, word, hc, _, htext | htext⟩ := name.word.exists_chars
  · exact ⟨c, word, hc, htext⟩
  · exact ⟨'r', _, by decide, htext⟩

theorem endsWord_tailChars (names : List PathWord) :
    ∀ d ∈ (tailChars names).head?, EndsWord d := by
  cases names with
  | nil => nofun
  | cons name names =>
    rintro d ⟨⟩
    decide

theorem ofChars?_tailChars {fuel : Nat} (h : (tailChars names).length < fuel) :
    Lexeme.ofChars? fuel (tailChars names) = some ((tailTokens names).map .leaf) := by
  induction names generalizing fuel with
  | nil =>
    obtain ⟨fuel, rfl⟩ := Nat.exists_eq_add_of_lt h
    simp [tailChars, tailTokens, Lexeme.ofChars?, skipAll, skip, afterComment?]
  | cons name names ih =>
    obtain ⟨c, text, hc, htext⟩ := name.exists_text
    have hchars : tailChars (name :: names) = ':' :: ':' :: (name.text.toList ++ tailChars names) := rfl
    rw [hchars] at h ⊢
    simp only [List.length_cons, List.length_append, htext] at h
    obtain ⟨fuel, rfl⟩ : ∃ k, fuel = k + 3 := ⟨fuel - 3, by omega⟩
    have hstop : ∀ d ∈ (tailChars names).head?, EndsWord d := endsWord_tailChars names
    have hjoint : startsPunct (name.text.toList ++ tailChars names) = false := by
      rw [htext, List.cons_append, startsPunct_eq_false hc]
    rw [ofChars?_colon, ofChars?_colon, hjoint,
      show startsPunct (':' :: (name.text.toList ++ tailChars names)) = true by
        show punctuation.contains ':' = true
        decide]
    rw [show name.text = name.word.text from rfl, ofChars?_word fuel name.word hstop,
      ih (by omega)]
    rfl

/-- A spelled path is cut into its words. -/
theorem ofText?_spell :
    TokenTree.ofText? (spell (first :: names)) = some (.word first.word :: tailTokens names) := by
  obtain ⟨c, text, hc, htext⟩ := first.exists_text
  have hstop : ∀ d ∈ (tailChars names).head?, EndsWord d := endsWord_tailChars names
  have hmark : Text.dropMark (first.text.toList ++ tailChars names) =
      first.text.toList ++ tailChars names := by
    rw [htext, List.cons_append]
    unfold Text.dropMark
    split
    · rename_i h
      exact absurd (List.cons.inj h).1 (Text.ne_of_isIdentStart hc (by decide +kernel))
    · rfl
  have hfuel : (tailChars names).length < (first.word.text.toList ++ tailChars names).length := by
    rw [show first.word.text = first.text from rfl, htext, List.length_append, List.length_cons]
    omega
  rw [TokenTree.ofText?, toList_spell_cons, TokenTree.ofChars?, hmark,
    show first.text = first.word.text from rfl, ofChars?_word _ first.word hstop,
    ofChars?_tailChars hfuel]
  exact assemble_leaves [] (.word first.word :: tailTokens names)

end PathWord

/-- The segment of a name without arguments. -/
def Segment.plain (name : PathWord) : Segment := .mk name .absent

/-- The path of names without arguments. -/
def PathExpr.ofNames (rooted : Bool) (first : PathWord) (names : List PathWord) : PathExpr :=
  .mk rooted ((first :: names).dropLast.map .plain)
    (.plain ((first :: names).getLast (List.cons_ne_nil first names)))

namespace PathExpr

theorem exists_ofNames {p : PathExpr} (h : p.isPlain = true) :
    ∃ rooted first names, p = ofNames rooted first names := by
  obtain ⟨rooted, parents, last⟩ := p
  have hplain : ∀ segment ∈ parents ++ [last], Segment.plain segment.name = segment := by
    intro segment hsegment
    have hsegment := List.all_eq_true.mp h segment hsegment
    obtain ⟨name, _ | _ | _⟩ := segment
    · rfl
    · cases hsegment
    · cases hsegment
  obtain ⟨first, names, hnames⟩ := List.exists_cons_of_ne_nil
    (List.append_ne_nil_of_right_ne_nil (parents.map Segment.name) (List.cons_ne_nil last.name []))
  have hparents : (parents.map Segment.name).map Segment.plain = parents := by
    have hid : parents.map (Segment.plain ∘ Segment.name) = parents.map id :=
      List.map_congr_left fun segment hsegment => hplain segment (List.mem_append_left _ hsegment)
    rw [List.map_map, hid, List.map_id]
  refine ⟨rooted, first, names, ?_⟩
  simp only [ofNames, ← hnames, List.dropLast_concat, List.getLast_concat, hparents,
    hplain last (by simp)]

theorem isPlain_ofNames {rooted : Bool} {first : PathWord} {names : List PathWord} :
    (ofNames rooted first names).isPlain = true := by
  refine List.all_eq_true.mpr fun segment hsegment => ?_
  rcases List.mem_append.mp hsegment with hsegment | hsegment
  · obtain ⟨name, _, rfl⟩ := List.mem_map.mp hsegment
    rfl
  · rw [List.mem_singleton.mp hsegment]
    rfl

theorem tokens_ofNames (rooted : Bool) (first : PathWord) (names : List PathWord) :
    (ofNames rooted first names).tokens = (if rooted then TokenTree.operator "::" else []) ++
      .word first.word :: PathWord.tailTokens names := by
  have hsegments : Segment.parentTokens ((first :: names).dropLast.map .plain) ++
      (Segment.plain ((first :: names).getLast (List.cons_ne_nil first names))).tokens =
        .word first.word :: PathWord.tailTokens names := by
    induction names generalizing first with
    | nil => rfl
    | cons name names ih =>
      have htail : PathWord.tailTokens (name :: names) =
          TokenTree.operator "::" ++ .word name.word :: PathWord.tailTokens names := rfl
      rw [List.dropLast_cons_cons, List.map_cons, Segment.parentTokens, List.append_assoc,
        List.append_assoc, List.getLast_cons_cons, ih, htail]
      rfl
  rw [ofNames, tokens, List.append_assoc, hsegments]

theorem segments_ofNames {rooted : Bool} {first : PathWord} {names : List PathWord} :
    (ofNames rooted first names).segments = (first :: names).map .plain := by
  have hsplit := List.dropLast_concat_getLast (List.cons_ne_nil first names)
  rw [segments, ofNames, parents, last, ← List.map_singleton, ← List.map_append, hsplit]

theorem isExpression_ofNames {rooted : Bool} {first : PathWord} {names : List PathWord} :
    (ofNames rooted first names).isExpression = true := by
  rw [isExpression, segments_ofNames, List.all_map, List.all_eq_true]
  exact fun _ _ => rfl

theorem leadsWithTry_ofNames {rooted : Bool} {first : PathWord} {names : List PathWord} :
    (ofNames rooted first names).leadsWithTry = (!rooted && first.text == "try") := by
  rw [leadsWithTry, segments_ofNames]
  rfl

theorem isTry_of_leadsWithTry {p : PathExpr} (h : p.leadsWithTry = false) : p.isTry = false := by
  rw [isTry, h, Bool.false_and]

end PathExpr

namespace Reading

theorem run_sees (condition : Ahead) (row : Row) :
    (sees condition).run row = some (condition row.trees, row) := rfl

theorem run_expect {condition : Ahead} {row : Row} (h : condition row.trees = true) :
    (expect condition).run row = some ((), row) := by
  have hrun : (expect condition).run row =
      (if condition row.trees then pure () else failure : Reading Unit).run row := rfl
  rw [hrun, if_pos h]
  rfl

theorem run_bind {α β : Type} {reading : Reading α} {next : α → Reading β} {row row' : Row} {a : α}
    (h : reading.run row = some (a, row')) : (reading >>= next).run row = (next a).run row' := by
  rw [StateT.run_bind, h]
  rfl

theorem run_anyWord (word : Word) (rest : List TokenTree) (found : List Item) :
    anyWord.run ⟨.word word :: rest, found⟩ = some (word, ⟨rest, found⟩) := rfl

theorem run_nameOr {texts : List String} (name : NameOr texts) (rest : List TokenTree)
    (found : List Item) :
    (nameOr texts).run ⟨.word name.word :: rest, found⟩ = some (name, ⟨rest, found⟩) := by
  have hname : NameOr.ofWord? name.word = some name := by
    simp [NameOr.ofWord?, name.isName_word]
  unfold nameOr
  rw [run_bind (run_anyWord name.word rest found), hname]
  rfl

theorem run_punct?_of_not {operator : String} {row : Row}
    (h : Ahead.punct operator row.trees = false) :
    (punct? operator).run row = some (false, row) := by
  have hrun : (punct? operator).run row =
      (if Ahead.punct operator row.trees then do
        let _ ← punct operator
        pure true
      else pure false : Reading Bool).run row := rfl
  rw [hrun, h]
  rfl

end Reading

namespace Grammar

open Reading PathWord

variable {g : Grammar} {first name : PathWord} {names : List PathWord} {rest : List TokenTree}
  {inExpression : Bool}

/-- No path goes on over what follows: there is no double colon, and no arguments where they need
none. -/
def EndsPath (inExpression : Bool) (rest : List TokenTree) : Prop :=
  Ahead.punct "::" rest = false ∧ (inExpression = false → Ahead.angle rest = false)

theorem endsPath_nil : EndsPath inExpression [] := ⟨rfl, fun _ => rfl⟩

/-- In an expression a path ends before anything but a double colon. -/
theorem endsPath_value (h : Ahead.punct "::" rest = false) : EndsPath true rest := ⟨h, nofun⟩

theorem EndsPath.tailTokens_ahead (H : EndsPath inExpression rest) (names : List PathWord) :
    (!inExpression && Ahead.angle (tailTokens names ++ rest)) = false ∧
      Ahead.both (.punct "::") (.third (.punct "<")) (tailTokens names ++ rest) = false ∧
        Ahead.both (.punct "::") (.not (.third (.group .paren))) (tailTokens names ++ rest) =
          !names.isEmpty := by
  cases names with
  | nil =>
    obtain ⟨hcolons, hangle⟩ := H
    refine ⟨?_, ?_, ?_⟩
    · cases inExpression with
      | true => rfl
      | false => exact hangle rfl
    · simp [tailTokens, Ahead.both, hcolons]
    · simp [tailTokens, Ahead.both, hcolons]
  | cons name names =>
    refine ⟨?_, rfl, rfl⟩
    rw [Bool.and_eq_false_iff]
    exact .inr rfl

/-- A name before a double colon or the end is a segment without arguments. -/
theorem run_segment (H : EndsPath inExpression rest) (found : List Item) :
    (g.segment inExpression).run ⟨.word name.word :: (tailTokens names ++ rest), found⟩ =
      some (.plain name, ⟨tailTokens names ++ rest, found⟩) := by
  obtain ⟨hangle, harguments, -⟩ := H.tailTokens_ahead names
  unfold segment
  rw [run_bind (run_sees ..)]
  split
  · rw [run_bind (run_nameOr ..)]
    rfl
  · -- The words that lead paths are taken before; of the others only `Self` is left.
    rename_i hlead
    have hname : Ahead.any [.ident, .word "Self"]
        (.word name.word :: (tailTokens names ++ rest)) = true := by
      have hkeyword := name.isName_word
      simp only [Word.pathWords, List.mem_cons, List.not_mem_nil, or_false] at hkeyword
      have hstart : ¬ (name.word.text = "super" ∨ name.word.text = "self" ∨
          name.word.text = "crate" ∨ name.word.text = "try") := by
        simpa [Ahead.wordOf, Ahead.word] using hlead
      have hahead : name.word.isKeyword = false ∨ name.word.text = "Self" := by
        simp only [not_or] at hstart
        obtain ⟨hsuper, hself, hcrate, htry⟩ := hstart
        simpa [hsuper, hself, hcrate, htry] using hkeyword
      rcases hahead with h | h
      · simp [Ahead.any, Ahead.ident, h]
      · simp [Ahead.any, Ahead.word, h]
    rw [run_bind (run_expect hname), run_bind (run_nameOr ..), run_bind (run_sees ..),
      run_bind (run_sees ..)]
    simp only [hangle, harguments]
    rfl

theorem run_segments (H : EndsPath inExpression rest) {fuel : Nat} (h : names.length < fuel)
    (found : List Item) :
    (g.segments inExpression (.plain first) fuel).run ⟨tailTokens names ++ rest, found⟩ =
      some (((first :: names).dropLast.map .plain,
        .plain ((first :: names).getLast (List.cons_ne_nil first names))), ⟨rest, found⟩) := by
  obtain ⟨-, -, hahead⟩ := H.tailTokens_ahead names
  induction names generalizing first fuel with
  | nil =>
    obtain ⟨fuel, rfl⟩ := Nat.exists_eq_add_of_lt h
    unfold segments
    rw [List.length_nil, Nat.zero_add]
    dsimp only
    rw [run_bind (run_sees ..), hahead]
    rfl
  | cons name names ih =>
    obtain ⟨fuel, rfl⟩ : ∃ k, fuel = k + 1 := ⟨fuel - 1, by omega⟩
    have hcolons : (punct "::").run ⟨tailTokens (name :: names) ++ rest, found⟩ =
        some (TokenTree.operator "::", ⟨.word name.word :: (tailTokens names ++ rest), found⟩) := rfl
    unfold segments
    rw [run_bind (run_sees ..), hahead]
    simp only [List.isEmpty_cons, Bool.not_false, if_true]
    rw [run_bind hcolons, run_bind (run_segment H found),
      run_bind (ih (by simpa using h) (H.tailTokens_ahead names).2.2)]
    rfl

/-- The tokens of a path of names are read as this path. -/
theorem run_plainPath (H : EndsPath inExpression rest) (rooted : Bool) (found : List Item) :
    (g.plainPath inExpression).run
        ⟨(PathExpr.ofNames rooted first names).tokens ++ rest, found⟩ =
      some (.ofNames rooted first names, ⟨rest, found⟩) := by
  have hlength : names.length < (tailTokens names ++ rest).length + 1 := by
    rw [List.length_append]
    induction names with
    | nil => simp
    | cons name names ih => simp [tailTokens] at ih ⊢; omega
  have hroom : room.run ⟨tailTokens names ++ rest, found⟩ =
      some ((tailTokens names ++ rest).length + 1, ⟨tailTokens names ++ rest, found⟩) := rfl
  have hroot : (punct? "::").run ⟨(PathExpr.ofNames rooted first names).tokens ++ rest, found⟩ =
      some (rooted, ⟨.word first.word :: (tailTokens names ++ rest), found⟩) := by
    rw [PathExpr.tokens_ofNames]
    cases rooted with
    | true => rfl
    | false => exact run_punct?_of_not rfl
  unfold plainPath
  rw [run_bind hroot, run_bind (run_segment H found), run_bind hroom,
    run_bind (run_segments H hlength found)]
  rfl

end Grammar

/-- A spelled path is read as the path of its names. -/
theorem PathExpr.ofText?_spell (first : PathWord) (names : List PathWord) :
    PathExpr.ofText? (PathWord.spell (first :: names)) = some (.ofNames false first names) := by
  have hread : TokenTree.read? (.word first.word :: PathWord.tailTokens names) Grammar.path =
      some (.ofNames false first names) := by
    have hdepth (trees : List TokenTree) (row : Row) : (Grammar.forTrees trees).path.run row =
        ((Grammar.ofDepth (16 * TokenTree.sizeAll trees + 15)).plainPath false).run row := rfl
    have htokens : .word first.word :: PathWord.tailTokens names =
        (ofNames false first names).tokens ++ [] := by
      rw [tokens_ofNames, List.append_nil]
      rfl
    rw [TokenTree.read?, Reading.whole?, hdepth, htokens,
      Grammar.run_plainPath Grammar.endsPath_nil false []]
    rfl
  rw [PathExpr.ofText?, PathWord.ofText?_spell, Option.bind_some, hread]

/-- An identifier is read from its text. -/
theorem Program.ident?_text (i : Ident) : Program.ident? i.text = some i := by
  have hspell : i.text = PathWord.spell [.ofIdent i] := by simp [PathWord.spell]; rfl
  have hword : (NameOr.ofIdent i : PathWord).word.ident? = some i := by
    simp [Word.ident?, NameOr.ofIdent, i.isKeyword_word]
  rw [Program.ident?, hspell, PathWord.ofText?_spell]
  exact hword

end Entrypoint
