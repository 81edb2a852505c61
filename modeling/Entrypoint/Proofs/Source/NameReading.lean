import Entrypoint.Proofs.Source.PathReading
import Entrypoint.Source.Nesting

/-! Names and paths where programs have them: a name as a pattern, a path as a type, as a value and
as the beginning of a struct literal. What a reader decides by looking ahead, it decides for every name
alike, since no name is one of the words with a meaning of their own. -/

namespace Entrypoint

/-- The token of a text that is a word. -/
def TokenTree.named {chars : List Char} (text : String)
    (h : text = String.ofList chars := by exact rfl) (hword : Word.isText chars = true := by decide) :
    TokenTree :=
  .word ⟨text, by simpa [h] using hword⟩

/-- The identifier of a text that is a word and no keyword. -/
def Ident.named {chars : List Char} (text : String)
    (h : text = String.ofList chars := by exact rfl)
    (hword : (Word.isText chars && !Word.keywords.contains text) = true := by decide) : Ident where
  word := ⟨text, by
    rw [h, String.toList_ofList]
    exact (Bool.and_eq_true_iff.mp hword).1⟩
  isKeyword_word := (Bool.not_eq_true' _).mp (Bool.and_eq_true_iff.mp hword).2

/-! ### What names are not -/

/-- No identifier is a word with a meaning of its own. -/
@[simp] theorem Ident.text_ne (i : Ident) {text : String} (h : Word.keywords.contains text = true) :
    (i.word.text == text) = false := by
  refine beq_false_of_ne fun heq => ?_
  have hword := i.isKeyword_word
  rw [Word.isKeyword, heq, h] at hword
  cases hword

/-- No name in a path is a word with a meaning of its own that cannot stand there. -/
@[simp] theorem PathWord.text_ne (name : PathWord) {text : String}
    (h : (Word.keywords.contains text && !Word.pathWords.contains text) = true) :
    (name.word.text == text) = false := by
  refine beq_false_of_ne fun heq => ?_
  rw [Bool.and_eq_true, Bool.not_eq_true'] at h
  obtain hword | hword := name.isName_word
  · rw [Word.isKeyword, heq, h.1] at hword
    cases hword
  · rw [heq] at hword
    rw [List.contains_iff_mem.mpr hword] at h
    cases h.2

/-! ### Looking ahead at a word -/

namespace Ahead

variable {w : Word} {rest : List TokenTree}

@[simp] theorem punct_word (operator : String) : punct operator (.word w :: rest) = false := by
  unfold punct punctFrom
  split <;> first | rfl | simp_all

@[simp] theorem skip_word : skip (.word w :: rest) = rest := rfl

@[simp] theorem word_word (text : String) : word text (.word w :: rest) = (w.text == text) := rfl

@[simp] theorem ident_word : ident (.word w :: rest) = !w.isKeyword := rfl

@[simp] theorem literal_word :
    literal (.word w :: rest) = (w.text == "true" || w.text == "false") := rfl

@[simp] theorem lifetime_word : lifetime (.word w :: rest) = false := rfl

@[simp] theorem group_word (d : Delimiter) : group d (.word w :: rest) = false := rfl

/-- Every name but the word `try` begins a path wherever one may stand. -/
theorem pathWord_name {name : PathWord} (h : name.word.text ≠ "try") :
    pathWord (.word name.word :: rest) = true := by
  have hword : name.word.isKeyword = false ∨ name.word.text = "super" ∨ name.word.text = "self" ∨
      name.word.text = "Self" ∨ name.word.text = "crate" := by
    simpa [Word.pathWords, h] using name.isName_word
  rcases hword with hword | hword | hword | hword | hword <;> simp [pathWord, any, wordOf, hword]

end Ahead

namespace Reading

@[simp] theorem run_sees_bind {α : Type} (condition : Ahead) (next : Bool → Reading α) (row : Row) :
    (sees condition >>= next).run row = (next (condition row.trees)).run row := rfl

variable {α : Type} {d : Delimiter} {body rest tokens : List TokenTree} {found found' : List Item}
  {reading : Reading α} {a : α}

theorem run_within (h : reading.run ⟨body, found⟩ = some (a, ⟨[], found'⟩)) :
    (within body reading).run ⟨rest, found⟩ = some (a, ⟨rest, found'⟩) := by
  have hrun : (within body reading).run ⟨rest, found⟩ = within body reading ⟨rest, found⟩ := rfl
  rw [hrun, within, h]
  rfl

theorem run_group (d : Delimiter) (body rest : List TokenTree) (found : List Item) :
    (group d).run ⟨.group d body :: rest, found⟩ = some (body, ⟨rest, found⟩) := by
  cases d <;> rfl

/-- The inside of a group is read to its end. -/
theorem run_grouped {reading : Reading (List TokenTree)}
    (h : reading.run ⟨body, found⟩ = some (tokens, ⟨[], found'⟩)) :
    (grouped d reading).run ⟨.group d body :: rest, found⟩ =
      some ([.group d tokens], ⟨rest, found'⟩) := by
  unfold grouped
  rw [run_bind (run_group ..), run_bind (run_within h)]
  rfl

theorem run_gathered {row : List TokenTree} {met : List Item}
    (h : reading.run ⟨rest, []⟩ = some (a, ⟨row, met⟩)) :
    (gathered reading).run ⟨rest, found⟩ = some ((a, met), ⟨row, found⟩) := by
  have hrun : (gathered reading).run ⟨rest, found⟩ = gathered reading ⟨rest, found⟩ := rfl
  rw [hrun, gathered, h]

theorem run_ident (i : Ident) (rest : List TokenTree) (found : List Item) :
    ident.run ⟨.word i.word :: rest, found⟩ = some (i, ⟨rest, found⟩) := by
  have hword : i.word.ident? = some i := by simp [Word.ident?, i.isKeyword_word]
  unfold ident
  rw [run_bind (run_anyWord ..), hword]
  rfl

theorem run_record_nil (row : Row) : (record []).run row = some ((), row) := by
  have hrun : (record []).run row = some ((), { row with found := row.found ++ [] }) := rfl
  rw [hrun, List.append_nil]

end Reading

namespace Grammar

open Reading PathWord
open TokenTree (operator mark)

variable {g : Grammar} {i : Ident} {p : PathExpr} {first : PathWord} {names : List PathWord}
  {rest : List TokenTree} {found : List Item}

theorem run_outerAttributeList (h : Ahead.punct "#" rest = false) :
    g.outerAttributeList.run ⟨rest, found⟩ = some ([], ⟨rest, found⟩) := by
  have hroom : room.run ⟨rest, found⟩ = some (rest.length + 1, ⟨rest, found⟩) := rfl
  unfold outerAttributeList
  rw [run_bind hroom]
  unfold many
  rw [run_bind (run_sees ..), Ahead.not, h]
  rfl

theorem run_outerAttributes (h : Ahead.punct "#" rest = false) :
    g.outerAttributes.run ⟨rest, found⟩ = some ([], ⟨rest, found⟩) := by
  unfold outerAttributes
  rw [run_bind (run_outerAttributeList h)]
  rfl

/-! ### Patterns -/

/-- Nothing that follows a name belongs to it as a pattern. -/
def EndsName (rest : List TokenTree) : Prop :=
  Ahead.any [.punct "::", .punct "!", .group .brace, .group .paren, .punct "..", .punct "@"] rest =
    false

/-- A name is a pattern. -/
theorem run_patternWith_name (h : EndsName rest) :
    g.patternWith.run ⟨.word i.word :: rest, found⟩ =
      some (plainPattern [.word i.word], ⟨rest, found⟩) := by
  simp only [EndsName, Ahead.any, List.any_cons, List.any_nil, Bool.or_eq_false_iff] at h
  obtain ⟨hcolons, hbang, hbrace, hparen, hdots, hat, -⟩ := h
  have hname : (identOr ["self"]).run ⟨.word i.word :: rest, found⟩ =
      some (i.word, ⟨rest, found⟩) := by
    unfold identOr
    simp (disch := decide) only [run_sees_bind, Ahead.wordOf, Ahead.word_word, i.text_ne,
      List.any_cons, List.any_nil, Bool.or_false, Bool.false_eq_true, if_false]
    rw [run_bind (run_ident ..)]
    rfl
  unfold patternWith
  simp (disch := decide) only [run_sees_bind, pathPatternBegins, Ahead.any, Ahead.both, Ahead.second,
    Ahead.wordOf, Ahead.punct_word, Ahead.skip_word, Ahead.word_word, Ahead.ident_word,
    Ahead.literal_word, i.text_ne, i.isKeyword_word, List.any_cons, List.any_nil, hcolons, hbang,
    hbrace, hparen, hdots, Bool.or_false, Bool.and_false, Bool.not_false, Bool.false_eq_true,
    Bool.or_true, if_false, if_true]
  unfold namePattern wordIfAny
  simp (disch := decide) only [bind_assoc, run_sees_bind, Ahead.word_word, i.text_ne, if_false,
    pure_bind, Bool.false_eq_true]
  rw [run_bind hname, run_sees_bind, hat]
  rfl

/-- A name is a member. -/
theorem run_member (i : Ident) (rest : List TokenTree) (found : List Item) :
    member.run ⟨.word i.word :: rest, found⟩ = some (([.word i.word], true), ⟨rest, found⟩) := by
  have hrun : member.run ⟨.word i.word :: rest, found⟩ =
      (if i.word.isKeyword then failure else return ([.word i.word], true) :
        Reading (List TokenTree × Bool)).run ⟨rest, found⟩ := rfl
  rw [hrun, i.isKeyword_word]
  rfl

/-! ### Paths -/

/-- A path that leads on from no type is a path. -/
theorem run_qualifiedPath {inExpression : Bool} (hplain : p.isPlain = true)
    (H : EndsPath inExpression rest) :
    (g.qualifiedPath inExpression).run ⟨p.tokens ++ rest, found⟩ =
      some (.path p, ⟨rest, found⟩) := by
  obtain ⟨rooted, first, names, rfl⟩ := PathExpr.exists_ofNames hplain
  have hopen : (punct? "<").run ⟨(PathExpr.ofNames rooted first names).tokens ++ rest, found⟩ =
      some (false, ⟨(PathExpr.ofNames rooted first names).tokens ++ rest, found⟩) := by
    refine run_punct?_of_not ?_
    rw [PathExpr.tokens_ofNames]
    cases rooted <;> rfl
  unfold qualifiedPath
  rw [run_bind hopen, if_neg Bool.false_ne_true, run_bind (run_plainPath H rooted found)]
  rfl

/-- No operator comes before a path but the double colon. -/
theorem punct_tokens {operator : String} (hplain : p.isPlain = true)
    (h : (operator.toList.head? == some ':') = false) (rest : List TokenTree) :
    Ahead.punct operator (p.tokens ++ rest) = false := by
  obtain ⟨rooted, first, names, rfl⟩ := PathExpr.exists_ofNames hplain
  rw [PathExpr.tokens_ofNames]
  cases rooted with
  | false => exact Ahead.punct_word operator
  | true =>
    rw [Ahead.punct]
    cases htext : operator.toList with
    | nil => rfl
    | cons c text =>
      have hc : (c == ':') = false := by
        rw [htext] at h
        exact h
      cases text with
      | nil => exact hc
      | cons d text => simp [TokenTree.operator, TokenTree.operator.go, Ahead.punctFrom, hc]

/-! ### Types -/

/-- What follows a path that is a type by itself: nothing that it goes on with, no mark of a macro
call, and no further bound. -/
structure EndsType (rest : List TokenTree) : Prop where
  path : EndsPath false rest
  bang : callBegins rest = false
  plus : Ahead.punct "+" rest = false

/-- A path that does not lead with the word `try` is a type. -/
theorem run_typeWith_path {depth : Nat} {plus : Bool} (hplain : p.isPlain = true)
    (htry : p.leadsWithTry = false) (H : EndsType rest) :
    (typeWith (.ofDepth (depth + 1)) plus).run ⟨p.tokens ++ rest, found⟩ =
      some (.path p, ⟨rest, found⟩) := by
  have htrees : trees.run ⟨rest, found⟩ = some (rest, ⟨rest, found⟩) := rfl
  have hfirst : Ahead.word "for" (p.tokens ++ rest) = false ∧
      Ahead.any [.pathWord, .punct "::", .punct "<"] (p.tokens ++ rest) = true := by
    obtain ⟨rooted, first, names, rfl⟩ := PathExpr.exists_ofNames hplain
    rw [PathExpr.leadsWithTry_ofNames] at htry
    rw [PathExpr.tokens_ofNames]
    cases rooted with
    | true => exact ⟨rfl, rfl⟩
    | false =>
      refine ⟨first.text_ne (by decide), ?_⟩
      have hlead : first.word.text ≠ "try" := beq_eq_false_iff_ne.mp htry
      simp [Ahead.any, Ahead.pathWord_name hlead]
  have hlifetimes : (gathered (Grammar.ofDepth (depth + 1)).lifetimes).run
      ⟨p.tokens ++ rest, found⟩ = some (([], []), ⟨p.tokens ++ rest, found⟩) := by
    refine run_gathered ?_
    show (lifetimesWith (.ofDepth depth)).run _ = _
    unfold lifetimesWith
    rw [run_sees_bind, hfirst.1]
    rfl
  have hpath : (gathered ((Grammar.ofDepth (depth + 1)).qualifiedPath false)).run
      ⟨p.tokens ++ rest, found⟩ = some ((.path p, []), ⟨rest, found⟩) :=
    run_gathered (run_qualifiedPath hplain H.path)
  unfold typeWith
  rw [run_bind hlifetimes]
  simp only [List.isEmpty_nil, ↓reduceIte]
  rw [run_sees_bind, if_pos hfirst.2]
  unfold pathType
  rw [run_bind hpath]
  dsimp only
  rw [run_bind htrees, H.bang, Bool.and_false, if_neg Bool.false_ne_true, List.nil_append,
    run_bind (run_record_nil _), run_sees_bind]
  simp only [List.isEmpty_nil, H.plus, Bool.and_false, Bool.not_true, Bool.or_false,
    Bool.false_eq_true, ↓reduceIte]
  rfl

/-! ### Values -/

/-- A path that is more than the word `try` begins a value. -/
theorem pathValueBegins_tokens (htry : (PathExpr.ofNames false first names).isTry = false)
    (rest : List TokenTree) :
    pathValueBegins (.word first.word :: (tailTokens names ++ rest)) = true := by
  by_cases hlead : first.word.text = "try"
  · cases names with
    | nil =>
      have htext : (first.text == "try") = true := beq_iff_eq.mpr hlead
      rw [PathExpr.isTry, PathExpr.leadsWithTry_ofNames, htext] at htry
      cases htry
    | cons name names =>
      have hcolons : Ahead.punct "::" (tailTokens (name :: names) ++ rest) = true := rfl
      simp [pathValueBegins, Ahead.any, Ahead.both, Ahead.second, hlead, hcolons]
  · simp [pathValueBegins, Ahead.any, Ahead.pathWord_name hlead]

/-- A path that is more than the word `try` is read as a value that begins with a path. -/
theorem run_atom_path {structs : Bool} (hplain : p.isPlain = true) (htry : p.isTry = false)
    (hhash : Ahead.punct "#" rest = false) :
    (g.atom structs).run ⟨p.tokens ++ rest, found⟩ =
      (g.pathValue structs).run ⟨p.tokens ++ rest, found⟩ := by
  obtain ⟨rooted, first, names, rfl⟩ := PathExpr.exists_ofNames hplain
  rw [PathExpr.tokens_ofNames]
  cases rooted with
  | true => rfl
  | false =>
    have hmore : Ahead.punct "#" (tailTokens names ++ rest) = false := by
      cases names with
      | nil => exact hhash
      | cons name names => rfl
    have hliteral : Ahead.literal (.word first.word :: (tailTokens names ++ rest)) = false := by
      simp (disch := decide)
    have hblock : asyncBlockBegins (.word first.word :: (tailTokens names ++ rest)) = false := by
      simp (disch := decide) [asyncBlockBegins, Ahead.both]
    have hfunction : functionValueBegins (.word first.word :: (tailTokens names ++ rest)) = false := by
      simp (disch := decide) [functionValueBegins, lifetimesBegin, Ahead.any, Ahead.both, Ahead.wordOf]
    have hbuiltin : Ahead.both (.word "builtin") (.second (.punct "#"))
        (.word first.word :: (tailTokens names ++ rest)) = false := by
      simp [Ahead.both, Ahead.second, hmore]
    unfold atom
    simp only [List.nil_append, List.cons_append, ↓run_sees_bind, hliteral, hblock, hfunction,
      hbuiltin, pathValueBegins_tokens htry, Bool.false_eq_true, ↓reduceIte]

/-- What follows a path that is a value by itself: nothing that it goes on with, no mark of a macro
call, and no braces where they would hold fields. -/
structure EndsValue (structs : Bool) (rest : List TokenTree) : Prop where
  path : EndsPath true rest
  hash : Ahead.punct "#" rest = false
  bang : callBegins rest = false
  braces : (structs && Ahead.group .brace rest) = false

theorem run_atom_value {structs : Bool} (hplain : p.isPlain = true) (htry : p.isTry = false)
    (H : EndsValue structs rest) :
    (g.atom structs).run ⟨p.tokens ++ rest, found⟩ = some (.plain p.tokens, ⟨rest, found⟩) := by
  have htrees : trees.run ⟨rest, found⟩ = some (rest, ⟨rest, found⟩) := rfl
  rw [run_atom_path hplain htry H.hash]
  unfold pathValue
  rw [run_bind (run_qualifiedPath hplain H.path)]
  dsimp only
  rw [run_bind htrees, H.bang, Bool.and_false, if_neg Bool.false_ne_true, run_sees_bind, H.braces]
  rfl

/-- A path before braces is a struct literal, where one may stand. -/
theorem run_atom_literal {body fields : List TokenTree} (hplain : p.isPlain = true)
    (htry : p.isTry = false)
    (hfields : (g.fieldValues (body.length + 1)).run ⟨body, found⟩ = some (fields, ⟨[], found⟩)) :
    (g.atom true).run ⟨p.tokens ++ .group .brace body :: rest, found⟩ =
      some (.plain (p.tokens ++ [.group .brace fields]), ⟨rest, found⟩) := by
  have hends : EndsPath true (.group .brace body :: rest) := endsPath_value rfl
  have hbegins : callBegins (.group .brace body :: rest) = false := rfl
  have hbraces : (true && Ahead.group .brace (.group .brace body :: rest)) = true := rfl
  have htrees : trees.run ⟨.group .brace body :: rest, found⟩ =
      some (.group .brace body :: rest, ⟨.group .brace body :: rest, found⟩) := rfl
  have hbody : (do g.fieldValues (← room) : Reading (List TokenTree)).run ⟨body, found⟩ =
      some (fields, ⟨[], found⟩) := by
    rw [run_bind (show room.run ⟨body, found⟩ = some (body.length + 1, ⟨body, found⟩) from rfl)]
    exact hfields
  rw [run_atom_path hplain htry rfl]
  unfold pathValue
  rw [run_bind (run_qualifiedPath hplain hends)]
  dsimp only
  rw [run_bind htrees, hbegins, Bool.and_false, if_neg Bool.false_ne_true, run_sees_bind,
    if_pos hbraces, run_bind (run_grouped hbody)]
  rfl

end Grammar

end Entrypoint
