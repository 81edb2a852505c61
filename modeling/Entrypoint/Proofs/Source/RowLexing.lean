import Entrypoint.Proofs.Source.WordLexing

/-! Rows of token trees come back from their text. A row is legible if each of its literals is read
whole and each of its operator characters runs together with the token after it exactly if it is
joint. The text of a legible row is cut into the lexemes of the row, and brackets are matched again.
-/

namespace Entrypoint

namespace TokenTree

mutual

/-- The lexemes of a tree. -/
def lexemes : TokenTree → List Lexeme
  | word w => [.leaf (.word w)]
  | punct c joint => [.leaf (.punct c joint)]
  | literal text => [.leaf (.literal text)]
  | group d body => .opening d :: (lexemesAll body ++ [.closing d])

/-- The lexemes of trees in a row. -/
def lexemesAll : List TokenTree → List Lexeme
  | [] => []
  | tree :: rest => tree.lexemes ++ lexemesAll rest

end

end TokenTree

open TokenTree (textAll lexemesAll)

namespace Lexeme

mutual

theorem assemble_lexemes (tree : TokenTree) (stack : List (Delimiter × List TokenTree))
    (trees : List TokenTree) (rest : List Lexeme) :
    assemble stack trees (tree.lexemes ++ rest) = assemble stack (tree :: trees) rest := by
  cases tree with
  | word w | punct c joint | literal text => cases stack <;> rfl
  | group d body =>
    have hbody := assemble_lexemesAll body ((d, trees) :: stack) [] (.closing d :: rest)
    rw [List.append_nil] at hbody
    rw [TokenTree.lexemes, List.cons_append, List.append_assoc, List.singleton_append]
    cases stack <;> simp [assemble, hbody]

/-- Matching the brackets of a row's lexemes gives the trees of the row. -/
theorem assemble_lexemesAll (row : List TokenTree) (stack : List (Delimiter × List TokenTree))
    (trees : List TokenTree) (rest : List Lexeme) :
    assemble stack trees (lexemesAll row ++ rest) = assemble stack (row.reverse ++ trees) rest := by
  cases row with
  | nil => rfl
  | cons tree row =>
    rw [lexemesAll, List.append_assoc, assemble_lexemes tree, assemble_lexemesAll row,
      List.reverse_cons, List.append_assoc, List.singleton_append]

end

/-! ### What may stand in a row -/

/-- The operator characters that begin no comment and no lifetime. -/
def operatorMarks : List Char := "~!@#$%^&*-=+|;:,<.>?".toList

/-- The characters after a token that runs together with nothing. -/
def tokenEnds : List Char := [' ', ')', ']', '\n']

/-- Nothing runs together with a token before the text. -/
def EndsToken (rest : List Char) : Prop := ∀ c ∈ rest.head?, c ∈ tokenEnds

/-- A literal is read whole wherever its text stands. -/
structure IsLiteral (text : String) : Prop where
  head : ∃ c rest, text.toList = c :: rest ∧ Lexeme.isBlank c = false ∧ c ≠ '/' ∧ bracket? c = none
  after : ∀ rest, EndsToken rest → afterLiteral? (text.toList ++ rest) = some rest

end Lexeme

open Lexeme (IsLiteral EndsToken operatorMarks tokenEnds)

/-- A row that comes back from its text. -/
inductive Legible : List TokenTree → Prop
  | nil : Legible []
  | word {w : Word} {row : List TokenTree} : Legible row → Legible (.word w :: row)
  | literal {text : String} {row : List TokenTree} : IsLiteral text → Legible row →
    Legible (.literal text :: row)
  | punct {c : Char} {row : List TokenTree} : c ∈ operatorMarks → Legible row →
    Legible (.punct c false :: row)
  | joint {c d : Char} {joint : Bool} {row : List TokenTree} : c ∈ operatorMarks →
    d ∈ operatorMarks → Legible (.punct d joint :: row) →
    Legible (.punct c true :: .punct d joint :: row)
  | group {d : Delimiter} {body row : List TokenTree} : Legible body → Legible row →
    Legible (.group d body :: row)

namespace Lexeme

open Text

variable {c d : Char} {text rest : List Char} {row : List TokenTree}

theorem EndsToken.endsWord (h : EndsToken rest) : ∀ d ∈ rest.head?, EndsWord d := by
  intro d hd
  have hends : tokenEnds.all (fun d => decide (EndsWord d)) = true := by decide
  exact of_decide_eq_true (List.all_eq_true.mp hends d (h d hd))

theorem EndsToken.startsPunct (h : EndsToken rest) : startsPunct rest = false := by
  cases rest with
  | nil => rfl
  | cons d rest =>
    have hd := h d rfl
    simp only [tokenEnds, List.mem_cons, List.not_mem_nil, or_false] at hd
    rcases hd with rfl | rfl | rfl | rfl <;> rfl

theorem operatorMarks_all : operatorMarks.all (fun c => decide (Lexeme.isBlank c = false ∧ c ≠ '/' ∧
    c ≠ '\'' ∧ c.isDigit = false ∧ punctuation.contains c = true ∧ c ∉ ['"', 'r', 'b', 'c']) &&
      (bracket? c).isNone) = true := by decide

theorem ne_slash_of_mem (hc : c ∈ operatorMarks) : c ≠ '/' := by
  have hall := List.all_eq_true.mp operatorMarks_all c hc
  simp only [Bool.and_eq_true, decide_eq_true_eq] at hall
  exact hall.1.2.1

theorem startsPunct_mark (hc : c ∈ operatorMarks) (rest : List Char) :
    Lexeme.startsPunct (c :: rest) = true := by
  have hall := List.all_eq_true.mp operatorMarks_all c hc
  simp only [Bool.and_eq_true, decide_eq_true_eq] at hall
  obtain ⟨⟨_, hslash, _, _, hpunct, _⟩, _⟩ := hall
  unfold Lexeme.startsPunct
  split
  · rename_i heq
    exact absurd (List.cons.inj heq).1 hslash
  · rename_i heq
    exact absurd (List.cons.inj heq).1 hslash
  · rename_i heq
    rwa [← (List.cons.inj heq).1]
  · rename_i heq
    cases heq

/-! ### One lexeme -/

/-- Reading a text up to a rest of it gives lexemes. -/
def Cuts (text : List Char) (lexemes : List Lexeme) (rest : List Char) : Prop :=
  ∀ fuel, text.length < fuel →
    ∃ fuel', rest.length < fuel' ∧ ofChars? fuel text = (ofChars? fuel' rest).map (lexemes ++ ·)

namespace Cuts

variable {lexemes lexemes' : List Lexeme} {lexeme : Lexeme} {rest' : List Char}

theorem refl (text : List Char) : Cuts text [] text := fun fuel hfuel =>
  ⟨fuel, hfuel, by simp⟩

theorem trans (H : Cuts text lexemes rest) (H' : Cuts rest lexemes' rest') :
    Cuts text (lexemes ++ lexemes') rest' := by
  intro fuel hfuel
  obtain ⟨fuel', hfuel', heq⟩ := H fuel hfuel
  obtain ⟨fuel'', hfuel'', heq'⟩ := H' fuel' hfuel'
  refine ⟨fuel'', hfuel'', ?_⟩
  rw [heq, heq', Option.map_map]
  simp only [Function.comp_def, List.append_assoc]

/-- Characters that stand for no lexeme. -/
theorem of_eq (h : ∀ fuel, ofChars? fuel text = ofChars? fuel rest)
    (hlength : rest.length ≤ text.length) : Cuts text [] rest := fun fuel hfuel =>
  ⟨fuel, Nat.lt_of_le_of_lt hlength hfuel, by simp [h fuel]⟩

/-- One lexeme. -/
theorem single (h : ∀ fuel, ofChars? (fuel + 1) text = (ofChars? fuel rest).map (lexeme :: ·))
    (hlength : rest.length < text.length) : Cuts text [lexeme] rest := by
  intro fuel hfuel
  obtain ⟨fuel, rfl⟩ : ∃ k, fuel = k + 1 := ⟨fuel - 1, by omega⟩
  exact ⟨fuel, by omega, h fuel⟩

theorem blank (text : List Char) : Cuts (' ' :: text) [] text :=
  of_eq (fun fuel => by cases fuel <;> rfl) (Nat.le_succ _)

theorem word (w : Word) (hrest : ∀ d ∈ rest.head?, EndsWord d) :
    Cuts (w.text.toList ++ rest) [.leaf (.word w)] rest := by
  refine single (fun fuel => ofChars?_word fuel w hrest) ?_
  have hpos : 0 < w.text.toList.length := by
    obtain ⟨c, word, -, -, htext | htext⟩ := w.exists_chars <;> rw [htext] <;> exact Nat.succ_pos _
  rw [List.length_append]
  omega

theorem literal {literal : String} (h : IsLiteral literal) (hrest : EndsToken rest) :
    Cuts (literal.toList ++ rest) [.leaf (.literal literal)] rest := by
  have hafter := h.after rest hrest
  obtain ⟨c, inside, htext, hblank, hslash, hbracket⟩ := h.head
  have htake : (literal.toList ++ rest).take ((literal.toList ++ rest).length - rest.length) =
      literal.toList := by
    rw [List.length_append, Nat.add_sub_cancel, List.take_left]
  have hleaf : leaf? (literal.toList ++ rest) = some (.literal literal, rest) := by
    rw [leaf?, hafter]
    simp only [htake, String.ofList_toList]
  rw [htext, List.cons_append] at hleaf ⊢
  have hlength : rest.length < (c :: (inside ++ rest)).length := by
    rw [List.length_cons, List.length_append]
    omega
  refine single (fun fuel => ?_) hlength
  rw [ofChars?_leaf fuel hblank hslash hbracket, hleaf, Option.bind_some]

theorem punct (hc : c ∈ operatorMarks) (rest : List Char) :
    Cuts (c :: rest) [.leaf (.punct c (startsPunct rest))] rest := by
  have hall := List.all_eq_true.mp operatorMarks_all c hc
  simp only [Bool.and_eq_true, decide_eq_true_eq, List.mem_cons, List.not_mem_nil, or_false, not_or,
    Option.isNone_iff_eq_none] at hall
  obtain ⟨⟨hblank, hslash, hquote, hdigit, _, htext, hr, hb, hc'⟩, hbracket⟩ := hall
  have hstring : afterString? (c :: rest) = none := by
    unfold afterString?
    split <;> simp_all
  have hcharacter : afterCharacterLiteral? (c :: rest) = none := by
    unfold afterCharacterLiteral?
    split <;> simp_all
  have hnumber : afterFloat? (c :: rest) = none ∧ afterInteger? (c :: rest) = none :=
    afterNumber?_eq_none hdigit
  have hliteral : afterLiteral? (c :: rest) = none := by
    simp [afterLiteral?, hstring, hcharacter, hnumber]
  refine single (fun fuel => ?_) (by simp)
  rw [ofChars?_leaf fuel hblank hslash hbracket, leaf?, hliteral]
  simp [punct?, startsPunct_mark hc, hquote]

theorem bracket (hc : bracket? c = some lexeme) (hrest : rest.head? ≠ some '/') :
    Cuts (c :: rest) [lexeme] rest := by
  have herror : errorLiteral.isPrefixOf (c :: rest) = false := by
    have hliteral : errorLiteral = '(' :: '/' :: errorLiteral.tail.tail := rfl
    cases rest with
    | nil => rw [hliteral]; simp [List.isPrefixOf]
    | cons d rest =>
      have hd : ('/' == d) = false := beq_false_of_ne fun heq => hrest (heq ▸ rfl)
      rw [hliteral]
      simp [List.isPrefixOf, hd]
  refine single (fun fuel => ?_) (by simp)
  have hshape : (Lexeme.isBlank c = false ∧ c ≠ '/') := by
    unfold bracket? at hc
    split at hc <;> first | exact ⟨by decide, by decide⟩ | cases hc
  obtain ⟨hblank, hslash⟩ := hshape
  have hcomment : afterComment? (c :: rest) = none := by
    unfold afterComment?
    split <;> simp_all
  have hskip : skipAll (c :: rest) = c :: rest := by
    simp [skipAll, skip, hcomment, hblank]
  have hdoc : documentation? (c :: rest) = none := by
    unfold documentation?
    split <;> simp_all
  simp [ofChars?, hskip, hdoc, herror, hc]

end Cuts

/-! ### Rows -/

theorem EndsToken.head_ne (h : EndsToken rest) : rest.head? ≠ some '/' :=
  fun heq => absurd (h '/' heq) (by decide)

theorem endsToken_cons (h : c ∈ tokenEnds) (rest : List Char) : EndsToken (c :: rest) := by
  rintro d ⟨⟩
  exact h

end Lexeme

namespace Legible

open Lexeme

variable {tree : TokenTree} {row : List TokenTree} {rest : List Char}

/-- A tree that does not run together with what follows, and the trees behind it. -/
theorem cuts_cons (hjoint : tree.isJoint = false)
    (htree : ∀ rest, EndsToken rest → Cuts (tree.text.toList ++ rest) tree.lexemes rest)
    (hrow : ∀ rest, EndsToken rest → Cuts ((textAll row).toList ++ rest) (lexemesAll row) rest)
    (hrest : EndsToken rest) :
    Cuts ((textAll (tree :: row)).toList ++ rest) (lexemesAll (tree :: row)) rest := by
  rw [textAll, lexemesAll, hjoint, Bool.false_or]
  cases row with
  | nil => simpa [textAll, lexemesAll] using htree rest hrest
  | cons next row =>
    have hblank : EndsToken (' ' :: ((textAll (next :: row)).toList ++ rest)) :=
      endsToken_cons (by decide) _
    have hcuts := (htree _ hblank).trans ((Cuts.blank _).trans (hrow rest hrest))
    simpa using hcuts

/-- The text of a legible row begins no comment. -/
theorem head_ne (H : Legible row) (hrest : rest.head? ≠ some '/') :
    ((textAll row).toList ++ rest).head? ≠ some '/' := by
  cases H with
  | nil => simpa [textAll] using hrest
  | @word w row H =>
    obtain ⟨c, text, hc, -, htext | htext⟩ := w.exists_chars
    · simp [textAll, TokenTree.text, htext, Text.ne_of_isIdentStart hc (d := '/') (by decide)]
    · simp [textAll, TokenTree.text, htext]
  | literal h H =>
    obtain ⟨c, text, htext, -, hc, -⟩ := h.head
    simp [textAll, TokenTree.text, htext, hc]
  | punct h H | joint h h' H => simp [textAll, TokenTree.text, ne_slash_of_mem h]
  | @group d body row H H' =>
    cases d with
    | paren | bracket => simp [textAll, TokenTree.text, TokenTree.enclose]
    | brace => cases body <;> simp [textAll, TokenTree.text, TokenTree.enclose]

/-- The text of a legible row is cut into the lexemes of the row. -/
theorem cuts (H : Legible row) (hrest : EndsToken rest) :
    Cuts ((textAll row).toList ++ rest) (lexemesAll row) rest := by
  induction H generalizing rest with
  | nil => exact .refl rest
  | word H ih => exact cuts_cons rfl (fun _ h => .word _ h.endsWord) (fun _ => ih) hrest
  | literal h H ih => exact cuts_cons rfl (fun _ => .literal h) (fun _ => ih) hrest
  | punct h H ih =>
    refine cuts_cons rfl (fun rest hrest => ?_) (fun _ => ih) hrest
    have hcuts := Cuts.punct h rest
    rw [hrest.startsPunct] at hcuts
    simpa [TokenTree.text, TokenTree.lexemes] using hcuts
  | @joint c d joint row h h' H ih =>
    have hcuts := Cuts.punct h ((textAll (.punct d joint :: row)).toList ++ rest)
    have hstarts : startsPunct ((textAll (.punct d joint :: row)).toList ++ rest) = true := by
      rw [textAll, TokenTree.text]
      simp [startsPunct_mark h']
    rw [hstarts] at hcuts
    have htext : (textAll (.punct c true :: .punct d joint :: row)).toList =
        c :: (textAll (.punct d joint :: row)).toList := by
      rw [textAll, TokenTree.isJoint, TokenTree.text]
      simp
    rw [htext, lexemesAll]
    exact hcuts.trans (ih hrest)
  | @group d body row H H' ih ih' =>
    refine cuts_cons rfl (fun rest hrest => ?_) (fun _ => ih') hrest
    have hclosing : ∀ {close}, bracket? close = some (.closing d) →
        Cuts (close :: rest) [.closing d] rest := fun h => .bracket h hrest.head_ne
    cases d with
    | paren =>
      have hbody := ih (endsToken_cons (show ')' ∈ tokenEnds by decide) rest)
      have hclose : (')' :: rest).head? ≠ some '/' := by simp
      have hopening := Cuts.bracket (c := '(') rfl (H.head_ne hclose)
      simpa [TokenTree.text, TokenTree.enclose, TokenTree.lexemes] using
        hopening.trans (hbody.trans (hclosing rfl))
    | bracket =>
      have hbody := ih (endsToken_cons (show ']' ∈ tokenEnds by decide) rest)
      have hclose : (']' :: rest).head? ≠ some '/' := by simp
      have hopening := Cuts.bracket (c := '[') rfl (H.head_ne hclose)
      simpa [TokenTree.text, TokenTree.enclose, TokenTree.lexemes] using
        hopening.trans (hbody.trans (hclosing rfl))
    | brace =>
      have hblank := (Cuts.blank ('\x7d' :: rest)).trans (hclosing rfl)
      have hopening : ∀ more, Cuts ('\x7b' :: ' ' :: more) [.opening .brace] more := fun more =>
        (Cuts.bracket rfl (by simp)).trans (.blank more)
      cases body with
      | nil =>
        simpa [TokenTree.text, TokenTree.enclose, TokenTree.lexemes, lexemesAll] using
          (hopening ('\x7d' :: rest)).trans (hclosing rfl)
      | cons tree body =>
        have hbody := ih (endsToken_cons (show ' ' ∈ tokenEnds by decide) ('\x7d' :: rest))
        simpa [TokenTree.text, TokenTree.enclose, TokenTree.lexemes] using
          (hopening _).trans (hbody.trans hblank)

end Legible

/-- A legible row is read from its text, perhaps with something before it that is skipped, and the
end of a line after it. -/
theorem TokenTree.ofChars?_of_legible {row : List TokenTree} {text : List Char} (H : Legible row)
    (hmark : Text.dropMark text = text)
    (hskip : Lexeme.Cuts text [] ((textAll row).toList ++ ['\n'])) :
    TokenTree.ofChars? text = some row := by
  have hends : EndsToken ['\n'] := Lexeme.endsToken_cons (by decide) []
  obtain ⟨fuel, hfuel, heq⟩ := hskip.trans (H.cuts hends) (text.length + 1) (Nat.lt_succ_self _)
  have hend : Lexeme.ofChars? fuel ['\n'] = some [] := by
    cases fuel with
    | zero => exact absurd hfuel (Nat.not_lt_zero _)
    | succ fuel => rfl
  have hrow := Lexeme.assemble_lexemesAll row [] [] []
  rw [List.append_nil, List.append_nil] at hrow
  rw [TokenTree.ofChars?, hmark, heq, hend, Option.map_some, Option.bind_some, List.nil_append,
    List.append_nil, hrow, Lexeme.assemble, List.reverse_reverse]

end Entrypoint
