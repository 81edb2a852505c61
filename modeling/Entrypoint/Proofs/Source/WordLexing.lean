import Entrypoint.Source.Lexeme
import Mathlib.Tactic.SplitIfs

/-! Words come back from their text. A word is read as one token up to a character that is none of an
identifier and does not make a literal of the word, since no literal, comment or operator begins where
an identifier does, and since the quotes and hashes that would make a literal of its first letters are
not among its characters. -/

namespace Entrypoint

namespace Text

/-- Two tables of ranges have no character in common. -/
theorem inRanges_disjoint {ranges others : List (Nat × Nat)} {c : Char}
    (h : ranges.all (fun r => others.all fun o => r.2 < o.1 || o.2 < r.1) = true)
    (hc : inRanges ranges c = true) : inRanges others c = false := by
  obtain ⟨r, hr, hlow, hhigh⟩ := inRanges_iff.mp hc
  refine Bool.eq_false_iff.mpr fun hother => ?_
  obtain ⟨o, ho, hlow', hhigh'⟩ := inRanges_iff.mp hother
  have hapart := List.all_eq_true.mp (List.all_eq_true.mp h r hr) o ho
  simp only [Bool.or_eq_true, decide_eq_true_eq] at hapart
  omega

/-- An identifier begins with no character before the letters. -/
theorem le_of_isIdentStart {c : Char} (h : isIdentStart c = true) : 65 ≤ c.toNat := by
  unfold isIdentStart at h
  split at h
  · have hletter : (decide ('A'.val ≤ c.val ∧ c.val ≤ 'Z'.val) ||
        ('a'.val ≤ c.val && c.val ≤ 'z'.val) || c == '_') = true := h
    simp only [Bool.or_eq_true, Bool.and_eq_true, decide_eq_true_eq, beq_iff_eq] at hletter
    rcases hletter with (⟨h, _⟩ | ⟨h, _⟩) | rfl
    · exact h
    · exact Nat.le_trans (by decide) (UInt32.le_iff_toNat_le.mp h)
    · decide
  · omega

theorem not_isDigit_of_isIdentStart {c : Char} (h : isIdentStart c = true) : c.isDigit = false := by
  refine Bool.eq_false_iff.mpr fun hdigit => ?_
  have hlow := le_of_isIdentStart h
  simp only [Char.isDigit, Bool.and_eq_true, decide_eq_true_eq] at hdigit
  have hhigh : c.toNat ≤ 57 := UInt32.le_iff_toNat_le.mp hdigit.2
  omega

/-- An ASCII blank comes before all printing characters. -/
theorem toNat_le_of_isBlank {c : Char} (h : isBlank c = true) (hc : c.toNat < 128) :
    c.toNat ≤ 32 := by
  obtain ⟨r, hr, hrange⟩ := inRanges_iff.mp h
  simp only [blankRanges, List.mem_cons, List.not_mem_nil, or_false] at hr
  rcases hr with rfl | rfl | rfl | rfl | rfl | rfl | rfl | rfl | rfl | rfl <;> simp at hrange <;>
    omega

theorem not_isBlank_of_isIdentStart {c : Char} (h : isIdentStart c = true) : isBlank c = false := by
  by_cases hc : c.toNat < 128
  · refine Bool.eq_false_iff.mpr fun hblank => ?_
    have hlow := le_of_isIdentStart h
    have hhigh := toNat_le_of_isBlank hblank hc
    omega
  · rw [isIdentStart, if_neg hc] at h
    exact inRanges_disjoint (by decide +kernel) h

theorem ne_of_isIdentStart {c d : Char} (h : isIdentStart c = true) (hd : isIdentStart d = false) :
    c ≠ d := by
  rintro rfl
  rw [h] at hd
  cases hd

end Text

namespace Word

theorem ofText?_text (w : Word) : ofText? w.text = some w := by
  simp [ofText?, w.isText_text]

/-- The characters of a word, which may stand behind a raw mark. -/
theorem exists_chars (w : Word) :
    ∃ c word, Text.isIdentStart c = true ∧ word.all Text.isIdentContinue = true ∧
      (w.text.toList = c :: word ∨ w.text.toList = 'r' :: '#' :: c :: word) := by
  have hplain : ∀ {text}, isPlain text = true →
      ∃ c word, Text.isIdentStart c = true ∧ word.all Text.isIdentContinue = true ∧ text = c :: word := by
    intro text h
    cases text with
    | nil => cases h
    | cons c word =>
      rw [isPlain, Bool.and_eq_true] at h
      exact ⟨c, word, h.1, h.2, rfl⟩
  have h := w.isText_text
  unfold isText at h
  split at h
  · rename_i rest htext
    obtain ⟨c, word, hc, hword, rfl⟩ := hplain (Bool.and_eq_true_iff.mp h).1
    exact ⟨c, word, hc, hword, .inr htext⟩
  · obtain ⟨c, word, hc, hword, htext⟩ := hplain h
    exact ⟨c, word, hc, hword, .inl htext⟩

end Word

namespace Lexeme

open Text

variable {c d : Char} {text rest : List Char}

/-- The characters that make a literal of the letters before them. -/
def literalMarks : List Char := ['"', '#', '\'']

/-- The character ends a word. -/
def EndsWord (c : Char) : Prop := isIdentContinue c = false ∧ c ∉ literalMarks

instance : Decidable (EndsWord c) := inferInstanceAs (Decidable (_ ∧ _))

/-- After the run of identifier characters comes none of the marks of literals. -/
def RunsOut (text : List Char) : Prop :=
  ∀ d ∈ (text.dropWhile isIdentContinue).head?, d ∉ literalMarks

theorem RunsOut.head_ne (H : RunsOut text) (hd : isIdentContinue d = false) (hmark : d ∈ literalMarks) :
    text.head? ≠ some d := by
  intro h
  cases text with
  | nil => cases h
  | cons e text =>
    cases h
    exact H d (by simp [hd]) hmark

theorem RunsOut.tail (H : RunsOut (d :: text)) (hd : isIdentContinue d = true) : RunsOut text := by
  intro e he
  exact H e (by simpa [hd] using he)

theorem RunsOut.append {word : List Char} (hword : word.all isIdentContinue = true)
    (hrest : ∀ d ∈ rest.head?, EndsWord d) : RunsOut (word ++ rest) := by
  intro d hd
  rw [List.dropWhile_append_of_pos fun e he => List.all_eq_true.mp hword e he] at hd
  cases rest with
  | nil => cases hd
  | cons e rest =>
    obtain ⟨he, hmark⟩ := hrest e rfl
    simp only [List.dropWhile_cons, he] at hd
    cases hd
    exact hmark

/-! ### What does not begin where a word begins -/

theorem afterRawLiteral?_eq_none {quoting : Quoting}
    (h : (text.dropWhile (· == '#')).head? ≠ some '"') : afterRawLiteral? quoting text = none := by
  unfold afterRawLiteral?
  split
  · rename_i hq
    rw [hq] at h
    exact absurd rfl h
  · rfl

theorem RunsOut.afterRawLiteral? {quoting : Quoting} (H : RunsOut text) :
    afterRawLiteral? quoting text = none := by
  have hhash := H.head_ne (d := '#') (by decide) (by decide)
  have hquote := H.head_ne (d := '"') (by decide) (by decide)
  apply afterRawLiteral?_eq_none
  cases text with
  | nil => simp
  | cons d text =>
    have hd : d ≠ '#' := fun he => hhash (by rw [he]; rfl)
    simpa [hd] using hquote

theorem afterString?_eq_none (hc : isIdentStart c = true) (H : RunsOut text) :
    afterString? (c :: text) = none := by
  have hquote := H.head_ne (d := '"') (by decide) (by decide)
  unfold afterString?
  split
  · rename_i h
    exact absurd (List.cons.inj h).1 (ne_of_isIdentStart hc (by decide))
  · rename_i h
    rw [← (List.cons.inj h).2]
    exact H.afterRawLiteral?
  · rename_i h
    rw [(List.cons.inj h).2] at hquote
    exact absurd rfl hquote
  · rename_i h
    rw [(List.cons.inj h).2] at H
    exact (H.tail (by decide)).afterRawLiteral?
  · rename_i h
    rw [(List.cons.inj h).2] at hquote
    exact absurd rfl hquote
  · rename_i h
    rw [(List.cons.inj h).2] at H
    exact (H.tail (by decide)).afterRawLiteral?
  · rfl

theorem afterCharacterLiteral?_eq_none (hc : c ≠ '\'')
    (H : text.head? ≠ some '\'') : afterCharacterLiteral? (c :: text) = none := by
  unfold afterCharacterLiteral?
  split
  · rename_i h
    exact absurd (List.cons.inj h).1 hc
  · rename_i h
    rw [(List.cons.inj h).2] at H
    exact absurd rfl H
  · rfl

/-- No digits of a number begin here. -/
theorem afterDigits?_eq_none (h : c.isDigit = false) : afterDigits? 10 false (c :: text) = none := by
  have hten : ∀ d, Text.Quoted.hexValue? c = some d → ¬d < 10 := by
    intro d hd
    simp only [Text.Quoted.hexValue?] at hd
    split_ifs at hd with h1 h2 h3
    · rw [Char.isDigit, Bool.and_eq_false_iff] at h
      simp only [decide_eq_false_iff_not] at h
      exact absurd h (by simpa using ⟨h1.1, h1.2⟩)
    · have hlow : 97 ≤ c.toNat := h2.1
      cases hd
      omega
    · have hlow : 65 ≤ c.toNat := h3.1
      cases hd
      omega
  unfold afterDigits?
  by_cases hbar : c = '_'
  · simp [hbar]
  · cases hx : Text.Quoted.hexValue? c with
    | none => simp [hbar]
    | some d => simp [hbar, hten d hx, h]

theorem afterNumber?_eq_none (h : c.isDigit = false) :
    afterFloat? (c :: text) = none ∧ afterInteger? (c :: text) = none := by
  constructor
  · simp [afterFloat?, h]
  · unfold afterInteger?
    split
    iterate 3
      rename_i heq
      rw [(List.cons.inj heq).1] at h
      cases h
    exact afterDigits?_eq_none h

theorem afterLiteral?_eq_none (hs : afterString? (c :: text) = none) (hc : c ≠ '\'')
    (hq : text.head? ≠ some '\'') (hd : c.isDigit = false) : afterLiteral? (c :: text) = none := by
  have hnumber : afterFloat? (c :: text) = none ∧ afterInteger? (c :: text) = none :=
    afterNumber?_eq_none hd
  simp [afterLiteral?, hs, afterCharacterLiteral?_eq_none hc hq, hnumber]

theorem startsPunct_eq_false (hc : isIdentStart c = true) : startsPunct (c :: text) = false := by
  unfold startsPunct
  split
  · rfl
  · rfl
  · rename_i h
    cases h
    refine Bool.eq_false_iff.mpr fun hmem => ?_
    have hall : punctuation.all (fun d => !isIdentStart d) = true := by decide
    have hnot := List.all_eq_true.mp hall c (List.contains_iff_mem.mp hmem)
    simp [hc] at hnot
  · rfl

/-- The letters that begin a literal run into a quote or a hash. -/
theorem RunsOut.literalStarts (H : RunsOut text) :
    literalStarts.any (fun s => s.toList.isPrefixOf (c :: text)) = false := by
  refine List.any_eq_false.mpr fun s hs hstart => ?_
  obtain ⟨after, hafter⟩ := List.isPrefixOf_iff_prefix.mp hstart
  have hmarks : Lexeme.literalStarts.all (fun s =>
      s.toList != [] && (s.toList.tail.dropWhile isIdentContinue).head?.any (literalMarks.contains ·)) =
        true := by
    decide
  have hmark := List.all_eq_true.mp hmarks s hs
  cases hlist : s.toList with
  | nil => simp [hlist] at hmark
  | cons first letters =>
    rw [hlist] at hafter hmark
    obtain ⟨-, rfl⟩ := List.cons.inj hafter
    cases hdrop : letters.dropWhile isIdentContinue with
    | nil => simp [hdrop] at hmark
    | cons q letters' =>
      have hq : ((letters.append after).dropWhile isIdentContinue).head? = some q := by
        rw [List.append_eq, List.dropWhile_append, hdrop]
        rfl
      simp [hdrop, H q hq] at hmark

/-! ### Words -/

variable {word : List Char}

theorem plainWord?_append (hc : isIdentStart c = true) (hword : word.all isIdentContinue = true)
    (hrest : ∀ d ∈ rest.head?, EndsWord d) :
    plainWord? (c :: (word ++ rest)) = some (c :: word, rest) := by
  have hpos : ∀ e ∈ word, isIdentContinue e = true := List.all_eq_true.mp hword
  have hstop : rest.takeWhile isIdentContinue = [] ∧ rest.dropWhile isIdentContinue = rest := by
    cases rest with
    | nil => exact ⟨rfl, rfl⟩
    | cons e rest => simp [(hrest e rfl).1]
  simp [plainWord?, hc, List.takeWhile_append_of_pos hpos, List.dropWhile_append_of_pos hpos,
    hstop]

/-- A word is read whole, up to what ends it. -/
theorem leaf?_word (w : Word) (hrest : ∀ d ∈ rest.head?, EndsWord d) :
    leaf? (w.text.toList ++ rest) = some (.word w, rest) := by
  obtain ⟨c, word, hc, hword, htext | htext⟩ := w.exists_chars
  · have H : RunsOut (word ++ rest) := .append hword hrest
    have hliteral : afterLiteral? (c :: (word ++ rest)) = none :=
      afterLiteral?_eq_none (afterString?_eq_none hc H) (ne_of_isIdentStart hc (by decide))
        (H.head_ne (by decide) (by decide)) (not_isDigit_of_isIdentStart hc)
    have hhash := H.head_ne (d := '#') (by decide) (by decide)
    have hquote := H.head_ne (d := '"') (by decide) (by decide)
    have hmark := H.head_ne (d := '\'') (by decide) (by decide)
    have hstarts := H.literalStarts (c := c)
    have hany : anyWord? (c :: (word ++ rest)) = some (w, rest) := by
      unfold anyWord?
      split
      · rename_i h
        rw [(List.cons.inj h).2] at hhash
        exact absurd rfl hhash
      · rw [plainWord?_append hc hword hrest, Option.bind_some, ← htext, String.ofList_toList,
          w.ofText?_text]
        rfl
    rw [htext, List.cons_append, leaf?, hliteral]
    simp only [punct?, startsPunct_eq_false hc, Bool.not_false, if_true]
    simp [word?, hstarts, hany]
  · have hq : c ≠ '"' := ne_of_isIdentStart hc (by decide)
    have hh : c ≠ '#' := ne_of_isIdentStart hc (by decide)
    have hstring : afterString? ('r' :: '#' :: c :: (word ++ rest)) = none :=
      afterRawLiteral?_eq_none (by simp [hq, hh])
    have hliteral : afterLiteral? ('r' :: '#' :: c :: (word ++ rest)) = none :=
      afterLiteral?_eq_none hstring (by decide) (by simp) (by decide)
    have hstarts : Lexeme.literalStarts.any
        (fun s => s.toList.isPrefixOf ('r' :: '#' :: c :: (word ++ rest))) = false := by
      simp [Lexeme.literalStarts, List.isPrefixOf, Ne.symm hq, Ne.symm hh]
    have hany : anyWord? ('r' :: '#' :: c :: (word ++ rest)) = some (w, rest) := by
      rw [anyWord?, plainWord?_append hc hword hrest, Option.bind_some, ← htext,
        String.ofList_toList, w.ofText?_text]
      rfl
    rw [htext, List.cons_append, List.cons_append, List.cons_append, leaf?, hliteral]
    simp only [punct?, startsPunct_eq_false (show isIdentStart 'r' = true by decide),
      Bool.not_false, if_true]
    simp [word?, hstarts, hany]

/-! ### Lexemes -/

/-- Where neither a blank nor a comment nor a bracket stands, one token is read. -/
theorem ofChars?_leaf (fuel : Nat) (hblank : isBlank c = false) (hslash : c ≠ '/')
    (hbracket : bracket? c = none) :
    ofChars? (fuel + 1) (c :: text) =
      (leaf? (c :: text)).bind fun r => (ofChars? fuel r.2).map (.leaf r.1 :: ·) := by
  have hcomment : afterComment? (c :: text) = none := by
    unfold afterComment?
    split <;> simp_all
  have hskip : skipAll (c :: text) = c :: text := by
    simp [skipAll, skip, hcomment, hblank]
  have hdoc : documentation? (c :: text) = none := by
    unfold documentation?
    split <;> simp_all
  have hparen : errorLiteral.isPrefixOf (c :: text) = false := by
    have hc : '(' ≠ c := by
      rintro rfl
      cases hbracket
    have hliteral : errorLiteral = '(' :: errorLiteral.tail := rfl
    rw [hliteral, List.isPrefixOf_cons_cons, beq_eq_false_iff_ne.mpr hc, Bool.false_and]
  simp [ofChars?, hskip, hdoc, hparen, hbracket]

theorem ofChars?_word (fuel : Nat) (w : Word) (hrest : ∀ d ∈ rest.head?, EndsWord d) :
    ofChars? (fuel + 1) (w.text.toList ++ rest) =
      (ofChars? fuel rest).map (.leaf (.word w) :: ·) := by
  obtain ⟨c, text, hc, htext⟩ : ∃ c text, isIdentStart c = true ∧ w.text.toList = c :: text := by
    obtain ⟨c, word, hc, _, htext | htext⟩ := w.exists_chars
    · exact ⟨c, word, hc, htext⟩
    · exact ⟨'r', _, by decide, htext⟩
  have hne := fun d hd => ne_of_isIdentStart (d := d) hc hd
  have hblank : isBlank c = false := by
    simp [isBlank, not_isBlank_of_isIdentStart hc, hne '\u200e' (by decide +kernel),
      hne '\u200f' (by decide +kernel)]
  have hbracket : bracket? c = none := by
    unfold bracket?
    split <;> first | rfl | exact absurd rfl (hne _ (by decide))
  have hleaf := leaf?_word w hrest
  rw [htext, List.cons_append] at hleaf ⊢
  rw [ofChars?_leaf fuel hblank (hne '/' (by decide)) hbracket, hleaf, Option.bind_some]

theorem ofChars?_colon (fuel : Nat) :
    ofChars? (fuel + 1) (':' :: rest) =
      (ofChars? fuel rest).map (.leaf (.punct ':' (startsPunct rest)) :: ·) := by
  have hstring : afterString? (':' :: rest) = none := by
    unfold afterString?
    split <;> simp_all
  have hcharacter : afterCharacterLiteral? (':' :: rest) = none := by
    unfold afterCharacterLiteral?
    split <;> simp_all
  have hnumber : afterFloat? (':' :: rest) = none ∧ afterInteger? (':' :: rest) = none :=
    afterNumber?_eq_none (by decide)
  have hliteral : afterLiteral? (':' :: rest) = none := by
    simp [afterLiteral?, hstring, hcharacter, hnumber]
  have hpunct : startsPunct (':' :: rest) = true := by
    show punctuation.contains ':' = true
    decide
  rw [ofChars?_leaf fuel (by decide) (by decide) rfl, leaf?, hliteral]
  simp [punct?, hpunct]

theorem assemble_leaves (trees leaves : List TokenTree) :
    assemble [] trees (leaves.map .leaf) = some (trees.reverse ++ leaves) := by
  induction leaves generalizing trees with
  | nil => simp [assemble]
  | cons leaf leaves ih => simp [assemble, ih]

end Lexeme

end Entrypoint
