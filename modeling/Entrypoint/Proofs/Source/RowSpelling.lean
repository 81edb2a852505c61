import Entrypoint.Proofs.Source.LiteralLexing
import Entrypoint.Proofs.Source.NameReading

/-! How rows of token trees are spelled: the characters of a row, tree by tree, and what makes a row
legible. -/

namespace Entrypoint

namespace TokenTree

variable {tree : TokenTree} {row row' : List TokenTree} {chars : List Char} {text : String}

/-- The blank before a row that follows a tree, if there is something in the row. -/
def gap (row : List TokenTree) : List Char := if row.isEmpty then [] else [' ']

@[simp] theorem gap_nil : gap [] = [] := rfl

@[simp] theorem gap_cons : gap (tree :: row) = [' '] := rfl

@[simp] theorem toList_textAll_nil : (textAll []).toList = [] := rfl

theorem toList_textAll_cons (h : tree.isJoint = false) :
    (textAll (tree :: row)).toList = tree.text.toList ++ (gap row ++ (textAll row).toList) := by
  rw [textAll, h, Bool.false_or, String.toList_append, String.toList_append, List.append_assoc, gap]
  split <;> simp

@[simp] theorem toList_textAll_named {h : text = String.ofList chars}
    {hword : Word.isText chars = true} :
    (textAll (.named text h hword :: row)).toList = chars ++ (gap row ++ (textAll row).toList) := by
  subst h
  rw [toList_textAll_cons rfl, named, TokenTree.text, String.toList_ofList]

@[simp] theorem toList_textAll_word {w : Word} :
    (textAll (.word w :: row)).toList = w.text.toList ++ (gap row ++ (textAll row).toList) := by
  rw [toList_textAll_cons rfl, TokenTree.text]

@[simp] theorem toList_textAll_literal :
    (textAll (.literal text :: row)).toList = text.toList ++ (gap row ++ (textAll row).toList) := by
  rw [toList_textAll_cons rfl, TokenTree.text]

@[simp] theorem toList_textAll_punct {c : Char} :
    (textAll (.punct c false :: row)).toList = c :: (gap row ++ (textAll row).toList) := by
  rw [toList_textAll_cons rfl]
  simp [TokenTree.text]

@[simp] theorem toList_textAll_joint {c : Char} :
    (textAll (.punct c true :: row)).toList = c :: (textAll row).toList := by
  simp [textAll, isJoint, TokenTree.text]

@[simp] theorem toList_textAll_paren {body : List TokenTree} :
    (textAll (.group .paren body :: row)).toList =
      '(' :: ((textAll body).toList ++ ')' :: (gap row ++ (textAll row).toList)) := by
  rw [toList_textAll_cons rfl]
  simp [TokenTree.text, enclose]

@[simp] theorem toList_textAll_bracket {body : List TokenTree} :
    (textAll (.group .bracket body :: row)).toList =
      '[' :: ((textAll body).toList ++ ']' :: (gap row ++ (textAll row).toList)) := by
  rw [toList_textAll_cons rfl]
  simp [TokenTree.text, enclose]

@[simp] theorem toList_textAll_brace {body : List TokenTree} :
    (textAll (.group .brace body :: row)).toList =
      '\x7b' :: ' ' :: ((textAll body).toList ++
        (gap body ++ '\x7d' :: (gap row ++ (textAll row).toList))) := by
  rw [toList_textAll_cons rfl]
  cases body <;> simp [TokenTree.text, enclose]

end TokenTree

/-! ### Legible rows -/

namespace Legible

open Lexeme (IsLiteral operatorMarks)
open TokenTree (textAll gap)

variable {row row' : List TokenTree} {c d : Char} {joint : Bool}

attribute [simp] Legible.nil

@[simp] theorem word_iff {w : Word} : Legible (.word w :: row) ↔ Legible row :=
  ⟨fun | .word H => H, .word⟩

@[simp] theorem named_iff {chars : List Char} {text : String} {h : text = String.ofList chars}
    {hword : Word.isText chars = true} : Legible (.named text h hword :: row) ↔ Legible row :=
  word_iff

@[simp] theorem literal_iff {text : String} :
    Legible (.literal text :: row) ↔ IsLiteral text ∧ Legible row :=
  ⟨fun | .literal h H => ⟨h, H⟩, fun h => .literal h.1 h.2⟩

@[simp] theorem punct_iff : Legible (.punct c false :: row) ↔ c ∈ operatorMarks ∧ Legible row :=
  ⟨fun | .punct h H => ⟨h, H⟩, fun h => .punct h.1 h.2⟩

@[simp] theorem joint_iff : Legible (.punct c true :: .punct d joint :: row) ↔
    c ∈ operatorMarks ∧ d ∈ operatorMarks ∧ Legible (.punct d joint :: row) :=
  ⟨fun | .joint h h' H => ⟨h, h', H⟩, fun h => .joint h.1 h.2.1 h.2.2⟩

@[simp] theorem group_iff {delimiter : Delimiter} {body : List TokenTree} :
    Legible (.group delimiter body :: row) ↔ Legible body ∧ Legible row :=
  ⟨fun | .group H H' => ⟨H, H'⟩, fun h => .group h.1 h.2⟩

theorem append (H : Legible row) (H' : Legible row') : Legible (row ++ row') := by
  induction H with
  | nil => exact H'
  | word _ ih => exact .word ih
  | literal h _ ih => exact .literal h ih
  | punct h _ ih => exact .punct h ih
  | joint h h' _ ih => exact .joint h h' ih
  | group H _ _ ih => exact .group H ih

/-- Legible rows are spelled one after the other, since the last tree of one is not joint. -/
theorem toList_textAll_append (H : Legible row) (hne : row ≠ []) :
    (textAll (row ++ row')).toList = (textAll row).toList ++ (gap row' ++ (textAll row').toList) := by
  induction H with
  | nil => exact absurd rfl hne
  | @word w row H ih => cases row <;> simp_all
  | @literal text row h H ih => cases row <;> simp_all
  | @punct c row h H ih => cases row <;> simp_all
  | @joint c d joint row h h' H ih => simpa using ih (List.cons_ne_nil _ _)
  | @group delimiter body row H H' ih ih' => cases delimiter <;> cases row <;> simp_all

end Legible

end Entrypoint
