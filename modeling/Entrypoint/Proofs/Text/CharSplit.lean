import Entrypoint.Text.Split

/-! Texts cut at a character. The pieces of two texts with the character between them are the pieces
of the one and of the other, and the pieces joined by the character are the text again. A beginning
is taken off a text exactly if the text has it. -/

namespace Entrypoint.Text

variable {sep : Char} {piece : List Char}

theorem splitAt_ne_nil (sep : Char) (text : List Char) : splitAt sep text ≠ [] := by
  cases text with
  | nil => exact List.cons_ne_nil _ _
  | cons c rest =>
    rw [splitAt]
    split
    · exact List.cons_ne_nil _ _
    · split <;> exact List.cons_ne_nil _ _

theorem splitAt_of_notMem (h : sep ∉ piece) : splitAt sep piece = [piece] := by
  induction piece with
  | nil => rfl
  | cons c piece ih =>
    obtain ⟨hc, h⟩ := not_or.mp fun hmem => h (List.mem_cons.mpr hmem)
    rw [splitAt, if_neg (Ne.symm hc), ih h]

theorem splitAt_append (sep : Char) (front rest : List Char) :
    splitAt sep (front ++ sep :: rest) = splitAt sep front ++ splitAt sep rest := by
  induction front with
  | nil => exact if_pos rfl
  | cons c front ih =>
    rw [List.cons_append, splitAt, splitAt, ih]
    split
    · rfl
    · obtain ⟨piece, pieces, hpieces⟩ := List.exists_cons_of_ne_nil (splitAt_ne_nil sep front)
      rw [hpieces]
      rfl

theorem notMem_of_mem_splitAt {text : List Char} (h : piece ∈ splitAt sep text) : sep ∉ piece := by
  induction text generalizing piece with
  | nil =>
    rw [List.mem_singleton.mp h]
    exact List.not_mem_nil
  | cons c rest ih =>
    obtain ⟨first, pieces, hpieces⟩ := List.exists_cons_of_ne_nil (splitAt_ne_nil sep rest)
    rw [splitAt, hpieces] at h
    rw [hpieces] at ih
    split at h
    · rcases List.mem_cons.mp h with rfl | h
      · exact List.not_mem_nil
      · exact ih h
    · rename_i hc
      rcases List.mem_cons.mp h with rfl | h
      · rw [List.mem_cons, not_or]
        exact ⟨Ne.symm hc, ih List.mem_cons_self⟩
      · exact ih (List.mem_cons_of_mem _ h)

/-- The pieces of a text joined by the separator are the text. -/
theorem intercalate_splitAt (sep : Char) (text : List Char) :
    [sep].intercalate (splitAt sep text) = text := by
  induction text with
  | nil => rfl
  | cons c rest ih =>
    obtain ⟨piece, pieces, hpieces⟩ := List.exists_cons_of_ne_nil (splitAt_ne_nil sep rest)
    rw [hpieces] at ih
    rw [splitAt, hpieces]
    split
    · rename_i hc
      rw [List.intercalate_cons_cons, ih, hc]
      rfl
    · cases pieces with
      | nil =>
        rw [List.intercalate_singleton] at ih
        rw [List.intercalate_singleton, ih]
      | cons next pieces =>
        rw [List.intercalate_cons_cons] at ih ⊢
        rw [← ih]
        rfl

theorem splitAt_eq_singleton_nil {text : List Char} :
    splitAt sep text = [[]] ↔ text = [] := by
  constructor
  · intro h
    rw [← intercalate_splitAt sep text, h, List.intercalate_singleton]
  · rintro rfl
    rfl

theorem joinWith_eq_intercalate (sep : List Char) (pieces : List (List Char)) :
    joinWith sep pieces = sep.intercalate pieces := by
  induction pieces with
  | nil => rfl
  | cons piece pieces ih =>
    cases pieces with
    | nil => rw [List.intercalate_singleton, joinWith]
    | cons next pieces =>
      rw [List.intercalate_cons_cons, ← ih, joinWith]
      exact List.cons_ne_nil _ _

theorem joinWith_splitAt (sep : Char) (text : List Char) :
    joinWith [sep] (splitAt sep text) = text := by
  rw [joinWith_eq_intercalate, intercalate_splitAt]

/-- Pieces without the separator, joined by it, come back when the text is cut. -/
theorem splitAt_joinWith {pieces : List (List Char)} (h : ∀ piece ∈ pieces, sep ∉ piece)
    (hne : pieces ≠ []) : splitAt sep (joinWith [sep] pieces) = pieces := by
  rw [joinWith_eq_intercalate]
  induction pieces with
  | nil => exact absurd rfl hne
  | cons piece pieces ih =>
    obtain ⟨hpiece, hpieces⟩ := List.forall_mem_cons.mp h
    cases pieces with
    | nil => rw [List.intercalate_singleton, splitAt_of_notMem hpiece]
    | cons next pieces =>
      rw [List.intercalate_cons_cons, List.append_assoc, List.singleton_append, splitAt_append,
        splitAt_of_notMem hpiece, ih hpieces (List.cons_ne_nil _ _), List.singleton_append]

/-! ### Beginnings -/

theorem stripPrefix?_eq_some_iff {front text rest : List Char} :
    stripPrefix? front text = some rest ↔ text = front ++ rest := by
  induction front generalizing text with
  | nil => simp [stripPrefix?]
  | cons c front ih =>
    cases text with
    | nil => simp [stripPrefix?]
    | cons d text =>
      rw [stripPrefix?, List.cons_append, List.cons_eq_cons]
      split
      · rename_i hc
        rw [ih]
        exact (and_iff_right hc.symm).symm
      · rename_i hc
        exact iff_of_false (fun h => Option.some_ne_none _ h.symm) fun h => hc h.1.symm

end Entrypoint.Text
