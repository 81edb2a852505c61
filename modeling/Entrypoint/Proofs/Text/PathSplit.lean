import Entrypoint.Text.Split

/-! Paths cut at their double colons. Pieces without a colon, joined by double colons, come back when
the path is cut, and the last cut falls before the last piece. -/

namespace Entrypoint.Text

variable {piece rest : List Char} {pieces : List (List Char)}

theorem splitPath_cons {c : Char} (h : c ≠ ':') :
    splitPath (c :: rest) =
      match splitPath rest with
      | [] => [[c]]
      | piece :: pieces => (c :: piece) :: pieces := by
  have hcolons : ∀ after, c = ':' → rest = ':' :: after → False := fun _ hc _ => h hc
  exact splitPath.eq_3 c rest hcolons

theorem splitPath_of_notMem (h : ':' ∉ piece) : splitPath piece = [piece] := by
  induction piece with
  | nil => rfl
  | cons c piece ih =>
    obtain ⟨hc, h⟩ := not_or.mp fun hmem => h (List.mem_cons.mpr hmem)
    rw [splitPath_cons (Ne.symm hc), ih h]

theorem splitPath_append (h : ':' ∉ piece) :
    splitPath (piece ++ ':' :: ':' :: rest) = piece :: splitPath rest := by
  induction piece with
  | nil => rfl
  | cons c piece ih =>
    obtain ⟨hc, h⟩ := not_or.mp fun hmem => h (List.mem_cons.mpr hmem)
    rw [List.cons_append, splitPath_cons (Ne.symm hc), ih h]

theorem splitPath_intercalate (h : ∀ piece ∈ pieces, ':' ∉ piece) (hne : pieces ≠ []) :
    splitPath ([':', ':'].intercalate pieces) = pieces := by
  induction pieces with
  | nil => exact absurd rfl hne
  | cons piece pieces ih =>
    obtain ⟨hpiece, hpieces⟩ := List.forall_mem_cons.mp h
    cases pieces with
    | nil => rw [List.intercalate_singleton, splitPath_of_notMem hpiece]
    | cons next pieces =>
      have happend : [':', ':'].intercalate (piece :: next :: pieces) =
          piece ++ ':' :: ':' :: [':', ':'].intercalate (next :: pieces) := by
        rw [List.intercalate_cons_cons, List.append_assoc, List.cons_append, List.singleton_append]
      rw [happend, splitPath_append hpiece, ih hpieces (List.cons_ne_nil _ _)]

theorem cutLast_of_notMem (h : ':' ∉ piece) : cutLast piece = none := by
  induction piece with
  | nil => rfl
  | cons c piece ih =>
    obtain ⟨hc, h⟩ := not_or.mp fun hmem => h (List.mem_cons.mpr hmem)
    simp only [cutLast, ih h]
    split
    · simp at hc
    · rfl

theorem cutLast_append (front : List Char) (h : ':' ∉ piece) :
    cutLast (front ++ ':' :: ':' :: piece) = some (front, piece) := by
  induction front with
  | nil =>
    have hcolon : cutLast (':' :: piece) = none := by
      simp only [cutLast, cutLast_of_notMem h]
      split
      · rename_i after _ _
        simp at h
      · rfl
    rw [List.nil_append, cutLast, hcolon]
  | cons c front ih => simp only [List.cons_append, cutLast, ih]

theorem dropColons_of_head (h : rest.head? ≠ some ':') : dropColons rest = rest := by
  unfold dropColons
  split
  · exact absurd rfl h
  · rfl

end Entrypoint.Text
