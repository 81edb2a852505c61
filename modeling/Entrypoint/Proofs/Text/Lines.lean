import Entrypoint.Proofs.Text.CharSplit
import Entrypoint.Proofs.Text.Trimming
import Mathlib.Data.List.Induction

/-! The lines of a text. What stands before a line feed gives its own lines, and a carriage return
that is dropped from the end of a line is one of the blanks after what the line says. -/

namespace Entrypoint.Text

variable {gap core line before after : List Char}

/-- Lines up to a line feed come before those behind it. -/
theorem lines_append (before after : List Char) :
    lines (before ++ '\n' :: after) = (splitAt '\n' before).map dropReturn ++ lines after := by
  obtain ⟨front, last, hlast⟩ :=
    (List.eq_nil_or_concat _).resolve_left (splitAt_ne_nil '\n' after)
  rw [List.concat_eq_append] at hlast
  simp only [lines, splitAt_append, hlast, ← List.append_assoc, List.dropLast_concat,
    List.getLast?_concat, List.map_append]

theorem lines_nil : lines [] = [] := rfl

theorem lines_of_notMem (h : '\n' ∉ line) (hne : line ≠ []) : lines line = [line] := by
  rw [lines, splitAt_of_notMem h]
  cases line with
  | nil => exact absurd rfl hne
  | cons c line => rfl

/-- The line with its carriage return dropped differs only in the blanks at its end. -/
theorem exists_dropReturn (hgap : IsGap gap) (hcore : ∀ c ∈ core.getLast?, isBlank c = false) :
    ∃ gap', IsGap gap' ∧ dropReturn (core ++ gap) = core ++ gap' := by
  rw [dropReturn]
  split
  · rename_i hreturn
    cases gap using List.reverseRec with
    | nil =>
      rw [List.append_nil] at hreturn
      exact absurd (hcore _ hreturn) (by decide)
    | append_singleton gap c =>
      refine ⟨gap, (List.forall_mem_append.mp hgap).1, ?_⟩
      rw [← List.append_assoc, List.dropLast_concat]
  · exact ⟨gap, hgap, rfl⟩

end Entrypoint.Text
