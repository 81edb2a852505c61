import Entrypoint.Files.Discovery
import Entrypoint.Proofs.Files.TreeWriting
import Mathlib.Data.List.Induction

/-! Walking through a module. A walk comes by no place to which a hidden name leads, and in a tree
whose entries stand in directories it comes by every other place below the module. It comes by no
place twice, so the source files that it finds are told, in their order, by which they are. -/

namespace Entrypoint

namespace Discovery

variable {p q : Place}

/-! ### The order of places -/

theorem precedes_total (p q : Place) : (precedes p q || precedes q p) = true := by
  induction p generalizing q with
  | nil => simp [precedes]
  | cons a p ih =>
    cases q with
    | nil => simp [precedes]
    | cons b q =>
      rw [precedes, precedes]
      by_cases h : a = b
      · rw [if_pos h, if_pos h.symm]
        exact ih q
      · rw [if_neg h, if_neg (Ne.symm h)]
        by_cases hlt : a < b
        · simp [hlt]
        · have hgt : b < a := by
            by_cases hgt : b < a
            · exact hgt
            · exact absurd (String.le_antisymm (String.not_lt.mp hgt) (String.not_lt.mp hlt)) h
          simp [hgt]

theorem precedes_antisymm (h : precedes p q = true) (h' : precedes q p = true) : p = q := by
  induction p generalizing q with
  | nil =>
    cases q with
    | nil => rfl
    | cons b q => cases h'
  | cons a p ih =>
    cases q with
    | nil => cases h
    | cons b q =>
      rw [precedes] at h h'
      by_cases heq : a = b
      · rw [if_pos heq] at h
        rw [if_pos heq.symm] at h'
        rw [heq, ih h h']
      · rw [if_neg heq] at h
        rw [if_neg (Ne.symm heq)] at h'
        exact absurd (of_decide_eq_true h') (String.lt_asymm (of_decide_eq_true h))

theorem precedes_trans {r : Place} (h : precedes p q = true) (h' : precedes q r = true) :
    precedes p r = true := by
  induction p generalizing q r with
  | nil => rfl
  | cons a p ih =>
    cases q with
    | nil => cases h
    | cons b q =>
      cases r with
      | nil => cases h'
      | cons c r =>
        rw [precedes] at h h' ⊢
        by_cases hab : a = b
        · rw [if_pos hab] at h
          subst hab
          split
          · rename_i hac
            rw [if_pos hac] at h'
            exact ih h h'
          · rename_i hac
            rwa [if_neg hac] at h'
        · rw [if_neg hab] at h
          have hlt := of_decide_eq_true h
          split at h'
          · rename_i hbc
            subst hbc
            rwa [if_neg hab]
          · have hlt' := String.lt_trans hlt (of_decide_eq_true h')
            rw [if_neg (String.ne_of_lt hlt')]
            exact decide_eq_true hlt'

end Discovery

namespace Tree

open Discovery (isEntered isFound isVisible placesBelow placesMet walk)

variable {t : Tree} {base below place p q : Place} {e : Entry} {name : String}

/-! ### Entries of directories -/

theorem isSome_entry?_iff : (t.entry? (place ++ [name])).isSome ↔ name ∈ t.listing place := by
  rw [Tree.entry?, if_neg (List.concat_ne_nil name place), List.lookup_isSome_iff, mem_listing_iff,
    List.mem_map]
  exact exists_congr fun e => and_congr_right fun _ => beq_iff_eq.trans eq_comm

theorem Sound.isDirectory_of_append (H : t.Sound) (h : (t.entry? (p ++ q)).isSome) (hq : q ≠ []) :
    t.isDirectory p = true := by
  induction q using List.reverseRecOn with
  | nil => exact absurd rfl hq
  | append_singleton q s ih =>
    have hparent := H.parent _ h
    rw [← List.append_assoc, List.dropLast_concat] at hparent
    by_cases hq : q = []
    · rwa [hq, List.append_nil] at hparent
    · exact ih (by rw [isDirectory_iff.mp hparent]; rfl) hq

/-- Something stands on the way to what stands at a place. -/
theorem Sound.isSome_of_append (H : t.Sound) (h : (t.entry? (p ++ q)).isSome) :
    (t.entry? p).isSome := by
  by_cases hq : q = []
  · rwa [hq, List.append_nil] at h
  · rw [isDirectory_iff.mp (H.isDirectory_of_append h hq)]
    rfl

/-! ### One step of a walk, and all -/

theorem isEntered_concat (below : Place) (name : String) :
    isEntered (below ++ [name]) = isVisible name := by
  rw [isEntered, List.getLast?_concat, Option.all_some]

theorem walk_of_isDirectory (hentered : isEntered below = true)
    (hdirectory : t.isDirectory (base ++ below) = true) :
    walk t base below =
      below :: (t.listing (base ++ below)).flatMap fun name => walk t base (below ++ [name]) := by
  rw [walk, if_pos hentered, if_pos hdirectory, List.flatMap_subtype fun _ _ => rfl,
    List.unattach_attach]

theorem mem_walk_iff : q ∈ walk t base below ↔ isEntered below = true ∧ (q = below ∨
    t.isDirectory (base ++ below) = true ∧
      ∃ name ∈ t.listing (base ++ below), q ∈ walk t base (below ++ [name])) := by
  by_cases hentered : isEntered below = true
  · rw [and_iff_right hentered]
    by_cases hdirectory : t.isDirectory (base ++ below) = true
    · rw [walk_of_isDirectory hentered hdirectory, List.mem_cons, List.mem_flatMap,
        and_iff_right hdirectory]
    · rw [walk, if_pos hentered, if_neg hdirectory, List.mem_singleton]
      exact (or_iff_left fun h => hdirectory h.1).symm
  · rw [walk, if_neg hentered]
    exact iff_of_false List.not_mem_nil fun h => hentered h.1

/-- Only visible names lead on from a place to what a walk comes by below it. -/
theorem exists_of_mem_walk (h : q ∈ walk t base below) :
    ∃ rest, q = below ++ rest ∧ ∀ name ∈ rest, isVisible name = true := by
  induction below using Discovery.walk.induct t base with
  | case1 below _ _ ih =>
    rcases mem_walk_iff.mp h with ⟨_, rfl | ⟨_, name, hname, hq⟩⟩
    · exact ⟨[], (List.append_nil q).symm, nofun⟩
    · obtain ⟨rest, rfl, hrest⟩ := ih name hname hq
      have hvisible := (isEntered_concat below name).symm.trans (mem_walk_iff.mp hq).1
      exact ⟨name :: rest, by simp, List.forall_mem_cons.mpr ⟨hvisible, hrest⟩⟩
  | case2 below _ hdirectory =>
    rcases mem_walk_iff.mp h with ⟨_, rfl | ⟨h, _⟩⟩
    · exact ⟨[], (List.append_nil q).symm, nofun⟩
    · exact absurd h hdirectory
  | case3 below hentered => exact absurd (mem_walk_iff.mp h).1 hentered

/-- A walk comes by everything to which visible names lead on from a place that it enters. -/
theorem Sound.mem_walk (H : t.Sound) (hentered : isEntered below = true)
    (hvisible : ∀ name ∈ q, isVisible name = true) (h : (t.entry? (base ++ below ++ q)).isSome) :
    below ++ q ∈ walk t base below := by
  induction q generalizing below with
  | nil => exact mem_walk_iff.mpr ⟨hentered, .inl (List.append_nil below)⟩
  | cons name q ih =>
    obtain ⟨hname, hvisible⟩ := List.forall_mem_cons.mp hvisible
    have hdirectory := H.isDirectory_of_append h (List.cons_ne_nil name q)
    have hentry : (t.entry? (base ++ (below ++ [name]) ++ q)).isSome := by simpa using h
    have hlisted : name ∈ t.listing (base ++ below) := by
      rw [← List.append_assoc] at hentry
      exact isSome_entry?_iff.mp (H.isSome_of_append hentry)
    have hnext := ih ((isEntered_concat below name).trans hname) hvisible hentry
    rw [List.append_assoc, List.singleton_append] at hnext
    exact mem_walk_iff.mpr ⟨hentered, .inr ⟨hdirectory, name, hlisted, hnext⟩⟩

/-- A walk comes by no place twice if no directory lists a name twice. -/
theorem nodup_walk (hlisting : ∀ place, (t.listing place).Nodup) (base below : Place) :
    (walk t base below).Nodup := by
  induction below using Discovery.walk.induct t base with
  | case1 below hentered hdirectory ih =>
    rw [walk_of_isDirectory hentered hdirectory, List.nodup_cons]
    constructor
    · intro hmem
      obtain ⟨name, _, hq⟩ := List.mem_flatMap.mp hmem
      obtain ⟨rest, heq, _⟩ := exists_of_mem_walk hq
      simp at heq
    · refine List.pairwise_flatMap.mpr ⟨ih, (hlisting _).imp ?_⟩
      -- What two entries lead to differs in the name of the entry.
      rintro name name' hne q hq q' hq' rfl
      obtain ⟨rest, rfl, _⟩ := exists_of_mem_walk hq
      obtain ⟨rest', heq, _⟩ := exists_of_mem_walk hq'
      simp only [List.append_assoc, List.append_cancel_left_eq, List.cons_append, List.cons.injEq]
        at heq
      exact hne heq.1
  | case2 below hentered hdirectory =>
    rw [walk, if_pos hentered, if_neg hdirectory]
    exact List.pairwise_singleton _ below
  | case3 below hentered =>
    rw [walk, if_neg hentered]
    exact List.Pairwise.nil

/-! ### Source files below a module -/

theorem isFound_iff : isFound below e = true ↔
    e.isFile = true ∧ below.getLast?.any Discovery.isSourceName = true := by
  rw [isFound, Bool.and_eq_true]

/-- Below a place are the source files to which visible names lead. -/
theorem Sound.mem_placesBelow (H : t.Sound) :
    below ∈ placesBelow t base ↔ (∀ name ∈ below, isVisible name = true) ∧
      ∃ e, t.entry? (base ++ below) = some e ∧ isFound below e = true := by
  rw [placesBelow, List.mem_mergeSort, placesMet, List.mem_filter, Option.any_eq_true]
  refine and_congr_left fun ⟨e, hentry, _⟩ => ⟨fun hmem => ?_, fun hvisible => ?_⟩
  · obtain ⟨_, rfl, hvisible⟩ := exists_of_mem_walk hmem
    exact hvisible
  · have hfrom : [] ++ below ∈ walk t base [] :=
      H.mem_walk rfl hvisible (by rw [List.append_nil, hentry]; rfl)
    exact hfrom

theorem nodup_placesBelow (hlisting : ∀ place, (t.listing place).Nodup) (base : Place) :
    (placesBelow t base).Nodup := by
  rw [placesBelow, (List.mergeSort_perm _ _).nodup_iff]
  exact (nodup_walk hlisting base []).filter _

theorem pairwise_placesBelow (t : Tree) (base : Place) :
    (placesBelow t base).Pairwise (Discovery.precedes · ·) :=
  @List.pairwise_mergeSort _ Discovery.precedes (fun _ _ _ => Discovery.precedes_trans)
    Discovery.precedes_total _

/-- The places below a place are told by which they are. -/
theorem eq_placesBelow {places : List Place} (hlisting : ∀ place, (t.listing place).Nodup)
    (hsorted : places.Pairwise (Discovery.precedes · ·)) (hnodup : places.Nodup)
    (hmem : ∀ below, below ∈ places ↔ below ∈ placesBelow t base) : places = placesBelow t base :=
  List.Perm.eq_of_pairwise (fun _ _ _ _ => Discovery.precedes_antisymm) hsorted
    (pairwise_placesBelow t base)
    ((List.perm_ext_iff_of_nodup hnodup (nodup_placesBelow hlisting base)).mpr hmem)

end Tree

end Entrypoint
