import Entrypoint.Proofs.Catalog.ScopePath

/-! Scopes written relative to another. Leading steps are taken one after another: of these only the
steps out count, each for one segment of the scope that they start from. So every module of a crate
can be addressed from every other, whatever is declared in them. -/

namespace Entrypoint

namespace Scope

variable {name current : String} {base steps rest names : List String}

/-- The words that lead from a scope to another, or to the crate. -/
def leads : List String := ["crate", "self", "super"]

/-- A segment of a scope that only names a module. -/
structure IsModuleName (name : String) : Prop where
  ne_empty : name ≠ ""
  colon : ':' ∉ name.toList
  lead : name ∉ leads

theorem IsModuleName.ne_step (h : IsModuleName name) : name ≠ "self" ∧ name ≠ "super" := by
  constructor <;> rintro rfl <;> exact absurd h.lead (by decide)

/-- Every name of a path that is none of these words names a module. -/
theorem isModuleName_text (name : PathWord) (h : name.text ∉ leads) : IsModuleName name.text :=
  ⟨name.ne_empty, name.notMem_colon, h⟩

/-- The words of a scope that only lead from another: `self` stays, `super` leaves a segment. -/
def AreSteps (steps : List String) : Prop := ∀ step ∈ steps, step = "self" ∨ step = "super"

theorem areSteps_replicate (depth : Nat) : AreSteps (List.replicate depth "super") :=
  fun _ hstep => .inr (List.eq_of_mem_replicate hstep)

/-- **Taking steps.** Each step out leaves one segment, and what comes behind the steps is added. -/
theorem follow_append (hsteps : AreSteps steps) (hrest : ∀ name ∈ rest, IsModuleName name)
    (base : List String) :
    follow base (steps ++ rest) = base.take (base.length - steps.count "super") ++ rest := by
  induction steps generalizing base with
  | nil =>
    rw [List.nil_append, List.count_nil, Nat.sub_zero, List.take_length]
    cases rest with
    | nil => rw [follow, List.append_nil]
    | cons name rest =>
      obtain ⟨hself, hsuper⟩ := (hrest name List.mem_cons_self).ne_step
      rw [follow, if_neg hself, if_neg hsuper]
  | cons step steps ih =>
    obtain ⟨hstep, hmore⟩ := List.forall_mem_cons.mp hsteps
    rw [List.cons_append, follow]
    rcases hstep with rfl | rfl
    · rw [if_pos rfl, ih hmore, List.count_cons_of_ne (by decide)]
    · rw [if_neg (by decide), if_pos rfl, ih hmore, List.count_cons_self, List.length_dropLast,
        List.dropLast_eq_take, List.take_take]
      congr 2
      omega

theorem dropColons_ofSegments (hne : name ≠ "") (hcolon : ':' ∉ name.toList) (rest : List String) :
    Text.dropColons (ofSegments (name :: rest)).toList = (ofSegments (name :: rest)).toList := by
  obtain ⟨c, text, htext⟩ := List.exists_cons_of_ne_nil (show name.toList ≠ [] by simpa using hne)
  have hhead : (ofSegments (name :: rest)).toList.head? = some c := by
    cases rest with
    | nil => simp [ofSegments, htext]
    | cons next rest => simp [ofSegments, String.intercalate_cons_cons, htext]
  apply Text.dropColons_of_head
  rw [hhead]
  rintro ⟨⟩
  exact hcolon (htext ▸ List.mem_cons_self)

end Scope

namespace Catalog

open Scope (IsModuleName AreSteps leads ofSegments segments follow)

variable {first : String} {steps names rest : List String}

/-- A scope that begins with one of the words that lead means the same in every catalogue. -/
theorem absoluteScope_lead (catalog : Catalog) (current : String) (hlead : first ∈ leads)
    (hsegments : ∀ segment ∈ first :: rest, segment ≠ "" ∧ ':' ∉ segment.toList) :
    catalog.absoluteScope current (ofSegments (first :: rest)) =
      if first = "crate" then ofSegments ((segments current).headD "" :: rest)
      else ofSegments (follow (segments current) (first :: rest)) := by
  obtain ⟨hne, hcolon⟩ := hsegments first List.mem_cons_self
  have hwritten : segments (ofSegments (first :: rest)) = first :: rest :=
    Scope.segments_ofSegments (fun segment h => (hsegments segment h).2) (List.cons_ne_nil _ _)
  have hfilter : (first :: rest).filter (· ≠ "") = first :: rest :=
    List.filter_eq_self.mpr fun segment h => by simpa using (hsegments segment h).1
  simp only [absoluteScope, Scope.dropColons_ofSegments hne hcolon, String.ofList_toList, hwritten,
    hfilter]
  split
  · rfl
  · rename_i hcrate
    have hstep : first = "self" ∨ first = "super" := by simpa [leads, hcrate] using hlead
    rw [if_pos hstep]

/-- **Steps from a scope.** They lead to the segments that they do not leave. -/
theorem absoluteScope_steps (catalog : Catalog) (hsteps : AreSteps steps) (hne : steps ≠ [])
    (hnames : names ≠ []) (hname : ∀ name ∈ names ++ rest, IsModuleName name) :
    catalog.absoluteScope (ofSegments names) (ofSegments (steps ++ rest)) =
      ofSegments (names.take (names.length - steps.count "super") ++ rest) := by
  obtain ⟨hcurrent, hrest⟩ := List.forall_mem_append.mp hname
  have hbase : segments (ofSegments names) = names :=
    Scope.segments_ofSegments (fun name h => (hcurrent name h).colon) hnames
  obtain ⟨step, more, rfl⟩ := List.exists_cons_of_ne_nil hne
  have hsegments : ∀ segment ∈ step :: more ++ rest, segment ≠ "" ∧ ':' ∉ segment.toList := by
    intro segment h
    rcases List.mem_append.mp h with h | h
    · rcases hsteps segment h with rfl | rfl <;> decide
    · exact ⟨(hrest segment h).ne_empty, (hrest segment h).colon⟩
  have hlead : step ∈ leads ∧ step ≠ "crate" := by
    rcases hsteps step List.mem_cons_self with rfl | rfl <;> decide
  rw [List.cons_append] at hsegments ⊢
  rw [absoluteScope_lead catalog _ hlead.1 hsegments, if_neg hlead.2, hbase, ← List.cons_append,
    Scope.follow_append hsteps hrest]

/-- **Relative scopes.** From a scope, as many steps out as the inner one has segments lead to the
outer one, `self` stays where it is, steps out behind it count as they do alone, and `crate` is the
first segment of the scope; all that comes behind is added. What the catalogue declares makes no
difference. -/
theorem absoluteScope_relative (catalog : Catalog) (outer inner rest : List String)
    (houter : outer ≠ []) (hnames : ∀ name ∈ outer ++ inner ++ rest, IsModuleName name) :
    let current := ofSegments (outer ++ inner)
    let out := List.replicate inner.length "super"
    (inner ≠ [] → catalog.absoluteScope current (ofSegments (out ++ rest)) =
      ofSegments (outer ++ rest)) ∧
    catalog.absoluteScope current (ofSegments ("self" :: rest)) =
      ofSegments (outer ++ inner ++ rest) ∧
    catalog.absoluteScope current (ofSegments ("self" :: out ++ rest)) =
      ofSegments (outer ++ rest) ∧
    catalog.absoluteScope current (ofSegments ("crate" :: rest)) =
      ofSegments (outer.head houter :: rest) := by
  intro current out
  have hne : outer ++ inner ≠ [] := by simp [houter]
  have hcount : out.count "super" = inner.length := List.count_replicate_self
  have hself : ("self" :: out).count "super" = inner.length := by
    rw [List.count_cons_of_ne (by decide), hcount]
  have hleft : (outer ++ inner).take ((outer ++ inner).length - inner.length) = outer := by
    rw [List.length_append, Nat.add_sub_cancel, List.take_left]
  have hout : AreSteps out := Scope.areSteps_replicate _
  refine ⟨fun hinner => ?_, ?_, ?_, ?_⟩
  · rw [absoluteScope_steps catalog hout (by simpa [out] using hinner) hne hnames, hcount, hleft]
  · have hstay : AreSteps ["self"] := by simp [AreSteps]
    rw [← List.singleton_append, absoluteScope_steps catalog hstay (List.cons_ne_nil _ _) hne hnames,
      show ["self"].count "super" = 0 from rfl, Nat.sub_zero, List.take_length]
  · rw [absoluteScope_steps catalog (List.forall_mem_cons.mpr ⟨.inl rfl, hout⟩)
      (List.cons_ne_nil _ _) hne hnames, hself, hleft]
  · obtain ⟨hcurrent, hrest⟩ := List.forall_mem_append.mp hnames
    have hbase : segments current = outer ++ inner :=
      Scope.segments_ofSegments (fun name h => (hcurrent name h).colon) hne
    have hsegments : ∀ segment ∈ "crate" :: rest, segment ≠ "" ∧ ':' ∉ segment.toList :=
      List.forall_mem_cons.mpr
        ⟨by decide, fun name h => ⟨(hrest name h).ne_empty, (hrest name h).colon⟩⟩
    rw [absoluteScope_lead catalog current (by decide) hsegments, if_pos rfl, hbase]
    obtain ⟨first, outer, rfl⟩ := List.exists_cons_of_ne_nil houter
    rfl

/-- The modules `hr`, `api`, `v1` and `models`. -/
def modelsPath : List PathWord :=
  [.ofIdent ⟨⟨"hr", by decide⟩, by decide⟩, .ofIdent ⟨⟨"api", by decide⟩, by decide⟩,
    .ofIdent ⟨⟨"v1", by decide⟩, by decide⟩, .ofIdent ⟨⟨"models", by decide⟩, by decide⟩]

theorem absoluteScope_models :
    (∀ name ∈ ["hr"] ++ ["api", "v1"] ++ ["models"], IsModuleName name) ∧
      empty.absoluteScope "hr::api::v1" "super::super::models" = "hr::models" ∧
      empty.absoluteScope "hr::api::v1" "self::models" = "hr::api::v1::models" ∧
      empty.absoluteScope "hr::api::v1" "self::super::super::models" = "hr::models" ∧
      empty.absoluteScope "hr::api::v1" "crate::models" = "hr::models" := by
  have hlead : ∀ name ∈ modelsPath, name.text ∉ leads := by decide
  have hnames : ∀ name ∈ modelsPath.map (·.text), IsModuleName name := by
    intro text htext
    obtain ⟨name, hname, rfl⟩ := List.mem_map.mp htext
    exact Scope.isModuleName_text name (hlead name hname)
  obtain ⟨hout, hhere, hback, hcrate⟩ :=
    absoluteScope_relative empty ["hr"] ["api", "v1"] ["models"] (by decide) hnames
  exact ⟨hnames, hout (by decide), hhere, hback, hcrate⟩

end Catalog

end Entrypoint
