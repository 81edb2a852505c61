import Entrypoint.Proofs.Catalog.AliasChain
import Entrypoint.Proofs.Catalog.ImportedAlias
import Mathlib.Data.List.Dedup
import Mathlib.Data.List.Perm.Subperm
import Mathlib.Logic.Relation

/-! Where chains of aliases end. From a type that is no scalar by itself a chain goes on to the target
of the alias that the type names, as it is written in the scope of the alias. It ends at a scalar or
at a type that names no alias, or it comes back to where it was. The search tells these three apart,
and calls itself no more often than there are aliases. -/

namespace Entrypoint

open Relation (ReflTransGen TransGen)

/-- A type as it is written in a scope. -/
structure WrittenType where
  scope : String
  type : TypeExpr

namespace WrittenType

/-- The scalar that a type is by itself. -/
def scalar? (t : WrittenType) : Option Scalar :=
  (t.type.writtenName?.bind Catalog.builtin?).bind Catalog.Resolution.scalar?

/-- The type is a path into a scope of the primitive types. -/
def IsInPrimitives (t : WrittenType) : Prop := ∃ written name,
  t.type.writtenName? = some (.qualified written name) ∧
    String.ofList (Text.dropColons written.toList) ∈ Catalog.primitiveScopes

end WrittenType

namespace Catalog

/-- The alias that a written type names. -/
def aliasOf? (c : Catalog) (t : WrittenType) : Option CatalogAlias :=
  t.type.writtenName?.bind (c.findAlias? t.scope)

/-- A type that is no scalar names an alias, and the other type is the target of the alias. -/
def Replaces (c : Catalog) (t t' : WrittenType) : Prop :=
  t.scalar? = none ∧ ∃ found, c.aliasOf? t = some found ∧ t' = ⟨found.scope, found.target⟩

/-- One step of a chain: an alias is replaced by its target. Paths into the scopes of the primitive
types name nothing else, so they are not replaced. -/
def Follows (c : Catalog) (t t' : WrittenType) : Prop := ¬t.IsInPrimitives ∧ c.Replaces t t'

/-- The chain from the one type comes to the other. -/
def LeadsTo (c : Catalog) : WrittenType → WrittenType → Prop := ReflTransGen c.Follows

/-- A chain stops here: the type is no scalar, and names no alias or is looked for among the
primitive types only. -/
def Stops (c : Catalog) (t : WrittenType) : Prop :=
  t.scalar? = none ∧ (c.aliasOf? t = none ∨ t.IsInPrimitives)

/-- The chain from the type enters a cycle. -/
def EntersCycle (c : Catalog) (t : WrittenType) : Prop :=
  ∃ t', c.LeadsTo t t' ∧ TransGen c.Follows t' t'

/-- What a chain ends with. -/
def EndsIn (c : Catalog) (t : WrittenType) : Resolution → Prop
  | .scalar s => ∃ t', c.LeadsTo t t' ∧ t'.scalar? = some s
  | .unknown => ∃ t', c.LeadsTo t t' ∧ c.Stops t'
  | .circular _ => c.EntersCycle t

variable {c : Catalog} {t t' e e' : WrittenType} {written : WrittenName} {found : CatalogAlias}
  {resolution : Resolution} {visited : List String} {s : Scalar}

/-! ### Steps -/

theorem scalar?_of_writtenName? (hname : t.type.writtenName? = some written) :
    t.scalar? = (builtin? written).bind Resolution.scalar? := by
  rw [WrittenType.scalar?, hname, Option.bind_some]

theorem aliasOf?_of_writtenName? (hname : t.type.writtenName? = some written) :
    c.aliasOf? t = c.findAlias? t.scope written := by
  rw [aliasOf?, hname, Option.bind_some]

theorem isInPrimitives_iff {scope name : String}
    (hname : t.type.writtenName? = some (.qualified scope name)) :
    t.IsInPrimitives ↔ String.ofList (Text.dropColons scope.toList) ∈ primitiveScopes := by
  constructor
  · rintro ⟨scope', name', hname', hin⟩
    cases hname.symm.trans hname'
    exact hin
  · exact fun hin => ⟨scope, name, hname, hin⟩

theorem not_isInPrimitives_of_bare {name : String}
    (hname : t.type.writtenName? = some (.bare name)) : ¬t.IsInPrimitives := by
  rintro ⟨scope', name', hname', _⟩
  cases hname.symm.trans hname'

/-- A name that means something without any declaration is a scalar, or is looked for among the
primitive types in vain. -/
theorem builtin?_cases (hname : t.type.writtenName? = some written) :
    (builtin? written = none ∧ t.scalar? = none ∧ ¬t.IsInPrimitives) ∨
      (builtin? written = some .unknown ∧ t.scalar? = none ∧ t.IsInPrimitives) ∨
        ∃ s, builtin? written = some (.scalar s) ∧ t.scalar? = some s := by
  rw [scalar?_of_writtenName? hname]
  cases written with
  | bare name =>
    simp only [builtin?]
    cases Scalar.ofName? name with
    | none => exact .inl ⟨rfl, rfl, not_isInPrimitives_of_bare hname⟩
    | some s => exact .inr (.inr ⟨s, rfl, rfl⟩)
  | qualified scope name =>
    simp only [builtin?, isInPrimitives_iff hname]
    split_ifs with hstring hin
    · exact .inr (.inr ⟨.string, rfl, rfl⟩)
    · cases Scalar.ofName? name with
      | none => exact .inr (.inl ⟨rfl, rfl, hin⟩)
      | some s => exact .inr (.inr ⟨s, rfl, rfl⟩)
    · exact .inl ⟨rfl, rfl, hin⟩

theorem follows_of_findAlias? (hname : t.type.writtenName? = some written)
    (hfree : builtin? written = none) (hfound : c.findAlias? t.scope written = some found) :
    c.Follows t ⟨found.scope, found.target⟩ := by
  rcases builtin?_cases hname with ⟨_, hscalar, hprimitives⟩ | ⟨hbuiltin, _⟩ | ⟨s, hbuiltin, _⟩
  · exact ⟨hprimitives, hscalar, found, (aliasOf?_of_writtenName? hname).trans hfound, rfl⟩
  · cases hfree.symm.trans hbuiltin
  · cases hfree.symm.trans hbuiltin

/-- Each type is followed by at most one. -/
theorem follows_rightUnique (c : Catalog) : Relator.RightUnique c.Follows := by
  rintro t t' t'' ⟨_, _, found, hfound, rfl⟩ ⟨_, _, found', hfound', rfl⟩
  cases hfound.symm.trans hfound'
  rfl

/-- Nothing follows a scalar. -/
theorem not_follows_of_scalar (h : e.scalar? = some s) : ¬c.Follows e t' := fun hstep => by
  cases h.symm.trans hstep.2.1

/-- Nothing follows where a chain stops. -/
theorem Stops.not_follows (H : c.Stops e) : ¬c.Follows e t' := by
  rintro ⟨hprimitives, _, found, hfound, rfl⟩
  rcases H.2 with hnone | hin
  · cases hnone.symm.trans hfound
  · exact hprimitives hin

/-! ### Ends of chains -/

theorem LeadsTo.eq_of_end (H : c.LeadsTo e t) (hend : ∀ t', ¬c.Follows e t') : e = t := by
  rcases H.cases_head with heq | ⟨t', hstep, _⟩
  · exact heq
  · exact absurd hstep (hend t')

/-- A chain has one end. -/
theorem LeadsTo.end_unique (H : c.LeadsTo t e) (H' : c.LeadsTo t e')
    (hend : ∀ t', ¬c.Follows e t') (hend' : ∀ t', ¬c.Follows e' t') : e = e' := by
  rcases H.total_of_right_unique (follows_rightUnique c) H' with h | h
  · exact LeadsTo.eq_of_end h hend
  · exact (LeadsTo.eq_of_end h hend').symm

/-- A chain that has an end comes back to nothing. -/
theorem LeadsTo.not_cycle (H : c.LeadsTo t e) (hend : ∀ t', ¬c.Follows e t') :
    ¬TransGen c.Follows t t := by
  induction H using ReflTransGen.head_induction_on with
  | refl =>
    intro hcycle
    obtain ⟨t', hstep, _⟩ := TransGen.head'_iff.mp hcycle
    exact hend t' hstep
  | head hstep _ ih =>
    intro hcycle
    obtain ⟨t', hstep', hrest⟩ := TransGen.head'_iff.mp hcycle
    obtain rfl := follows_rightUnique c hstep hstep'
    exact ih (TransGen.tail' hrest hstep)

theorem LeadsTo.not_entersCycle (H : c.LeadsTo t e) (hend : ∀ t', ¬c.Follows e t') :
    ¬c.EntersCycle t := by
  rintro ⟨t', hchain, hcycle⟩
  rcases H.total_of_right_unique (follows_rightUnique c) hchain with h | h
  · obtain rfl := LeadsTo.eq_of_end h hend
    exact LeadsTo.not_cycle .refl hend hcycle
  · exact LeadsTo.not_cycle h hend hcycle

theorem EndsIn.of_follows (hstep : c.Follows t t') (H : c.EndsIn t' resolution) :
    c.EndsIn t resolution := by
  cases resolution with
  | scalar s => exact H.imp fun _ h => ⟨h.1.head hstep, h.2⟩
  | unknown => exact H.imp fun _ h => ⟨h.1.head hstep, h.2⟩
  | circular key => exact H.imp fun _ h => ⟨h.1.head hstep, h.2⟩

/-- What a chain ends with is a scalar exactly if the chain comes to it. -/
theorem EndsIn.scalar?_eq_some_iff (H : c.EndsIn t resolution) :
    resolution.scalar? = some s ↔ ∃ e, c.LeadsTo t e ∧ e.scalar? = some s := by
  constructor
  · intro h
    cases resolution <;> cases h
    exact H
  · rintro ⟨e, hchain, hs⟩
    have hend : ∀ t', ¬c.Follows e t' := fun _ => not_follows_of_scalar hs
    cases resolution with
    | scalar s' =>
      obtain ⟨e', hchain', hs'⟩ := H
      cases hchain.end_unique hchain' hend fun _ => not_follows_of_scalar hs'
      exact hs'.symm.trans hs
    | unknown =>
      obtain ⟨e', hchain', hstops⟩ := H
      cases hchain.end_unique hchain' hend fun _ => hstops.not_follows
      cases hstops.1.symm.trans hs
    | circular key => exact absurd H (hchain.not_entersCycle hend)

/-- It is no scalar exactly if the chain stops or enters a cycle. -/
theorem EndsIn.scalar?_eq_none_iff (H : c.EndsIn t resolution) :
    resolution.scalar? = none ↔ (∃ e, c.LeadsTo t e ∧ c.Stops e) ∨ c.EntersCycle t := by
  cases resolution with
  | unknown => exact iff_of_true rfl (.inl H)
  | circular key => exact iff_of_true rfl (.inr H)
  | scalar s =>
    obtain ⟨e, hchain, hs⟩ := H
    have hend : ∀ t', ¬c.Follows e t' := fun _ => not_follows_of_scalar hs
    refine iff_of_false nofun ?_
    rintro (⟨e', hchain', hstops⟩ | hcycle)
    · cases hchain.end_unique hchain' hend fun _ => hstops.not_follows
      cases hstops.1.symm.trans hs
    · exact hchain.not_entersCycle hend hcycle

/-- The aliases that were passed lead to where the chain is. -/
def PassedOn (c : Catalog) (visited : List String) (t : WrittenType) : Prop :=
  ∀ key ∈ visited, ∃ scope written a, c.findAlias? scope written = some a ∧ a.key = key ∧
    c.LeadsTo ⟨a.scope, a.target⟩ t

/-- The search ends as the chain does. -/
theorem AliasesNamed.endsIn_resolveFrom (H : c.AliasesNamed) (hpassed : c.PassedOn visited t) :
    c.EndsIn t (c.resolveFrom visited t.scope t.type) := by
  obtain ⟨scope, type⟩ := t
  induction visited, scope, type using resolveFrom.induct c with
  | case1 visited scope type hname =>
    have hstops : c.Stops ⟨scope, type⟩ := by
      refine ⟨?_, .inl ?_⟩
      · rw [WrittenType.scalar?, hname]; rfl
      · rw [aliasOf?, hname]; rfl
    rw [resolveFrom, hname]
    exact ⟨_, .refl, hstops⟩
  | case2 visited scope type written hname resolution hbuiltin =>
    rw [resolveFrom_of_builtin? hname hbuiltin]
    rcases builtin?_cases (t := ⟨scope, type⟩) hname with ⟨hfree, _⟩ | ⟨hunknown, hscalar, hin⟩ |
      ⟨s, hs, hscalar⟩
    · cases hfree.symm.trans hbuiltin
    · cases hunknown.symm.trans hbuiltin
      exact ⟨_, .refl, hscalar, .inr hin⟩
    · cases hs.symm.trans hbuiltin
      exact ⟨_, .refl, hscalar⟩
  | case3 visited scope type written hname hfree hnone =>
    rw [resolveFrom_of_findAlias?_eq_none hname hfree hnone]
    refine ⟨_, .refl, ?_, .inl ?_⟩
    · rw [scalar?_of_writtenName? (t := ⟨scope, type⟩) hname, hfree]; rfl
    · exact (aliasOf?_of_writtenName? (t := ⟨scope, type⟩) hname).trans hnone
  | case4 visited scope type written hname hfree found hfound hseen =>
    -- The alias was passed on the way here, and leads on to itself.
    rw [resolveFrom_of_findAlias? hname hfree hfound, if_pos hseen]
    have hstep := follows_of_findAlias? (t := ⟨scope, type⟩) hname hfree hfound
    obtain ⟨scope', written', a, ha, hkey, hchain⟩ := hpassed _ hseen
    obtain rfl := H.found_unique ha hfound hkey
    exact ⟨_, .single hstep, TransGen.tail' hchain hstep⟩
  | case5 visited scope type written hname hfree found hfound hfresh ih =>
    rw [resolveFrom_of_findAlias? hname hfree hfound, if_neg hfresh]
    have hstep := follows_of_findAlias? (t := ⟨scope, type⟩) hname hfree hfound
    refine .of_follows hstep (ih ?_)
    refine List.forall_mem_cons.mpr ⟨⟨scope, written, found, hfound, rfl, .refl⟩, fun key hkey => ?_⟩
    obtain ⟨scope', written', a, ha, hkey, hchain⟩ := hpassed key hkey
    exact ⟨scope', written', a, ha, hkey, hchain.tail hstep⟩

/-! ### Depth of the search -/

/-- The names that the aliases are told apart by. -/
def aliasKeys (c : Catalog) : List String := (c.aliases.map (·.key)).dedup

theorem key_mem_aliasKeys (hfound : c.findAlias? t.scope written = some found) :
    found.key ∈ c.aliasKeys :=
  List.mem_dedup.mpr (List.mem_map_of_mem (findAlias?_mem hfound))

/-- The search with a bound on its depth: at most so many calls are open at a time, and without a
call left there is no answer. -/
def resolveWithin (c : Catalog) (visited : List String) (t : WrittenType) :
    Nat → Option Resolution
  | 0 => none
  | depth + 1 =>
    match t.type.writtenName? with
    | none => some .unknown
    | some written =>
      match builtin? written with
      | some resolution => some resolution
      | none =>
        match c.findAlias? t.scope written with
        | none => some .unknown
        | some found =>
          if found.key ∈ visited then some (.circular found.key)
          else c.resolveWithin (found.key :: visited) ⟨found.scope, found.target⟩ depth

/-- Each open call but the first has an alias of its own, so there are at most as many more as there
are aliases that were not passed. -/
theorem resolveWithin_eq_resolveFrom {depth : Nat} (hnodup : visited.Nodup)
    (hkeys : visited ⊆ c.aliasKeys) (hdepth : c.aliasKeys.length < visited.length + depth) :
    c.resolveWithin visited t depth = some (c.resolveFrom visited t.scope t.type) := by
  induction depth generalizing visited t with
  | zero =>
    have hle := (List.subperm_of_subset hnodup hkeys).length_le
    omega
  | succ depth ih =>
    rw [resolveWithin]
    cases hname : t.type.writtenName? with
    | none => rw [resolveFrom, hname]
    | some written =>
      cases hbuiltin : builtin? written with
      | some resolution => simp only [hbuiltin, resolveFrom_of_builtin? hname hbuiltin]
      | none =>
        cases hfound : c.findAlias? t.scope written with
        | none => simp only [hbuiltin, hfound, resolveFrom_of_findAlias?_eq_none hname hbuiltin hfound]
        | some found =>
          simp only [hbuiltin, hfound, resolveFrom_of_findAlias? hname hbuiltin hfound]
          split_ifs with hseen
          · rfl
          · refine ih (hnodup.cons hseen) ?_ ?_
            · exact List.cons_subset.mpr ⟨key_mem_aliasKeys hfound, hkeys⟩
            · rw [List.length_cons]
              omega

/-! ### The search as a whole -/

/-- The search for the scalar of a type answers what the chain of aliases from it ends with. -/
structure FollowsChain (c : Catalog) (t : WrittenType) : Prop where
  /-- A scalar is found exactly if the chain comes to it. -/
  some_iff : ∀ s, c.scalar? t.scope t.type = some s ↔ ∃ e, c.LeadsTo t e ∧ e.scalar? = some s
  /-- Nothing is found exactly if the chain stops or enters a cycle. -/
  none_iff : c.scalar? t.scope t.type = none ↔
    (∃ e, c.LeadsTo t e ∧ c.Stops e) ∨ c.EntersCycle t
  /-- The search gives up at an alias it passed only where the chain comes to no scalar. -/
  guarded : ∀ key, c.resolve t.scope t.type = .circular key → ∀ e, c.LeadsTo t e → e.scalar? = none
  /-- No more calls are open at a time than there are aliases, and one. -/
  depth : c.resolveWithin [] t (c.aliasKeys.length + 1) = some (c.resolve t.scope t.type)

theorem AliasesNamed.followsChain (H : c.AliasesNamed) (t : WrittenType) : c.FollowsChain t := by
  have hends : c.EndsIn t (c.resolve t.scope t.type) :=
    H.endsIn_resolveFrom fun key hkey => absurd hkey List.not_mem_nil
  have hdepth : c.aliasKeys.length < ([] : List String).length + (c.aliasKeys.length + 1) := by
    rw [List.length_nil]
    omega
  exact {
    some_iff := fun s => hends.scalar?_eq_some_iff
    none_iff := hends.scalar?_eq_none_iff
    guarded := fun key hcircular e hchain => by
      refine Option.eq_none_iff_forall_ne_some.mpr fun s hs => ?_
      have hfound := hends.scalar?_eq_some_iff.mpr ⟨e, hchain, hs⟩
      rw [hcircular] at hfound
      cases hfound
    depth := resolveWithin_eq_resolveFrom .nil (List.nil_subset _) hdepth }

/-- **Chains of aliases.** In a catalogue each type goes on to at most one, and the search for a
scalar answers what the chain ends with. It finds a scalar exactly if the chain comes to it, and
nothing exactly if the chain stops or enters a cycle; what it gives up at comes to no scalar. Its
calls are never nested deeper than the number of aliases and one. -/
theorem ofFiles_followsChain (files : List SourceFile) :
    Relator.RightUnique (ofFiles files).Follows ∧ ∀ t, (ofFiles files).FollowsChain t :=
  ⟨follows_rightUnique _, (aliasesNamed_ofDeclarations isNamed_of_mem_files).followsChain⟩

end Catalog

/-! ### An alias among the primitive types

The module `std::primitive` of the crate `hr` declares an alias `Id`. -/

namespace Sample

def shadowingAlias : Ident := ⟨⟨"Id", by decide⟩, by decide⟩

def shadowingFile : SourceFile :=
  ⟨"primitive.rs", "hr::std::primitive",
    [.alias shadowingAlias (PathWord.type (.ofIdent ⟨⟨"u32", by decide⟩, by decide⟩))]⟩

def shadowingCatalog : Catalog := Catalog.ofFiles [shadowingFile]

/-- The type `std::primitive::Id`, as written in the root of the crate. -/
def shadowedType : WrittenType :=
  ⟨"hr", .path (.mk false [.plain (.ofIdent ⟨⟨"std", by decide⟩, by decide⟩),
    .plain (.ofIdent ⟨⟨"primitive", by decide⟩, by decide⟩)] (.plain (.ofIdent shadowingAlias)))⟩

/-- The path leads to the alias, and the target of the alias is a scalar. Still the path has none,
since it is a path into the scope of the primitive types. -/
theorem scalar?_of_shadowing :
    (∃ e, ReflTransGen shadowingCatalog.Replaces shadowedType e ∧
        e.scalar? = some (.integer .u32)) ∧
      shadowingCatalog.scalar? shadowedType.scope shadowedType.type = none := by
  have hname : shadowedType.scalar? = none := by decide
  have hstep : ∃ found, shadowingCatalog.aliasOf? shadowedType = some found ∧
      WrittenType.scalar? ⟨found.scope, found.target⟩ = some (.integer .u32) :=
    ⟨_, rfl, by decide⟩
  obtain ⟨found, hfound, hscalar⟩ := hstep
  refine ⟨⟨_, .single ⟨hname, found, hfound, rfl⟩, hscalar⟩, ?_⟩
  decide +kernel

end Sample

end Entrypoint
