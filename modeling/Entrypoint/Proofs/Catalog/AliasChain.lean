import Entrypoint.Proofs.Catalog.Tables

/-! Chains of aliases as a relation. From a type written in a scope the chain goes to the target of
the alias that is found there, and ends at a name that is a scalar by itself. The search keeps the
aliases it passed and gives up when it meets one again. A chain that ends never meets an alias
twice, since what is left of it gets shorter, so the search finds exactly the scalars at the ends of
chains. -/

namespace Entrypoint.Catalog

section

variable {c : Catalog} {scope : String} {type : TypeExpr} {written : WrittenName}
  {found : CatalogAlias} {resolution : Resolution} {visited : List String}

theorem resolveFrom_of_builtin? (hname : type.writtenName? = some written)
    (h : builtin? written = some resolution) : c.resolveFrom visited scope type = resolution := by
  rw [resolveFrom, hname]
  simp only [h]

theorem resolveFrom_of_findAlias?_eq_none (hname : type.writtenName? = some written)
    (hfree : builtin? written = none) (h : c.findAlias? scope written = none) :
    c.resolveFrom visited scope type = .unknown := by
  rw [resolveFrom, hname]
  simp only [hfree]
  split
  · rfl
  · rename_i found hfound
    cases h.symm.trans hfound

theorem resolveFrom_of_findAlias? (hname : type.writtenName? = some written)
    (hfree : builtin? written = none) (h : c.findAlias? scope written = some found) :
    c.resolveFrom visited scope type = if found.key ∈ visited then .circular found.key
      else c.resolveFrom (found.key :: visited) found.scope found.target := by
  rw [resolveFrom, hname]
  simp only [hfree]
  split
  · rename_i hnone
    cases h.symm.trans hnone
  · rename_i found' hfound'
    cases h.symm.trans hfound'
    rfl

end

/-- The chain of aliases from a type written in a scope ends at a scalar after so many steps. -/
inductive Reaches (c : Catalog) : String → TypeExpr → Nat → Scalar → Prop
  | builtin {scope : String} {type : TypeExpr} {written : WrittenName} {s : Scalar}
      (hname : type.writtenName? = some written)
      (hscalar : builtin? written = some (.scalar s)) : Reaches c scope type 0 s
  | step {scope : String} {type : TypeExpr} {written : WrittenName} {found : CatalogAlias}
      {n : Nat} {s : Scalar} (hname : type.writtenName? = some written)
      (hfree : builtin? written = none) (hfound : c.findAlias? scope written = some found)
      (rest : Reaches c found.scope found.target n s) : Reaches c scope type (n + 1) s

variable {c : Catalog} {scope scope' : String} {type : TypeExpr} {written written' : WrittenName}
  {found a b : CatalogAlias} {s s' : Scalar} {n n' : Nat} {visited : List String}

theorem Reaches.unique (h : c.Reaches scope type n s) (h' : c.Reaches scope type n' s') :
    n = n' ∧ s = s' := by
  induction h generalizing n' with
  | builtin hname hscalar =>
    cases h' with
    | builtin hname' hscalar' =>
      cases hname.symm.trans hname'
      cases hscalar.symm.trans hscalar'
      exact ⟨rfl, rfl⟩
    | step hname' hfree' =>
      cases hname.symm.trans hname'
      cases hscalar.symm.trans hfree'
  | step hname hfree hfound _ ih =>
    cases h' with
    | builtin hname' hscalar' =>
      cases hname.symm.trans hname'
      cases hfree.symm.trans hscalar'
    | step hname' _ hfound' rest' =>
      cases hname.symm.trans hname'
      cases hfound.symm.trans hfound'
      obtain ⟨rfl, rfl⟩ := ih rest'
      exact ⟨rfl, rfl⟩

theorem exists_reaches_of_resolveFrom (h : c.resolveFrom visited scope type = .scalar s) :
    ∃ n, c.Reaches scope type n s := by
  induction visited, scope, type using resolveFrom.induct c with
  | case1 visited scope type hname =>
    rw [resolveFrom, hname] at h
    cases h
  | case2 visited scope type written hname resolution hbuiltin =>
    rw [resolveFrom_of_builtin? hname hbuiltin] at h
    exact ⟨0, .builtin hname (h ▸ hbuiltin)⟩
  | case3 visited scope type written hname hfree hnone =>
    rw [resolveFrom_of_findAlias?_eq_none hname hfree hnone] at h
    cases h
  | case4 visited scope type written hname hfree found hfound hseen =>
    rw [resolveFrom_of_findAlias? hname hfree hfound, if_pos hseen] at h
    cases h
  | case5 visited scope type written hname hfree found hfound hfresh ih =>
    rw [resolveFrom_of_findAlias? hname hfree hfound, if_neg hfresh] at h
    obtain ⟨n, hrest⟩ := ih h
    exact ⟨n + 1, .step hname hfree hfound hrest⟩

/-- The aliases of a catalogue are declared under names. -/
def AliasesNamed (c : Catalog) : Prop := ∀ a ∈ c.aliases, ∃ name : PathWord, a.name = name.text

theorem AliasesNamed.found_unique (H : c.AliasesNamed) (ha : c.findAlias? scope written = some a)
    (hb : c.findAlias? scope' written' = some b) (hkey : a.key = b.key) : a = b := by
  obtain ⟨name, hname⟩ := H a (findAlias?_mem ha)
  obtain ⟨name', hname'⟩ := H b (findAlias?_mem hb)
  have hsame : a.scope = b.scope ∧ a.name = b.name := by
    have hcut := congrArg QualifiedName.ofPath hkey
    rw [CatalogAlias.key, CatalogAlias.key, hname, hname', QualifiedName.ofPath_child,
      QualifiedName.ofPath_child] at hcut
    rw [hname, hname']
    exact QualifiedName.mk.inj hcut
  have hwhere := List.find?_some ha
  have hwhere' := List.find?_some hb
  simp only [Bool.and_eq_true, beq_iff_eq] at hwhere hwhere'
  rw [findAlias?, ← hwhere.1, ← hwhere.2, hsame.1, hsame.2, hwhere'.1, hwhere'.2] at ha
  exact Option.some.inj (ha.symm.trans hb)

/-- At least so many steps were left of the chain at each of the aliases that were passed. -/
def Passed (c : Catalog) (visited : List String) (n : Nat) : Prop :=
  ∀ key ∈ visited, ∃ scope written a m s, c.findAlias? scope written = some a ∧ a.key = key ∧
    c.Reaches a.scope a.target m s ∧ n ≤ m

/-- The search follows a chain to its end. -/
theorem Reaches.resolveFrom_eq (h : c.Reaches scope type n s) (H : c.AliasesNamed)
    (hpassed : c.Passed visited n) : c.resolveFrom visited scope type = .scalar s := by
  induction h generalizing visited with
  | builtin hname hscalar => exact resolveFrom_of_builtin? hname hscalar
  | @step scope type written found n s hname hfree hfound hrest ih =>
    -- An alias that was passed has a longer chain than what is left, so this one was not.
    have hfresh : found.key ∉ visited := by
      intro hseen
      obtain ⟨scope', written', a, m, s', ha, hkey, hchain, hle⟩ := hpassed _ hseen
      cases H.found_unique ha hfound hkey
      have hlength := (hrest.unique hchain).1
      omega
    have hnext : c.Passed (found.key :: visited) n := by
      refine List.forall_mem_cons.mpr ⟨?_, fun key hkey => ?_⟩
      · exact ⟨scope, written, found, n, s, hfound, rfl, hrest, Nat.le_refl n⟩
      · obtain ⟨scope', written', a, m, s', ha, hkey, hchain, hle⟩ := hpassed key hkey
        exact ⟨scope', written', a, m, s', ha, hkey, hchain, Nat.le_of_succ_le hle⟩
    rw [resolveFrom_of_findAlias? hname hfree hfound, if_neg hfresh]
    exact ih hnext

/-- A type stands for a scalar exactly if its chain of aliases ends there. -/
theorem AliasesNamed.scalar?_eq_some_iff (H : c.AliasesNamed) :
    c.scalar? scope type = some s ↔ ∃ n, c.Reaches scope type n s := by
  constructor
  · intro h
    rw [scalar?] at h
    cases hresolved : c.resolve scope type with
    | scalar scalar =>
      rw [hresolved] at h
      cases h
      exact exists_reaches_of_resolveFrom hresolved
    | unknown | circular =>
      rw [hresolved] at h
      cases h
  · rintro ⟨n, h⟩
    rw [scalar?, resolve, h.resolveFrom_eq H fun _ hkey => absurd hkey List.not_mem_nil]
    rfl

theorem aliasesNamed_ofDeclarations {declarations : List Declaration}
    (h : ∀ d ∈ declarations, d.IsNamed) : (ofDeclarations declarations).AliasesNamed := by
  intro a ha
  rw [aliases_ofDeclarations] at ha
  obtain ⟨d, hd, hentry⟩ := List.mem_filterMap.mp ha
  have hnamed := h d hd
  cases d with
  | «alias» entry =>
    cases hentry
    exact hnamed
  | record | function | methods | binding => cases hentry

/-- If in two catalogues every name is found to mean the same alias, or else has the same scalar,
the scalars of the one are those of the other. -/
theorem AliasesNamed.scalar?_of_agree {c' : Catalog} (H : c.AliasesNamed) (H' : c'.AliasesNamed)
    (hagree : ∀ scope type written, type.writtenName? = some written →
      c.findAlias? scope written = c'.findAlias? scope written ∨
        c.scalar? scope type = c'.scalar? scope type)
    (h : c.scalar? scope type = some s) : c'.scalar? scope type = some s := by
  obtain ⟨n, hchain⟩ := H.scalar?_eq_some_iff.mp h
  clear h
  induction hchain with
  | builtin hname hscalar => exact H'.scalar?_eq_some_iff.mpr ⟨0, .builtin hname hscalar⟩
  | @step scope type written found n s hname hfree hfound hrest ih =>
    rcases hagree scope type written hname with hsame | hsame
    · obtain ⟨m, hrest'⟩ := H'.scalar?_eq_some_iff.mp ih
      exact H'.scalar?_eq_some_iff.mpr ⟨m + 1, .step hname hfree (hsame ▸ hfound) hrest'⟩
    · rw [← hsame]
      exact H.scalar?_eq_some_iff.mpr ⟨n + 1, .step hname hfree hfound hrest⟩

theorem AliasesNamed.scalar?_congr {c' : Catalog} (H : c.AliasesNamed) (H' : c'.AliasesNamed)
    (hagree : ∀ scope type written, type.writtenName? = some written →
      c.findAlias? scope written = c'.findAlias? scope written ∨
        c.scalar? scope type = c'.scalar? scope type) :
    c.scalar? scope type = c'.scalar? scope type := by
  refine Option.ext fun s => ⟨H.scalar?_of_agree H' hagree, H'.scalar?_of_agree H ?_⟩
  exact fun scope type written hname => (hagree scope type written hname).imp Eq.symm Eq.symm

end Entrypoint.Catalog
