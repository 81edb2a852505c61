import Entrypoint.Proofs.Catalog.AliasChain
import Entrypoint.Proofs.Catalog.ImportedAlias
import Mathlib.Data.List.Find
import Mathlib.Data.List.Nodup
import Mathlib.Data.List.Perm.Basic

/-! The order of the files of a catalogue. The tables of structs and aliases are the same in every
order, and where names are distinct so is what is found in them. An import is different: its path
was made absolute with what was declared by then. A path that may begin at a child scope begins there
only if something of the child came before the import, so two orders give one path exactly if
something of the child comes before the import in both or in neither. -/

namespace Entrypoint

open Scope (IsPath)

namespace Catalog

/-- The structs of a catalogue differ in their names, the aliases and the imports in their scopes
or their names. -/
structure Distinct (c : Catalog) : Prop where
  structs : (c.structs.map (·.name)).Nodup
  aliases : (c.aliases.map fun a => (a.scope, a.name)).Nodup
  imports : (c.imports.map fun i => (i.scope, i.localName)).Nodup

/-- The path that a scope imports under a name may begin at a child scope, and something of the
child is declared before the import. -/
def SeesChild (declarations : List Declaration) (scope name : String) : Prop :=
  ∃ before written after below, declarations = before ++ .binding scope name written :: after ∧
    childOfPath? scope written = some below ∧ (ofDeclarations before).declaresIn below = true

variable {c c' : Catalog} {scope name current written : String} {key : String × String}
  {d : Declaration} {declarations declarations' before after : List Declaration}

/-! ### Imports -/

theorem bound?_ne_of_nodup (hkeys : ((before ++ d :: after).filterMap Declaration.bound?).Nodup)
    (hd : d.bound? = some key) :
    (∀ e ∈ before, e.bound? ≠ some key) ∧ ∀ e ∈ after, e.bound? ≠ some key := by
  rw [List.Nodup, List.pairwise_filterMap, List.pairwise_append, List.pairwise_cons] at hkeys
  obtain ⟨_, ⟨hafter, _⟩, hbefore⟩ := hkeys
  exact ⟨fun e he hkey => hbefore e he d List.mem_cons_self key hkey key hd rfl,
    fun e he hkey => hafter e he key hd key hkey rfl⟩

theorem SeesChild.bound (h : SeesChild declarations scope name) :
    (scope, name) ∈ declarations.filterMap Declaration.bound? := by
  obtain ⟨before, written, after, _, rfl, _⟩ := h
  exact mem_bound?_iff.mpr ⟨written, List.mem_append_right _ List.mem_cons_self⟩

/-- Where no name is bound twice, an import sees a child scope exactly if something of the child is
declared before it. -/
theorem seesChild_iff
    (hkeys : ((before ++ .binding scope name written :: after).filterMap Declaration.bound?).Nodup)
    (hpath : IsPath written) :
    SeesChild (before ++ .binding scope name written :: after) scope name ↔
      ∃ below, childOfPath? scope written = some below ∧
        (ofDeclarations before).declaresIn below = true := by
  refine ⟨?_, fun ⟨below, hbelow, hdeclares⟩ =>
    ⟨before, written, after, below, rfl, hbelow, hdeclares⟩⟩
  rintro ⟨before', written', after', below, heq, hbelow, hdeclares⟩
  obtain ⟨hbefore, hafter⟩ := bound?_ne_of_nodup hkeys rfl
  have hmem : .binding scope name written' ∈ before ++ .binding scope name written :: after :=
    heq ▸ List.mem_append_right _ List.mem_cons_self
  have hwritten : written' = written := by
    rcases List.mem_append.mp hmem with hmem | hmem
    · exact absurd rfl (hbefore _ hmem)
    rcases List.mem_cons.mp hmem with hmem | hmem
    · exact (Declaration.binding.inj hmem).2.2
    · exact absurd rfl (hafter _ hmem)
  subst hwritten
  -- Both ways to see the binding give the one path that is imported.
  have himport : (ofDeclarations (before ++ .binding scope name written' :: after)).importOf?
      scope name = some ((ofDeclarations before).absolutePath scope written') :=
    importOf?_of_binding hafter
  rw [heq] at himport hkeys
  rw [importOf?_of_binding (bound?_ne_of_nodup hkeys rfl).2] at himport
  have hsame := (absolutePath_eq_iff hpath).mp (Option.some.inj himport) below hbelow
  exact ⟨below, hbelow, hsame ▸ hdeclares⟩

/-- Two orders of declarations import one path under a name exactly if something of the child scope
that it may begin at comes before the import in both orders or in neither. -/
theorem importOf?_eq_iff_of_perm (hperm : declarations.Perm declarations')
    (hkeys : (declarations.filterMap Declaration.bound?).Nodup)
    (hnamed : ∀ d ∈ declarations, d.IsNamed) :
    (ofDeclarations declarations).importOf? scope name =
        (ofDeclarations declarations').importOf? scope name ↔
      (SeesChild declarations scope name ↔ SeesChild declarations' scope name) := by
  have hkeys' := ((hperm.filterMap Declaration.bound?).nodup_iff).mp hkeys
  by_cases hbound : (scope, name) ∈ declarations.filterMap Declaration.bound?
  · obtain ⟨written, hmem⟩ := mem_bound?_iff.mp hbound
    have hpath : IsPath written := hnamed _ hmem
    obtain ⟨before, after, rfl⟩ := List.append_of_mem hmem
    obtain ⟨before', after', rfl⟩ := List.append_of_mem (hperm.mem_iff.mp hmem)
    rw [importOf?_of_binding (bound?_ne_of_nodup hkeys rfl).2,
      importOf?_of_binding (bound?_ne_of_nodup hkeys' rfl).2, Option.some_inj,
      absolutePath_eq_iff hpath, seesChild_iff hkeys hpath, seesChild_iff hkeys' hpath]
    cases childOfPath? scope written with
    | none => simp
    | some below => simp
  · have hbound' := mt (hperm.filterMap Declaration.bound?).mem_iff.mpr hbound
    rw [importOf?_eq_none_iff.mpr hbound, importOf?_eq_none_iff.mpr hbound']
    exact iff_of_true rfl (iff_of_false (mt SeesChild.bound hbound) (mt SeesChild.bound hbound'))

/-! ### Structs and aliases -/

/-- The tables of one catalogue are those of another, in some order. -/
structure SameTables (c c' : Catalog) : Prop where
  structs : c.structs.Perm c'.structs
  aliases : c.aliases.Perm c'.aliases

theorem SameTables.ofDeclarations (hperm : declarations.Perm declarations') :
    SameTables (ofDeclarations declarations) (ofDeclarations declarations') where
  structs := by
    rw [structs_ofDeclarations, structs_ofDeclarations]
    exact hperm.filterMap _
  aliases := by
    rw [aliases_ofDeclarations, aliases_ofDeclarations]
    exact hperm.filterMap _

theorem SameTables.declaresIn_eq (H : SameTables c c') (scope : String) :
    c.declaresIn scope = c'.declaresIn scope := by
  rw [declaresIn, declaresIn, H.structs.any_eq, H.aliases.any_eq]

theorem SameTables.pointsAlike_qualified (H : SameTables c c') (inside : String) :
    PointsAlike c c' scope (.qualified inside name) :=
  absoluteScope_eq_iff.mpr fun below _ => H.declaresIn_eq below

theorem SameTables.typeName?_eq (H : SameTables c c') (hdistinct : c.Distinct)
    {written : WrittenName} (h : PointsAlike c c' scope written) :
    c.typeName? scope written = c'.typeName? scope written := by
  have hsame : ∀ s ∈ c.structs, ∀ t ∈ c.structs, s.name = t.name → s = t := fun s hs t ht =>
    List.inj_on_of_nodup_map hdistinct.structs hs ht
  have hexact : c.structs.find? (·.qualifiedName.path == c'.exactPath scope written) =
      c'.structs.find? (·.qualifiedName.path == c'.exactPath scope written) := by
    refine List.find?_eq_find?_of_perm H.structs fun s hs t ht => ?_
    have hcut := congrArg QualifiedName.ofPath
      ((beq_iff_eq.mp hs.2).trans (beq_iff_eq.mp ht.2).symm)
    rw [s.ofPath_path, t.ofPath_path] at hcut
    exact hsame s hs.1 t ht.1 (congrArg QualifiedName.name hcut)
  have hname : c.structs.find? (·.name == written.name) =
      c'.structs.find? (·.name == written.name) := by
    refine List.find?_eq_find?_of_perm H.structs fun s hs t ht => ?_
    exact hsame s hs.1 t ht.1 ((beq_iff_eq.mp hs.2).trans (beq_iff_eq.mp ht.2).symm)
  refine h.typeName?_eq ?_
  simp only [findStruct?, h.exactPath_eq, hexact, hname]

theorem SameTables.findAlias?_eq (H : SameTables c c') (hdistinct : c.Distinct)
    {written : WrittenName} (h : PointsAlike c c' scope written) :
    c.findAlias? scope written = c'.findAlias? scope written := by
  rw [findAlias?, findAlias?, h.aliasScope_eq]
  refine List.find?_eq_find?_of_perm H.aliases fun a ha b hb => ?_
  refine List.inj_on_of_nodup_map hdistinct.aliases ha.1 hb.1 ?_
  obtain ⟨hscope, hname⟩ := Bool.and_eq_true_iff.mp ha.2
  obtain ⟨hscope', hname'⟩ := Bool.and_eq_true_iff.mp hb.2
  rw [beq_iff_eq.mp hscope, beq_iff_eq.mp hname, beq_iff_eq.mp hscope', beq_iff_eq.mp hname']

/-! ### Type names of imports -/

theorem typeName?_of_import {path : String} (himport : c.importOf? scope name = some path)
    (hname : ∀ s ∈ c.structs, s.name ≠ name) :
    c.typeName? scope (.bare name) = some (.ofPath path) := by
  by_cases hpoints : c.PointsToStruct scope (.bare name)
  · rw [hpoints.typeName?_eq, exactPath, himport, Option.getD_some]
  · have hnone : c.structs.find? (·.name == name) = none :=
      List.find?_eq_none.mpr fun s hs heq => hname s hs (beq_iff_eq.mp heq)
    have hfind : c.findStruct? scope (.bare name) = none :=
      (findStruct?_of_not_pointsToStruct hpoints).trans hnone
    rw [typeName?, hfind]
    exact congrArg (Option.map QualifiedName.ofPath) himport

/-- Where two orders import a name that is no struct's under different paths, it names different
types. -/
theorem typeName?_ne_of_importOf?_ne (hperm : declarations.Perm declarations')
    (hnamed : ∀ d ∈ declarations, d.IsNamed)
    (hne : (ofDeclarations declarations).importOf? scope name ≠
      (ofDeclarations declarations').importOf? scope name)
    (hfree : ∀ s ∈ (ofDeclarations declarations).structs, s.name ≠ name) :
    (ofDeclarations declarations).typeName? scope (.bare name) ≠
      (ofDeclarations declarations').typeName? scope (.bare name) := by
  have hkeys := (hperm.filterMap Declaration.bound?).mem_iff (a := (scope, name))
  have htables := SameTables.ofDeclarations hperm
  have hfree' : ∀ s ∈ (ofDeclarations declarations').structs, s.name ≠ name :=
    fun s hs => hfree s (htables.structs.mem_iff.mpr hs)
  have hnamed' : ∀ d ∈ declarations', d.IsNamed := fun d hd => hnamed d (hperm.mem_iff.mpr hd)
  by_cases hbound : (scope, name) ∈ declarations.filterMap Declaration.bound?
  · obtain ⟨path, hpath⟩ := Option.ne_none_iff_exists'.mp
      (mt importOf?_eq_none_iff.mp (not_not_intro hbound))
    obtain ⟨path', hpath'⟩ := Option.ne_none_iff_exists'.mp
      (mt importOf?_eq_none_iff.mp (not_not_intro (hkeys.mp hbound)))
    rw [typeName?_of_import hpath hfree, typeName?_of_import hpath' hfree']
    intro heq
    refine hne ?_
    rw [hpath, hpath', ← path_ofPath_importOf? hnamed hpath,
      ← path_ofPath_importOf? hnamed' hpath', Option.some.inj heq]
  · refine absurd ?_ hne
    rw [importOf?_eq_none_iff.mpr hbound, importOf?_eq_none_iff.mpr (mt hkeys.mpr hbound)]

/-! ### Files in two orders -/

/-- An import sees something of the child scope in one order of the files only. -/
def SeesInOne (files files' : List SourceFile) (scope name : String) : Prop :=
  ¬(SeesChild (files.flatMap SourceFile.declarations) scope name ↔
    SeesChild (files'.flatMap SourceFile.declarations) scope name)

/-- **The order of files.** In a catalogue of distinct names, the order of the files decides about
the imports that may begin at a child scope, and about nothing else. Two orders import one path
under a name unless something of the child scope comes before the import in one of them only. Every
name and every type mean the same in both orders exactly if these imported names do. Where no struct
has such a name, it names different types. -/
theorem agree_of_perm {files files' : List SourceFile} (hperm : files.Perm files')
    (hdistinct : (ofFiles files).Distinct) :
    (∀ scope name, (ofFiles files).importOf? scope name = (ofFiles files').importOf? scope name ↔
      ¬SeesInOne files files' scope name) ∧
    ((∀ scope, (∀ written, (ofFiles files).typeName? scope written =
          (ofFiles files').typeName? scope written) ∧
        ∀ type, (ofFiles files).scalar? scope type = (ofFiles files').scalar? scope type) ↔
      ∀ scope name, SeesInOne files files' scope name →
        (ofFiles files).typeName? scope (.bare name) =
            (ofFiles files').typeName? scope (.bare name) ∧
          ∀ type, type.writtenName? = some (.bare name) →
            (ofFiles files).scalar? scope type = (ofFiles files').scalar? scope type) ∧
    ∀ scope name, SeesInOne files files' scope name →
      (∀ s ∈ (ofFiles files).structs, s.name ≠ name) →
        (ofFiles files).typeName? scope (.bare name) ≠
          (ofFiles files').typeName? scope (.bare name) := by
  have hdeclarations : (files.flatMap SourceFile.declarations).Perm
      (files'.flatMap SourceFile.declarations) := hperm.flatMap fun _ _ => .rfl
  have hnamed : ∀ d ∈ files.flatMap SourceFile.declarations, d.IsNamed := isNamed_of_mem_files
  have hkeys : ((files.flatMap SourceFile.declarations).filterMap Declaration.bound?).Nodup := by
    rw [← keys_imports_ofDeclarations, List.nodup_reverse]
    exact hdistinct.imports
  have htables : SameTables (ofFiles files) (ofFiles files') := .ofDeclarations hdeclarations
  have himports : ∀ scope name, (ofFiles files).importOf? scope name =
      (ofFiles files').importOf? scope name ↔ ¬SeesInOne files files' scope name := by
    intro scope name
    rw [SeesInOne, not_not]
    exact importOf?_eq_iff_of_perm hdeclarations hkeys hnamed
  refine ⟨himports, ⟨fun h scope name _ => ⟨(h scope).1 _, fun type _ => (h scope).2 type⟩,
    fun h scope => ⟨fun written => ?_, fun type => ?_⟩⟩, fun scope name hsees hfree => ?_⟩
  · cases written with
    | qualified inside name =>
      exact htables.typeName?_eq hdistinct (htables.pointsAlike_qualified inside)
    | bare name =>
      by_cases hsees : SeesInOne files files' scope name
      · exact (h scope name hsees).1
      · exact htables.typeName?_eq hdistinct ((himports scope name).mpr hsees)
  · refine (aliasesNamed_ofDeclarations hnamed).scalar?_congr
      (aliasesNamed_ofDeclarations isNamed_of_mem_files) fun scope type written hwritten => ?_
    cases written with
    | qualified inside name =>
      exact .inl (htables.findAlias?_eq hdistinct (htables.pointsAlike_qualified inside))
    | bare name =>
      -- An alias may be another one only behind an import that does, and its scalar is given.
      by_cases hsees : SeesInOne files files' scope name
      · exact .inr ((h scope name hsees).2 type hwritten)
      · exact .inl (htables.findAlias?_eq hdistinct ((himports scope name).mpr hsees))
  · exact typeName?_ne_of_importOf?_ne hdeclarations hnamed
      (mt (himports scope name).mp (not_not_intro hsees)) hfree

end Catalog

/-! ### An import before and after its child

The scope `e` imports the name `A` from its child scope `e::k`, which declares it as an alias of an
integer. -/

namespace Sample

def childFile : SourceFile :=
  ⟨"e/k.rs", "e::k", [.alias integerAlias (PathWord.type (.ofIdent ⟨⟨"i32", by decide⟩, by decide⟩))]⟩

def importingFile : SourceFile :=
  ⟨"e.rs", "e", [.imports (.path (.ofIdent ⟨⟨"k", by decide⟩, by decide⟩)
    (.name (.ofIdent integerAlias)))]⟩

/-- The alias is found only if the child comes before the import. -/
theorem agree_of_perm_import :
    [importingFile, childFile].Perm [childFile, importingFile] ∧
      (Catalog.ofFiles [importingFile, childFile]).Distinct ∧
        Catalog.SeesInOne [importingFile, childFile] [childFile, importingFile] "e" "A" ∧
          (Catalog.ofFiles [importingFile, childFile]).typeName? "e" (.bare "A") ≠
              (Catalog.ofFiles [childFile, importingFile]).typeName? "e" (.bare "A") ∧
            (Catalog.ofFiles [importingFile, childFile]).scalar? "e"
                (PathWord.type (.ofIdent integerAlias)) = none ∧
              (Catalog.ofFiles [childFile, importingFile]).scalar? "e"
                (PathWord.type (.ofIdent integerAlias)) = some (.integer .i32) := by
  have hperm : [importingFile, childFile].Perm [childFile, importingFile] := .swap _ _ _
  have hdistinct : (Catalog.ofFiles [importingFile, childFile]).Distinct :=
    ⟨by decide, by decide, by decide⟩
  obtain ⟨himports, _, htypes⟩ := Catalog.agree_of_perm hperm hdistinct
  have hsees : Catalog.SeesInOne [importingFile, childFile] [childFile, importingFile] "e" "A" := by
    refine not_not.mp (mt (himports "e" "A").mpr ?_)
    decide
  exact ⟨hperm, hdistinct, hsees, htypes "e" "A" hsees (by decide), by decide +kernel,
    by decide +kernel⟩

end Sample

end Entrypoint
