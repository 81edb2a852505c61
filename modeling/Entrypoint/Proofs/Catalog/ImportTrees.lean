import Entrypoint.Proofs.Catalog.Tables

/-! Imports against the branches of their trees. Each branch of an import tree leads over names to a
name, to a name with a local name, or to everything there; the last brings in nothing. The others
bring in one import each, whose path is made absolute in the catalogue as it is before the import. -/

namespace Entrypoint

open PathWord (spell)

/-- What an import tree branches to. -/
inductive UseLeaf
  | name (name : PathWord)
  | renamed (name : PathWord) (localName : Word)
  | all

/-- A branch of an import tree: the names that lead to a leaf. -/
structure UseBranch where
  above : List PathWord
  leaf : UseLeaf

/-- The branch below a path. -/
def UseBranch.under (above : List PathWord) (branch : UseBranch) : UseBranch :=
  { branch with above := above ++ branch.above }

namespace UseTree

mutual

/-- The branches of an import tree, from left to right. -/
def branches : UseTree → List UseBranch
  | .path first rest => (branches rest).map (·.under [first])
  | .name last => [⟨[], .name last⟩]
  | .renamed last localName => [⟨[], .renamed last localName⟩]
  | .group trees => branchesAll trees
  | .all => [⟨[], .all⟩]

/-- The branches of trees in a group. -/
def branchesAll : List UseTree → List UseBranch
  | [] => []
  | tree :: rest => branches tree ++ branchesAll rest

end

end UseTree

namespace Catalog

variable {c c' : Catalog} {scope name : String} {above : List PathWord} {branch : UseBranch}

/-- The path of a name below others, of which the catalogue makes the scope absolute. -/
def pathBelow (c : Catalog) (scope : String) (above : List PathWord) (name : PathWord) : String :=
  (QualifiedName.mk (if above = [] then "" else c.absoluteScope scope (spell above)) name.text).path

/-- **What a branch brings into a scope.** The name `self` alone stands for the name above it. -/
def importOfBranch? (c : Catalog) (scope : String) : UseBranch → Option CatalogImport
  | ⟨above, .name name⟩ =>
    if name.text = "self" then
      above.getLast?.map fun parent =>
        ⟨scope, parent.text, c.pathBelow scope above.dropLast parent⟩
    else some ⟨scope, name.text, c.pathBelow scope above name⟩
  | ⟨above, .renamed name localName⟩ =>
    some ⟨scope, localName.text, c.pathBelow scope above name⟩
  | ⟨_, .all⟩ => none

/-- What a tree brings into a scope, from left to right. -/
def importsOfTree (c : Catalog) (scope : String) (tree : UseTree) : List CatalogImport :=
  tree.branches.filterMap (c.importOfBranch? scope)

theorem absolutePath_spell (c : Catalog) (scope : String) (above : List PathWord)
    (name : PathWord) :
    c.absolutePath scope (spell (above ++ [name])) = c.pathBelow scope above name := by
  by_cases h : above = []
  · subst h
    have htext : spell [name] = name.text := by simp [spell]
    rw [List.nil_append, htext, absolutePath, PathWord.cutLast_text]
    rfl
  · rw [absolutePath, PathWord.cutLast_spell h, pathBelow, if_neg h]
    simp only [String.ofList_toList]

/-- The import of a binding as written. -/
def importOfBinding (c : Catalog) (scope : String) (binding : String × String) : CatalogImport :=
  ⟨scope, binding.1, c.absolutePath scope binding.2⟩

end Catalog

namespace UseTree

open Catalog (importOfBinding importOfBranch?)

variable {c : Catalog} {scope : String}

theorem filterMap_under (above names : List PathWord) (branches : List UseBranch) :
    (branches.map (·.under names)).filterMap (fun b => c.importOfBranch? scope (b.under above)) =
      branches.filterMap fun b => c.importOfBranch? scope (b.under (above ++ names)) := by
  rw [List.filterMap_map]
  refine congrArg (List.filterMap · branches) (funext fun b => ?_)
  simp only [Function.comp_apply, UseBranch.under, List.append_assoc]

mutual

/-- The bindings of a tree are the imports of its branches. -/
theorem map_bindings (above : List PathWord) : (tree : UseTree) →
    (tree.bindings (above.map (·.text))).map (c.importOfBinding scope) =
      tree.branches.filterMap fun b => c.importOfBranch? scope (b.under above)
  | .path first rest => by
    have happend : above.map (·.text) ++ [first.text] = (above ++ [first]).map (·.text) := by simp
    rw [bindings, branches, filterMap_under, happend]
    exact map_bindings (above ++ [first]) rest
  | .name last => by
    have happend : above.map (·.text) ++ [last.text] = (above ++ [last]).map (·.text) := by simp
    rw [bindings, branches, happend]
    simp only [UseBranch.under, List.append_nil, List.filterMap_cons, List.filterMap_nil,
      Catalog.importOfBranch?]
    split
    · rcases List.eq_nil_or_concat above with rfl | ⟨names, parent, rfl⟩
      · rfl
      · rw [List.concat_eq_append]
        simp [importOfBinding, pathText, ← c.absolutePath_spell, spell]
    · simp [importOfBinding, pathText, ← c.absolutePath_spell, spell]
  | .renamed last localName => by
    have happend : above.map (·.text) ++ [last.text] = (above ++ [last]).map (·.text) := by simp
    rw [bindings, branches, happend]
    simp only [UseBranch.under, List.append_nil, List.filterMap_cons, List.filterMap_nil,
      Catalog.importOfBranch?, ← c.absolutePath_spell]
    rfl
  | .group trees => by
    rw [bindings, branches]
    exact map_bindingsAll above trees
  | .all => rfl

theorem map_bindingsAll (above : List PathWord) : (trees : List UseTree) →
    (bindingsAll (above.map (·.text)) trees).map (c.importOfBinding scope) =
      (branchesAll trees).filterMap fun b => c.importOfBranch? scope (b.under above)
  | [] => rfl
  | tree :: rest => by
    rw [bindingsAll, branchesAll, List.map_append, List.filterMap_append,
      map_bindings above tree, map_bindingsAll above rest]

end

end UseTree

namespace Catalog

variable {c : Catalog} {scope name : String} {above : List PathWord} {branch : UseBranch}
  {tree : UseTree} {i : CatalogImport}

theorem absolutePath_add_binding (c : Catalog) (scope name written : String) :
    (c.add (.binding scope name written)).absolutePath = c.absolutePath := by
  funext current path
  have hscope : (c.add (.binding scope name written)).absoluteScope current =
      c.absoluteScope current := by
    funext inside
    exact absoluteScope_eq_iff.mpr fun _ _ => rfl
  rw [absolutePath, absolutePath, hscope]

/-- Bindings change nothing that paths are made absolute against. -/
theorem foldl_add_bindings (c : Catalog) (scope : String) (bindings : List (String × String)) :
    (bindings.map fun b => Declaration.binding scope b.1 b.2).foldl add c =
      { c with imports := (bindings.map (c.importOfBinding scope)).reverse ++ c.imports } := by
  induction bindings generalizing c with
  | nil => rfl
  | cons b bindings ih =>
    have hsame : (c.add (.binding scope b.1 b.2)).importOfBinding scope =
        c.importOfBinding scope := by
      funext b'
      rw [importOfBinding, absolutePath_add_binding]
      rfl
    rw [List.map_cons, List.foldl_cons, ih, hsame, List.map_cons, List.reverse_cons,
      List.append_assoc]
    rfl

theorem foldl_add_useTree (c : Catalog) (scope : String) (tree : UseTree) :
    ((Item.imports tree).declarations scope).foldl add c =
      { c with imports := (c.importsOfTree scope tree).reverse ++ c.imports } := by
  have hbindings : (tree.bindings []).map (c.importOfBinding scope) = c.importsOfTree scope tree :=
    tree.map_bindings []
  rw [Item.declarations, foldl_add_bindings, hbindings]

theorem scope_of_importOfBranch? (h : c.importOfBranch? scope branch = some i) :
    i.scope = scope := by
  obtain ⟨above, leaf⟩ := branch
  cases leaf with
  | name last =>
    rw [importOfBranch?] at h
    split at h
    · obtain ⟨parent, -, rfl⟩ := Option.map_eq_some_iff.mp h
      rfl
    · cases h
      rfl
  | renamed last localName =>
    cases h
    rfl
  | all => cases h

theorem scope_of_mem_importsOfTree (h : i ∈ c.importsOfTree scope tree) : i.scope = scope := by
  obtain ⟨branch, -, hbranch⟩ := List.mem_filterMap.mp h
  exact scope_of_importOfBranch? hbranch

/-- A branch brings in one import, unless it leads to everything or to `self` below nothing. -/
theorem importOfBranch?_eq_none_iff : c.importOfBranch? scope branch = none ↔
    branch.leaf = .all ∨ branch.above = [] ∧ ∃ last, branch.leaf = .name last ∧ last.text = "self" := by
  obtain ⟨above, leaf⟩ := branch
  cases leaf with
  | name last =>
    rw [importOfBranch?]
    split
    · rename_i hself
      simp [hself]
    · rename_i hself
      simp [hself]
  | renamed last localName => simp [importOfBranch?]
  | all => simp [importOfBranch?]

/-- What a tree brings into its scope counts before what was there, a later branch before an earlier
one. -/
theorem importOf?_of_useTree (c : Catalog) (scope name : String) (tree : UseTree) :
    (((Item.imports tree).declarations scope).foldl add c).importOf? scope name =
      (((c.importsOfTree scope tree).reverse.find? (·.localName == name)).map (·.path)).or
        (c.importOf? scope name) := by
  have hfind : (c.importsOfTree scope tree).reverse.find?
      (fun i => i.scope == scope && i.localName == name) =
        (c.importsOfTree scope tree).reverse.find? (·.localName == name) := by
    rw [← List.head?_filter, ← List.head?_filter]
    refine congrArg List.head? (List.filter_congr fun i hi => ?_)
    rw [scope_of_mem_importsOfTree (List.mem_reverse.mp hi), beq_self_eq_true, Bool.true_and]
  rw [foldl_add_useTree, importOf?, List.find?_append, hfind, Option.map_or]
  rfl

theorem importOf?_of_useTree_of_ne {other : String} (h : other ≠ scope) :
    (((Item.imports tree).declarations scope).foldl add c).importOf? other name =
      c.importOf? other name := by
  refine importOf?_foldl_add (fun d hd hbound => ?_) c
  obtain ⟨b, -, rfl⟩ := List.mem_map.mp hd
  exact h (Prod.mk.inj (Option.some.inj hbound)).1.symm

/-- A renamed `self` brings in a child of what `self` alone brings in. -/
theorem pathBelow_self_ne {parent last : PathWord} (hself : last.text = "self")
    (hparent : parent.text ≠ "self") :
    c.pathBelow scope (above ++ [parent]) last ≠ c.pathBelow scope above parent := by
  intro heq
  have hname := (QualifiedName.path_inj heq).2
  exact hparent (hname.symm.trans hself)

/-- **What an import brings in.** An import of a scope adds one entry for each branch of its tree, and
nothing else. A branch to everything adds none, and `self` below nothing none. The last branch with a
local name decides what the name means in the scope until it is bound again, and other scopes keep
their names. A renamed `self` is looked for as a child of the path that `self` alone stands for. -/
theorem imports_of_useTree (before after : List Declaration) (scope : String) (tree : UseTree) :
    ofDeclarations (before ++ (Item.imports tree).declarations scope) =
      { ofDeclarations before with
        imports := ((ofDeclarations before).importsOfTree scope tree).reverse ++
          (ofDeclarations before).imports } ∧
    (∀ branch ∈ tree.branches, (ofDeclarations before).importOfBranch? scope branch = none ↔
      branch.leaf = .all ∨
        branch.above = [] ∧ ∃ last, branch.leaf = .name last ∧ last.text = "self") ∧
    (∀ name, (∀ d ∈ after, d.bound? ≠ some (scope, name)) →
      (ofDeclarations (before ++ (Item.imports tree).declarations scope ++ after)).importOf?
          scope name =
        ((((ofDeclarations before).importsOfTree scope tree).reverse.find?
          (·.localName == name)).map (·.path)).or ((ofDeclarations before).importOf? scope name)) ∧
    (∀ other name, other ≠ scope →
      (ofDeclarations (before ++ (Item.imports tree).declarations scope)).importOf? other name =
        (ofDeclarations before).importOf? other name) ∧
    ∀ (above : List PathWord) (parent last : PathWord), last.text = "self" → parent.text ≠ "self" →
      (ofDeclarations before).pathBelow scope (above ++ [parent]) last ≠
        (ofDeclarations before).pathBelow scope above parent := by
  have hitem : ofDeclarations (before ++ (Item.imports tree).declarations scope) =
      ((Item.imports tree).declarations scope).foldl add (ofDeclarations before) :=
    List.foldl_append
  refine ⟨hitem.trans (foldl_add_useTree _ scope tree), fun branch _ => importOfBranch?_eq_none_iff,
    fun name hafter => ?_, fun other name hother => ?_, fun above parent last => pathBelow_self_ne⟩
  · rw [ofDeclarations, List.foldl_append, importOf?_foldl_add hafter]
    exact (congrArg (importOf? · scope name) hitem).trans
      (importOf?_of_useTree (ofDeclarations before) scope name tree)
  · rw [hitem]
    exact importOf?_of_useTree_of_ne hother

end Catalog

/-! ### The name `self` with and without a local name -/

namespace Sample

def crateWord : PathWord := ⟨⟨"crate", by decide⟩, .inr (by decide)⟩

def selfWord : PathWord := ⟨⟨"self", by decide⟩, .inr (by decide)⟩

def moduleName : Ident := ⟨⟨"mo", by decide⟩, by decide⟩

/-- The import of `crate::mo::{self, self as l}`. -/
def selfTree : UseTree :=
  .path crateWord (.path (.ofIdent moduleName)
    (.group [.name selfWord, .renamed selfWord ⟨"l", by decide⟩]))

/-- The module is bound to its name, and the local name to a child that it has not. -/
theorem imports_of_selfTree :
    (Catalog.ofDeclarations ((Item.imports selfTree).declarations "e::h")).importOf? "e::h" "mo" =
        some "e::mo" ∧
      (Catalog.ofDeclarations ((Item.imports selfTree).declarations "e::h")).importOf? "e::h" "l" =
        some "e::mo::self" ∧
      (Catalog.ofDeclarations ((Item.imports selfTree).declarations "e::h")).importOf? "e" "mo" =
        none ∧
      Catalog.empty.pathBelow "e::h" [crateWord, .ofIdent moduleName] selfWord ≠
        Catalog.empty.pathBelow "e::h" [crateWord] (.ofIdent moduleName) := by
  obtain ⟨-, -, himport, hother, hself⟩ := Catalog.imports_of_useTree [] [] "e::h" selfTree
  rw [List.nil_append] at hother
  simp only [List.nil_append, List.append_nil] at himport
  refine ⟨?_, ?_, hother "e" "mo" (by decide), ?_⟩
  · exact (himport "mo" nofun).trans (by decide)
  · exact (himport "l" nofun).trans (by decide)
  · exact hself [crateWord] (.ofIdent moduleName) selfWord (by decide) (by decide)

end Sample

end Entrypoint
