import Entrypoint.Catalog.Lookup
import Entrypoint.Proofs.Catalog.ScopePath

/-! Aliases behind imports. An imported name leads to the scope of the imported path, and there it
means the alias declared under the local name; the last name of the path is not looked at. A name
imported as it is thus resolves as in its own scope. A renamed one resolves to whatever the scope
declares under the new name. -/

namespace Entrypoint

/-- The type that a bare name writes. -/
def PathWord.type (name : PathWord) : TypeExpr := .path (.ofName name)

theorem PathWord.writtenName?_type (name : PathWord) :
    name.type.writtenName? = some (.bare name.text) := rfl

namespace Catalog

variable {catalog : Catalog} {scope source : String} {name localName : PathWord}

/-- The alias that a scope declares under a name. -/
def aliasIn? (catalog : Catalog) (scope name : String) : Option CatalogAlias :=
  catalog.aliases.find? fun a => a.scope == scope && a.name == name

/-- The scalar behind an alias. -/
def aliasScalar? (catalog : Catalog) (found : CatalogAlias) : Option Scalar :=
  (catalog.resolveFrom [found.key] found.scope found.target).scalar?

/-- The scalar behind the alias that a scope declares under a name. -/
def declaredScalar? (catalog : Catalog) (scope name : String) : Option Scalar :=
  (catalog.aliasIn? scope name).bind catalog.aliasScalar?

/-- A bare name is a scalar by itself, or it has the scalar of the alias that it means. -/
theorem scalar?_type : catalog.scalar? scope name.type =
    (Scalar.ofName? name.text).or
      ((catalog.findAlias? scope (.bare name.text)).bind catalog.aliasScalar?) := by
  rw [scalar?, resolve, resolveFrom]
  simp only [PathWord.writtenName?_type, builtin?]
  cases Scalar.ofName? name.text with
  | some scalar => rfl
  | none =>
    simp only [Option.map_none, Option.none_or]
    split
    · rename_i hnone
      rw [hnone]
      rfl
    · rename_i found hfound
      rw [hfound, dif_neg List.not_mem_nil]
      rfl

/-- An imported name means an alias of the scope that the import leads to. -/
theorem findAlias?_of_import
    (himport : catalog.importOf? scope localName.text = some (source ++ "::" ++ name.text)) :
    catalog.findAlias? scope (.bare localName.text) = catalog.aliasIn? source localName.text := by
  have hscope : catalog.aliasScope scope (.bare localName.text) = source := by
    rw [aliasScope, himport]
    exact congrArg QualifiedName.scope (QualifiedName.ofPath_child source name)
  rw [findAlias?, hscope]
  rfl

/-- A name that is not imported means an alias of its own scope. -/
theorem findAlias?_of_not_import (hfree : catalog.importOf? scope name.text = none) :
    catalog.findAlias? scope (.bare name.text) = catalog.aliasIn? scope name.text := by
  have hscope : catalog.aliasScope scope (.bare name.text) = scope := by
    rw [aliasScope, hfree]
  rw [findAlias?, hscope]
  rfl

/-- **Scalars through imports.** A local name bound to a path has the scalar of the alias that the
scope of the path declares under the local name. Where no import binds the last name of the path in
that scope, the two names have one scalar exactly if what is declared there under the local name
has the scalar of what is declared under the last name. That is so if the import keeps the name. -/
theorem scalar?_of_import
    (himport : catalog.importOf? scope localName.text = some (source ++ "::" ++ name.text))
    (hscalar : Scalar.ofName? localName.text = none) :
    catalog.scalar? scope localName.type = catalog.declaredScalar? source localName.text ∧
      (catalog.importOf? source name.text = none →
        (catalog.scalar? scope localName.type = catalog.scalar? source name.type ↔
            catalog.declaredScalar? source localName.text =
              (Scalar.ofName? name.text).or (catalog.declaredScalar? source name.text)) ∧
          (localName = name →
            catalog.scalar? scope localName.type = catalog.scalar? source name.type)) := by
  have hlocal : catalog.scalar? scope localName.type =
      catalog.declaredScalar? source localName.text := by
    rw [scalar?_type, hscalar, Option.none_or, findAlias?_of_import himport]
    rfl
  refine ⟨hlocal, fun hfree => ?_⟩
  have hname : catalog.scalar? source name.type =
      (Scalar.ofName? name.text).or (catalog.declaredScalar? source name.text) := by
    rw [scalar?_type, findAlias?_of_not_import hfree]
    rfl
  refine ⟨by rw [hlocal, hname], ?_⟩
  rintro rfl
  rw [hlocal, hname, hscalar, Option.none_or]

end Catalog

/-! ### A renamed import

The scope `m` declares the aliases `A` of an integer and `B` of text; the scope `e` imports `m::A`
as `B`. -/

namespace Sample

def integerAlias : Ident := ⟨⟨"A", by decide⟩, by decide⟩

def textAlias : Ident := ⟨⟨"B", by decide⟩, by decide⟩

def aliasFile : SourceFile :=
  ⟨"m.rs", "m", [.alias integerAlias (PathWord.type (.ofIdent ⟨⟨"u64", by decide⟩, by decide⟩)),
    .alias textAlias (PathWord.type (.ofIdent ⟨⟨"String", by decide⟩, by decide⟩))]⟩

def renamingFile : SourceFile :=
  ⟨"e.rs", "e", [.imports (.path (.ofIdent ⟨⟨"m", by decide⟩, by decide⟩)
    (.renamed (.ofIdent integerAlias) textAlias.word))]⟩

def renamedCatalog : Catalog := Catalog.ofFiles [aliasFile, renamingFile]

/-- The new name has the scalar of the alias of that name, and not of the imported one. -/
theorem scalar?_of_renaming :
    renamedCatalog.importOf? "e" textAlias.text = some ("m" ++ "::" ++ integerAlias.text) ∧
      Scalar.ofName? textAlias.text = none ∧
        renamedCatalog.importOf? "m" integerAlias.text = none ∧
          renamedCatalog.scalar? "m" (PathWord.type (.ofIdent integerAlias)) =
              some (.integer .u64) ∧
            renamedCatalog.scalar? "e" (PathWord.type (.ofIdent textAlias)) = some .string ∧
              renamedCatalog.scalar? "e" (PathWord.type (.ofIdent textAlias)) ≠
                renamedCatalog.scalar? "m" (PathWord.type (.ofIdent integerAlias)) := by
  have himport : renamedCatalog.importOf? "e" textAlias.text =
      some ("m" ++ "::" ++ integerAlias.text) := by
    decide
  have hfree : renamedCatalog.importOf? "m" integerAlias.text = none := by
    decide
  have hscalar : Scalar.ofName? textAlias.text = none := by
    decide
  obtain ⟨hlocal, hother⟩ := @Catalog.scalar?_of_import renamedCatalog "e" "m"
    (.ofIdent integerAlias) (.ofIdent textAlias) himport hscalar
  have hdeclared : renamedCatalog.declaredScalar? "m" textAlias.text = some .string := by
    decide +kernel
  have hinteger : renamedCatalog.scalar? "m" (PathWord.type (.ofIdent integerAlias)) =
      some (.integer .u64) := by
    decide +kernel
  refine ⟨himport, hscalar, hfree, hinteger, hlocal.trans hdeclared, fun h => ?_⟩
  have hsame := (hother hfree).1.mp h
  revert hsame
  decide +kernel

end Sample

end Entrypoint
