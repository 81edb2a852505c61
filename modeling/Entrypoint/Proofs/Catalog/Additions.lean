import Entrypoint.Proofs.Catalog.AliasChain
import Entrypoint.Proofs.Interspersed

/-! Catalogues with more in them that says nothing about services: functions without documentation
and imports. They change no table that is searched by a tag, and no meaning of a name that is
imported as before. -/

namespace Entrypoint

/-- A declaration that is searched for no tag: a function without documentation, or an import into a
scope of a name for which that is allowed. -/
inductive Declaration.IsAside (allowed : String → String → Prop) : Declaration → Prop
  | function {entry : CatalogFunction} (h : entry.function.documentation = "") :
    IsAside allowed (.function entry)
  | binding {scope name written : String} (h : allowed scope name) :
    IsAside allowed (.binding scope name written)

theorem Declaration.IsAside.imp {allowed allowed' : String → String → Prop} {d : Declaration}
    (H : d.IsAside allowed) (h : ∀ scope name, allowed scope name → allowed' scope name) :
    d.IsAside allowed' := by
  cases H with
  | function hempty => exact .function hempty
  | binding hallowed => exact .binding (h _ _ hallowed)

namespace Catalog

variable {allowed : String → String → Prop} {c c' : Catalog} {d : Declaration}
  {declarations declarations' : List Declaration} {scope name current written : String}
  {wanted : WrittenName} {type : TypeExpr}

/-- The functions that have documentation. -/
def documented (c : Catalog) : List CatalogFunction :=
  c.functions.filter fun f => f.function.documentation != ""

/-- The second catalogue has at most undocumented functions and allowed imports beyond the first. -/
structure Broadens (allowed : String → String → Prop) (c c' : Catalog) : Prop where
  structs : c'.structs = c.structs
  aliases : c'.aliases = c.aliases
  methods : c'.methods = c.methods
  documented : c'.documented = c.documented
  importOf? : ∀ scope name, ¬allowed scope name → c'.importOf? scope name = c.importOf? scope name

namespace Broadens

theorem refl (c : Catalog) : Broadens allowed c c := ⟨rfl, rfl, rfl, rfl, fun _ _ _ => rfl⟩

theorem declaresIn (H : Broadens allowed c c') (scope : String) :
    c'.declaresIn scope = c.declaresIn scope := by
  rw [Catalog.declaresIn, H.structs, H.aliases, Catalog.declaresIn]

theorem absoluteScope (H : Broadens allowed c c') (current written : String) :
    c'.absoluteScope current written = c.absoluteScope current written :=
  absoluteScope_eq_iff.mpr fun below _ => H.declaresIn below

theorem absolutePath (H : Broadens allowed c c') (current written : String) :
    c'.absolutePath current written = c.absolutePath current written := by
  simp only [Catalog.absolutePath, H.absoluteScope]

/-- A declaration that enters both keeps them apart by no more than they were. -/
theorem add (H : Broadens allowed c c') (d : Declaration) : Broadens allowed (c.add d) (c'.add d) := by
  have hpath := H.absolutePath
  obtain ⟨hstructs, haliases, hmethods, hdocumented, himport⟩ := H
  have himports : ∀ scope name, ¬allowed scope name →
      (c'.add d).importOf? scope name = (c.add d).importOf? scope name := by
    intro scope name hname
    rw [importOf?_add, importOf?_add]
    cases d with
    | binding scope' local' written => simp only [hpath, himport scope name hname]
    | _ => exact himport scope name hname
  cases d with
  | record entry =>
    exact ⟨congrArg (· ++ [entry]) hstructs, haliases, hmethods, hdocumented, himports⟩
  | «alias» entry =>
    exact ⟨hstructs, congrArg (· ++ [entry]) haliases, hmethods, hdocumented, himports⟩
  | methods entry =>
    exact ⟨hstructs, haliases, congrArg (· ++ [entry]) hmethods, hdocumented, himports⟩
  | binding scope' local' written => exact ⟨hstructs, haliases, hmethods, hdocumented, himports⟩
  | function entry =>
    refine ⟨hstructs, haliases, hmethods, ?_, himports⟩
    simp only [Catalog.documented, Catalog.add, List.filter_append] at hdocumented ⊢
    rw [hdocumented]

theorem add_right (H : Broadens allowed c c') (h : d.IsAside allowed) :
    Broadens allowed c (c'.add d) := by
  obtain ⟨hstructs, haliases, hmethods, hdocumented, himport⟩ := H
  cases h with
  | @function entry h =>
    refine ⟨hstructs, haliases, hmethods, ?_, himport⟩
    rw [← hdocumented, Catalog.documented, Catalog.add, List.filter_append]
    simp [h, Catalog.documented]
  | @binding scope' local' written h =>
    refine ⟨hstructs, haliases, hmethods, hdocumented, fun scope name hname => ?_⟩
    rw [importOf?_add, ← himport scope name hname]
    refine if_neg ?_
    rintro ⟨rfl, rfl⟩
    exact hname h

theorem foldl (H : Interspersed (Declaration.IsAside allowed) declarations declarations')
    (h : Broadens allowed c c') :
    Broadens allowed (declarations.foldl Catalog.add c) (declarations'.foldl Catalog.add c') := by
  induction H generalizing c c' with
  | nil => exact h
  | keep d _ ih => exact ih (h.add d)
  | more hd _ ih => exact ih (h.add_right hd)

end Broadens

/-- Files between those of a module that declare nothing with a tag widen its catalogue. -/
theorem broadens_ofFiles {files files' : List SourceFile}
    (H : Interspersed (fun file => ∀ d ∈ file.declarations, d.IsAside allowed) files files') :
    Broadens allowed (ofFiles files) (ofFiles files') :=
  .foldl (H.flatMap fun _ h => h) (.refl _)

/-! ### Names that are written -/

/-- A type that services are built from is written in a scope: as the type of a field, the target of
an alias or the parameter of a method. -/
inductive Writes (c : Catalog) : String → TypeExpr → Prop
  | field {s : CatalogStruct} {fields : List Field} {field : Field} (hs : s ∈ c.structs)
    (hfields : s.item.fields = .named fields) (hfield : field ∈ fields) : Writes c s.scope field.type
  | target {a : CatalogAlias} (ha : a ∈ c.aliases) : Writes c a.scope a.target
  | parameter {block : CatalogMethods} {m : Function} {type : TypeExpr} (hblock : block ∈ c.methods)
    (hm : m ∈ block.methods) (htype : type ∈ m.signature.parameters) : Writes c block.scope type

/-- The bare names of types that services are built from, each with the scope it is written in. -/
def writtenNames (c : Catalog) : List (String × String) :=
  (fieldTypes ++ targetTypes ++ parameterTypes).filterMap fun written =>
    match written.2.writtenName? with
    | some (.bare name) => some (written.1, name)
    | _ => none
where
  fieldTypes : List (String × TypeExpr) := c.structs.flatMap fun s =>
    match s.item.fields with
    | .named fields => fields.map fun field => (s.scope, field.type)
    | _ => []
  targetTypes : List (String × TypeExpr) := c.aliases.map fun a => (a.scope, a.target)
  parameterTypes : List (String × TypeExpr) := c.methods.flatMap fun block =>
    block.methods.flatMap fun m => m.signature.parameters.map (block.scope, ·)

theorem mem_writtenNames (h : c.Writes scope type) (hname : type.writtenName? = some (.bare name)) :
    (scope, name) ∈ c.writtenNames := by
  refine List.mem_filterMap.mpr ⟨(scope, type), ?_, by simp only [hname]⟩
  rw [List.mem_append, List.mem_append]
  cases h with
  | @field s fields field hs hfields hfield =>
    refine .inl (.inl (List.mem_flatMap.mpr ⟨s, hs, ?_⟩))
    rw [hfields]
    exact List.mem_map_of_mem hfield
  | target ha => exact .inl (.inr (List.mem_map_of_mem ha))
  | @parameter block m type hblock hm htype =>
    exact .inr (List.mem_flatMap.mpr
      ⟨block, hblock, List.mem_flatMap.mpr ⟨m, hm, List.mem_map_of_mem htype⟩⟩)

/-- No name of a type is written for which an import is allowed, unless it is imported as before. -/
def Spares (allowed : String → String → Prop) (c c' : Catalog) : Prop :=
  ∀ scope type name, c.Writes scope type → type.writtenName? = some (.bare name) →
    allowed scope name → c'.importOf? scope name = c.importOf? scope name

theorem spares_of_writtenNames (h : ∀ written ∈ c.writtenNames, ¬allowed written.1 written.2) :
    Spares allowed c c' := fun _ _ _ hwrites hname hallowed =>
  absurd hallowed (h _ (mem_writtenNames hwrites hname))

namespace Broadens

theorem pointsAlike (H : Broadens allowed c c') (hspares : Spares allowed c c')
    (hwrites : c.Writes scope type) (hname : type.writtenName? = some wanted) :
    PointsAlike c' c scope wanted := by
  cases wanted with
  | bare name =>
    by_cases hallowed : allowed scope name
    · exact hspares scope type name hwrites hname hallowed
    · exact H.importOf? scope name hallowed
  | qualified inside name => exact H.absoluteScope scope inside

theorem findStruct?_eq (H : Broadens allowed c c') (h : PointsAlike c' c scope wanted) :
    c'.findStruct? scope wanted = c.findStruct? scope wanted := by
  simp only [findStruct?, h.exactPath_eq, H.structs]

theorem typeName?_eq (H : Broadens allowed c c') (h : PointsAlike c' c scope wanted) :
    c'.typeName? scope wanted = c.typeName? scope wanted :=
  h.typeName?_eq (H.findStruct?_eq h)

theorem findAlias?_eq (H : Broadens allowed c c') (h : PointsAlike c' c scope wanted) :
    c'.findAlias? scope wanted = c.findAlias? scope wanted := by
  simp only [findAlias?, h.aliasScope_eq, H.aliases]

/-- The chain of aliases from a written type is the same, since the targets are written too. -/
theorem resolveFrom_eq (H : Broadens allowed c c') (hspares : Spares allowed c c')
    (visited : List String) (hwrites : c.Writes scope type) :
    c'.resolveFrom visited scope type = c.resolveFrom visited scope type := by
  induction visited, scope, type using resolveFrom.induct c with
  | case1 visited scope type hname => rw [resolveFrom, resolveFrom, hname]
  | case2 visited scope type written hname resolution hbuiltin =>
    rw [resolveFrom_of_builtin? hname hbuiltin, resolveFrom_of_builtin? hname hbuiltin]
  | case3 visited scope type written hname hfree hnone =>
    have hsame := H.findAlias?_eq (H.pointsAlike hspares hwrites hname)
    rw [resolveFrom_of_findAlias?_eq_none hname hfree (hsame.trans hnone),
      resolveFrom_of_findAlias?_eq_none hname hfree hnone]
  | case4 visited scope type written hname hfree found hfound hseen =>
    have hsame := H.findAlias?_eq (H.pointsAlike hspares hwrites hname)
    rw [resolveFrom_of_findAlias? hname hfree (hsame.trans hfound), if_pos hseen,
      resolveFrom_of_findAlias? hname hfree hfound, if_pos hseen]
  | case5 visited scope type written hname hfree found hfound hfresh ih =>
    have hsame := H.findAlias?_eq (H.pointsAlike hspares hwrites hname)
    rw [resolveFrom_of_findAlias? hname hfree (hsame.trans hfound), if_neg hfresh,
      resolveFrom_of_findAlias? hname hfree hfound, if_neg hfresh]
    exact ih (.target (findAlias?_mem hfound))

theorem resolve_eq (H : Broadens allowed c c') (hspares : Spares allowed c c')
    (hwrites : c.Writes scope type) : c'.resolve scope type = c.resolve scope type :=
  H.resolveFrom_eq hspares [] hwrites

end Broadens

end Catalog

end Entrypoint
