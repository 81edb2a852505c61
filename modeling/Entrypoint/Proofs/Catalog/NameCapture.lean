import Entrypoint.Proofs.Catalog.ImportedAlias
import Entrypoint.Proofs.Catalog.Tables

/-! A further file of structs. A name that means a type keeps its meaning if it points to a struct
that was there before. Any other name is first looked for among all structs by its last part, and
only then means what it points to, so a struct of the further file takes it over if no struct of
that name comes earlier, however far apart the two scopes are. -/

namespace Entrypoint

theorem SourceFile.declarations_of_records {file : SourceFile} {items : List StructItem}
    (h : file.items = items.map .record) :
    file.declarations = items.map fun item => .record ⟨file.scope, item⟩ := by
  rw [declarations, h]
  clear h
  induction items with
  | nil => rfl
  | cons item items ih =>
    rw [List.map_cons, Item.declarationsAll, ih]
    rfl

namespace Catalog

/-- A name written in a scope may begin at a child scope: a path in its first part, a bare name in
the path of an import. -/
def MayBeginAt (declarations : List Declaration) (scope below : String) : WrittenName → Prop
  | .bare name => ∃ written, .binding scope name written ∈ declarations ∧
      childOfPath? scope written = some below
  | .qualified inside _ => childScope? scope inside = some below

variable {c : Catalog} {scope name below elsewhere : String} {written : WrittenName} {q : QualifiedName}
  {before after : List Declaration} {items : List StructItem}

/-- The declarations of structs in one scope. -/
def records (scope : String) (items : List StructItem) : List Declaration :=
  items.map fun item => .record ⟨scope, item⟩

theorem structs_insert : (ofDeclarations (before ++ (records elsewhere items ++ after))).structs =
    (ofDeclarations before).structs ++ (items.map (⟨elsewhere, ·⟩) ++
      after.filterMap Declaration.struct?) := by
  have hrecords : (records elsewhere items).filterMap Declaration.struct? = items.map (⟨elsewhere, ·⟩) := by
    rw [records, List.filterMap_map]
    exact congrFun List.filterMap_eq_map items
  rw [structs_ofDeclarations, structs_ofDeclarations, List.filterMap_append, List.filterMap_append,
    hrecords]

theorem declaresIn_insert (hne : below ≠ elsewhere) :
    (ofDeclarations (before ++ after)).declaresIn below =
      (ofDeclarations (before ++ (records elsewhere items ++ after))).declaresIn below := by
  have hrecords : (records elsewhere items).filterMap Declaration.alias? = [] := by
    rw [records, List.filterMap_map]
    exact List.filterMap_eq_nil_iff.mpr fun _ _ => rfl
  have hitems : (items.map (CatalogStruct.mk elsewhere)).any (·.scope == below) = false := by
    refine List.any_eq_false.mpr fun s hs heq => ?_
    obtain ⟨item, _, rfl⟩ := List.mem_map.mp hs
    exact hne (beq_iff_eq.mp heq).symm
  rw [declaresIn, declaresIn, structs_insert, aliases_ofDeclarations, aliases_ofDeclarations,
    structs_ofDeclarations, structs_ofDeclarations]
  simp only [List.filterMap_append, List.any_append, hrecords, hitems, List.any_nil,
    Bool.false_or]

/-- Structs outside the child scopes that a name may begin at leave its import as it is. -/
theorem importOf?_insert (hnamed : ∀ d ∈ after, d.IsNamed)
    (hbegin : ∀ written, .binding scope name written ∈ after →
      childOfPath? scope written ≠ some elsewhere) :
    (ofDeclarations (before ++ after)).importOf? scope name =
      (ofDeclarations (before ++ (records elsewhere items ++ after))).importOf? scope name := by
  -- From the last declaration on, since a binding means what the tables before it make of it.
  induction after using List.reverseRecOn with
  | nil =>
    rw [List.append_nil, List.append_nil, ofDeclarations, ofDeclarations, List.foldl_append]
    refine (importOf?_foldl_add (fun d hd => ?_) _).symm
    obtain ⟨item, _, rfl⟩ := List.mem_map.mp hd
    rintro ⟨⟩
  | append_singleton after d ih =>
    have ih := ih (fun e he => hnamed e (List.mem_append_left _ he))
      fun written he => hbegin written (List.mem_append_left _ he)
    have hd := hnamed d (List.mem_append_right _ (List.mem_singleton_self d))
    have hadd : ∀ ds, ofDeclarations (ds ++ [d]) = (ofDeclarations ds).add d := fun ds => by
      rw [ofDeclarations, List.foldl_append]
      rfl
    rw [← List.append_assoc, ← List.append_assoc (records elsewhere items), ← List.append_assoc, hadd,
      hadd, importOf?_add, importOf?_add, ih]
    cases d with
    | binding scope' name' written =>
      dsimp only
      split
      · rename_i heq
        obtain ⟨rfl, rfl⟩ := heq
        have hwritten := hbegin written (List.mem_append_right _ (List.mem_singleton_self _))
        refine congrArg some ((absolutePath_eq_iff hd).mpr fun below hbelow => ?_)
        exact declaresIn_insert fun heq => hwritten (heq ▸ hbelow)
      · rfl
    | record | «alias» | function | methods => rfl

theorem pointsAlike_insert (hnamed : ∀ d ∈ after, d.IsNamed)
    (hbegin : ¬MayBeginAt after scope elsewhere written) :
    PointsAlike (ofDeclarations (before ++ after))
      (ofDeclarations (before ++ (records elsewhere items ++ after))) scope written := by
  cases written with
  | bare name =>
    exact importOf?_insert hnamed fun written hmem hchild => hbegin ⟨written, hmem, hchild⟩
  | qualified inside name =>
    refine absoluteScope_eq_iff.mpr fun below hbelow => declaresIn_insert fun heq => ?_
    exact hbegin (heq ▸ hbelow)

/-! ### Entries put into a list -/

section

variable {α : Type} {p : α → Bool} {front added back : List α}

/-- Entries that are not looked for, or that come after one that is, are not found. -/
theorem find?_insert_eq (h : (∃ x ∈ front, p x) ∨ ∀ x ∈ added, ¬p x) :
    (front ++ (added ++ back)).find? p = (front ++ back).find? p := by
  rw [List.find?_append, List.find?_append, List.find?_append]
  rcases h with ⟨x, hx, hp⟩ | h
  · obtain ⟨found, hfound⟩ := Option.isSome_iff_exists.mp (List.find?_isSome.mpr ⟨x, hx, hp⟩)
    rw [hfound, Option.some_or, Option.some_or]
  · rw [List.find?_eq_none.mpr h, Option.none_or]

/-- Of the entries that are looked for, one that comes before all others is found. -/
theorem exists_find?_insert (hfront : ∀ x ∈ front, ¬p x) (hadded : ∃ x ∈ added, p x) :
    ∃ x ∈ added, (front ++ (added ++ back)).find? p = some x := by
  obtain ⟨found, hfound⟩ := Option.isSome_iff_exists.mp (List.find?_isSome.mpr hadded)
  refine ⟨found, List.mem_of_find?_eq_some hfound, ?_⟩
  rw [List.find?_append, List.find?_append, List.find?_eq_none.mpr hfront, hfound,
    Option.none_or, Option.some_or]

end

/-- Structs are put among those of a catalogue, and a name points where it did. -/
structure Widens (c c' : Catalog) (scope : String) (written : WrittenName)
    (front added back : List CatalogStruct) : Prop where
  structs : c.structs = front ++ back
  structs' : c'.structs = front ++ (added ++ back)
  alike : PointsAlike c c' scope written

namespace Widens

variable {c' : Catalog} {s : CatalogStruct} {front added back : List CatalogStruct}

theorem mem_structs (H : Widens c c' scope written front added back) :
    s ∈ c'.structs ↔ s ∈ c.structs ∨ s ∈ added := by
  rw [H.structs, H.structs', List.mem_append, List.mem_append, List.mem_append, or_assoc]
  exact or_congr_right or_comm

theorem pointsToStruct_iff (H : Widens c c' scope written front added back) :
    c'.PointsToStruct scope written ↔ c.PointsToStruct scope written ∨
      ∃ s ∈ added, s.qualifiedName.path = c.exactPath scope written := by
  simp only [PointsToStruct, H.mem_structs, ← H.alike.exactPath_eq, or_and_right, exists_or]

theorem typeName?_of_pointsToStruct (H : Widens c c' scope written front added back)
    (h : c.PointsToStruct scope written) :
    c'.typeName? scope written = c.typeName? scope written := by
  rw [h.typeName?_eq, (H.pointsToStruct_iff.mpr (.inl h)).typeName?_eq, H.alike.exactPath_eq]

theorem typeName?_of_added (H : Widens c c' scope written front added back) (hs : s ∈ added)
    (hpath : s.qualifiedName.path = c.exactPath scope written) :
    c'.typeName? scope written = some s.qualifiedName := by
  rw [(H.pointsToStruct_iff.mpr (.inr ⟨s, hs, hpath⟩)).typeName?_eq, ← H.alike.exactPath_eq, ← hpath,
    s.ofPath_path]

/-- A name that points to none keeps its meaning if the structs put in are not called so, or if one
before them is. -/
theorem typeName?_of_name (H : Widens c c' scope written front added back)
    (h : ¬c'.PointsToStruct scope written)
    (hname : (∃ s ∈ front, s.name = written.name) ∨ ∀ s ∈ added, s.name ≠ written.name) :
    c'.typeName? scope written = c.typeName? scope written := by
  refine (H.alike.typeName?_eq ?_).symm
  rw [findStruct?_of_not_pointsToStruct h,
    findStruct?_of_not_pointsToStruct (mt (H.pointsToStruct_iff.mpr ∘ .inl) h), H.structs,
    H.structs', find?_insert_eq (by simpa using hname)]

/-- A name that points to none means the first of the structs put in that is called so if none
before them is. -/
theorem exists_typeName?_of_name (H : Widens c c' scope written front added back)
    (h : ¬c'.PointsToStruct scope written) (hfront : ∀ s ∈ front, s.name ≠ written.name)
    (hadded : ∃ s ∈ added, s.name = written.name) :
    ∃ s ∈ added, c'.typeName? scope written = some s.qualifiedName := by
  obtain ⟨s, hs, hfind⟩ : ∃ s ∈ added,
      (front ++ (added ++ back)).find? (·.name == written.name) = some s :=
    exists_find?_insert (by simpa using hfront) (by simpa using hadded)
  refine ⟨s, hs, ?_⟩
  unfold typeName?
  rw [findStruct?_of_not_pointsToStruct h, H.structs', hfind]

/-- What becomes of the meaning of a name beside structs of other scopes. -/
theorem typeName?_eq_iff (H : Widens c c' scope written front added back)
    (htype : c.typeName? scope written = some q) (hscope : ∀ s ∈ added, s.scope ≠ q.scope) :
    (c'.typeName? scope written = some q ↔ c.PointsToStruct scope written ∨
      (∀ s ∈ added, s.qualifiedName.path ≠ c.exactPath scope written) ∧
        ((∃ s ∈ front, s.name = written.name) ∨ ∀ s ∈ added, s.name ≠ written.name)) ∧
    (c'.typeName? scope written = some q ∨
      ∃ s ∈ added, c'.typeName? scope written = some s.qualifiedName) := by
  have hother : ∀ s ∈ added, c'.typeName? scope written = some s.qualifiedName →
      c'.typeName? scope written ≠ some q := fun s hs htaken heq =>
    hscope s hs (congrArg QualifiedName.scope (Option.some.inj (htaken.symm.trans heq)))
  by_cases hpoints : c.PointsToStruct scope written
  · have hkept := (H.typeName?_of_pointsToStruct hpoints).trans htype
    exact ⟨iff_of_true hkept (.inl hpoints), .inl hkept⟩
  by_cases hexact : ∃ s ∈ added, s.qualifiedName.path = c.exactPath scope written
  · obtain ⟨s, hs, hpath⟩ := hexact
    have htaken := H.typeName?_of_added hs hpath
    refine ⟨iff_of_false (hother s hs htaken) ?_, .inr ⟨s, hs, htaken⟩⟩
    exact not_or.mpr ⟨hpoints, fun h => h.1 s hs hpath⟩
  -- Nothing stands where the name points, so its last part decides.
  have hpoints' := mt H.pointsToStruct_iff.mp (not_or.mpr ⟨hpoints, hexact⟩)
  by_cases hname : (∃ s ∈ front, s.name = written.name) ∨ ∀ s ∈ added, s.name ≠ written.name
  · have hkept := (H.typeName?_of_name hpoints' hname).trans htype
    refine ⟨iff_of_true hkept (.inr ⟨fun s hs hpath => ?_, hname⟩), .inl hkept⟩
    exact hexact ⟨s, hs, hpath⟩
  · obtain ⟨hfront, hadded⟩ := not_or.mp hname
    push Not at hfront hadded
    obtain ⟨s, hs, htaken⟩ := H.exists_typeName?_of_name hpoints' hfront hadded
    refine ⟨iff_of_false (hother s hs htaken) ?_, .inr ⟨s, hs, htaken⟩⟩
    exact not_or.mpr ⟨hpoints, fun h => hname h.2⟩

end Widens

/-- **Structs of an unrelated file.** Let a name mean a type, and let a file be added that declares
structs and nothing else, neither in the scope of that type nor in a child scope that the name may
begin at. The name keeps its meaning if it points to a struct of the other files. If it does not, it
keeps its meaning exactly if no added struct is where it points and, unless a file before the added
one has a struct of its last part, no added struct is called so. A name that loses its meaning means
an added struct. -/
theorem typeName?_insert_file (before after : List SourceFile) {file : SourceFile}
    (hitems : file.items = items.map .record)
    (htype : (ofFiles (before ++ after)).typeName? scope written = some q)
    (hscope : file.scope ≠ q.scope)
    (hbegin : ¬MayBeginAt ((before ++ after).flatMap (·.declarations)) scope file.scope written) :
    ((ofFiles (before ++ file :: after)).typeName? scope written = some q ↔
      (ofFiles (before ++ after)).PointsToStruct scope written ∨
      (∀ item ∈ items, (QualifiedName.mk file.scope item.name.text).path ≠
          (ofFiles (before ++ after)).exactPath scope written) ∧
        ((∃ s ∈ (ofFiles before).structs, s.name = written.name) ∨
          ∀ item ∈ items, item.name.text ≠ written.name)) ∧
    ((ofFiles (before ++ file :: after)).typeName? scope written = some q ∨
      ∃ item ∈ items, (ofFiles (before ++ file :: after)).typeName? scope written =
        some ⟨file.scope, item.name.text⟩) := by
  have hafter : ¬MayBeginAt (after.flatMap SourceFile.declarations) scope file.scope written := by
    intro h
    refine hbegin ?_
    rw [List.flatMap_append]
    cases written with
    | bare name =>
      obtain ⟨written, hmem, hchild⟩ := h
      exact ⟨written, List.mem_append_right _ hmem, hchild⟩
    | qualified inside name => exact h
  have hfiles : (before ++ file :: after).flatMap SourceFile.declarations =
      before.flatMap SourceFile.declarations ++
        (records file.scope items ++ after.flatMap SourceFile.declarations) := by
    rw [List.flatMap_append, List.flatMap_cons, file.declarations_of_records hitems, records]
  have H : Widens (ofFiles (before ++ after)) (ofFiles (before ++ file :: after)) scope written
      (ofFiles before).structs (items.map (CatalogStruct.mk file.scope))
      ((after.flatMap SourceFile.declarations).filterMap Declaration.struct?) := by
    rw [ofFiles_eq, ofFiles_eq, ofFiles_eq, hfiles, List.flatMap_append]
    refine ⟨?_, structs_insert, pointsAlike_insert isNamed_of_mem_files hafter⟩
    rw [structs_ofDeclarations, structs_ofDeclarations, List.filterMap_append]
  have hmap := H.typeName?_eq_iff htype fun s hs => by
    obtain ⟨item, _, rfl⟩ := List.mem_map.mp hs
    exact hscope
  simp only [List.mem_map, exists_exists_and_eq_and, forall_exists_index, and_imp,
    forall_apply_eq_imp_iff₂] at hmap
  exact hmap

end Catalog

/-! ### A struct of the name of an import

The scope `e` imports `m::A` as `B`, and no file declares it. The scope `k` declares a struct `B`. -/

namespace Sample

def unrelatedFile : SourceFile := ⟨"k.rs", "k", [.record ⟨"", textAlias, .absent⟩]⟩

/-- The import loses its meaning to the struct of the other scope. -/
theorem typeName?_insert_namesake :
    (Catalog.ofFiles [renamingFile]).typeName? "e" (.bare "B") = some ⟨"m", "A"⟩ ∧
      ¬Catalog.MayBeginAt ([renamingFile].flatMap (·.declarations)) "e" "k" (.bare "B") ∧
        (Catalog.ofFiles [renamingFile, unrelatedFile]).typeName? "e" (.bare "B") ≠
            some ⟨"m", "A"⟩ ∧
          (Catalog.ofFiles [renamingFile, unrelatedFile]).typeName? "e" (.bare "B") =
            some ⟨"k", "B"⟩ := by
  have htype : (Catalog.ofFiles [renamingFile]).typeName? "e" (.bare "B") = some ⟨"m", "A"⟩ := by
    decide
  have hbegin : ¬Catalog.MayBeginAt ([renamingFile].flatMap (·.declarations)) "e" "k"
      (.bare "B") := by
    have hdeclarations : [renamingFile].flatMap (·.declarations) = [.binding "e" "B" "m::A"] := rfl
    rintro ⟨written, hmem, hchild⟩
    rw [hdeclarations] at hmem
    cases List.mem_singleton.mp hmem
    revert hchild
    decide
  have hitems : unrelatedFile.items = [⟨"", textAlias, .absent⟩].map .record := rfl
  obtain ⟨hkept, htaken⟩ :=
    Catalog.typeName?_insert_file [renamingFile] [] hitems htype (by decide) hbegin
  have hlost : (Catalog.ofFiles [renamingFile, unrelatedFile]).typeName? "e" (.bare "B") ≠
      some ⟨"m", "A"⟩ := by
    refine mt hkept.mp ?_
    rw [Catalog.PointsToStruct]
    decide
  obtain ⟨item, hitem, heq⟩ := htaken.resolve_left hlost
  cases List.mem_singleton.mp hitem
  exact ⟨htype, hbegin, hlost, heq⟩

end Sample

end Entrypoint
