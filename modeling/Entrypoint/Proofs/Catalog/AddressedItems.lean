import Entrypoint.Proofs.Catalog.InherentBlocks
import Entrypoint.Proofs.Source.OutlineReading
import Mathlib.Data.List.Flatten

/-! What a catalogue lists of a file. An item outside all blocks is listed in the scope of the file,
extended by the modules around it; so is an item in a block of a declaration that is searched, but
none in the body of a function. -/

namespace Entrypoint

/-- The scope of a module below another scope, given the names that lead there. -/
def Scope.below (scope : String) (names : List PathWord) : String :=
  names.foldl (fun above name => above ++ "::" ++ name.text) scope

/-- An item of a file with the modules around it, the outermost first. One in a block stands with
the modules around the block. -/
structure Declared where
  modules : List PathWord
  item : Item
  inBlock : Bool

namespace Declared

/-- The same within a module. -/
def under (name : PathWord) (d : Declared) : Declared := { d with modules := name :: d.modules }

/-- An item in a block outside all modules. -/
def block (item : Item) : Declared := ⟨[], item, true⟩

/-- What an item of a file contributes to a catalogue. -/
def declarations (scope : String) (d : Declared) : List Declaration :=
  d.item.declarations (Scope.below scope d.modules)

end Declared

namespace Outline

mutual

/-- The items that a declaration leaves, one by one. -/
def declared : Outline → List Declared
  | addressed entry => entry.toList.map fun e => ⟨[], e.item, false⟩
  | inlineModule name met inside => (met.map Declared.block ++ declaredAll inside).map (.under name)
  | searched met => met.map Declared.block

/-- The items that declarations in a row leave. -/
def declaredAll : List Outline → List Declared
  | [] => []
  | outline :: rest => outline.declared ++ declaredAll rest

end

end Outline

/-- The items of a file, one by one. -/
def FileOutline.declared (o : FileOutline) : List Declared :=
  o.met.map Declared.block ++ Outline.declaredAll o.outlines

/-- The items of a file outside all blocks: those reached through modules only. -/
def FileOutline.addressed (o : FileOutline) : List Declared := o.declared.filter (!·.inBlock)

namespace Outline

mutual

theorem exists_addressable : (outline : Outline) → ∀ d ∈ outline.declared, d.inBlock = false →
    ∃ entry : Addressable, d.item = entry.item
  | addressed none, _, hd, _ => (List.not_mem_nil hd).elim
  | addressed (some entry), _, hd, _ => ⟨entry, by rw [List.mem_singleton.mp hd]⟩
  | inlineModule name met inside, d, hd, hblock => by
    obtain ⟨d', hd', rfl⟩ := List.mem_map.mp hd
    obtain hmet | hinside := List.mem_append.mp hd'
    · obtain ⟨item, -, rfl⟩ := List.mem_map.mp hmet
      cases hblock
    · exact exists_addressable_all inside d' hinside hblock
  | searched met, d, hd, hblock => by
    obtain ⟨item, -, rfl⟩ := List.mem_map.mp hd
    cases hblock

theorem exists_addressable_all : (outlines : List Outline) → ∀ d ∈ declaredAll outlines,
    d.inBlock = false → ∃ entry : Addressable, d.item = entry.item
  | [], _, hd, _ => (List.not_mem_nil hd).elim
  | outline :: rest, d, hd, hblock => by
    obtain hfirst | hrest := List.mem_append.mp hd
    · exact exists_addressable outline d hfirst hblock
    · exact exists_addressable_all rest d hrest hblock

end

end Outline

/-- What is outside all blocks is an entry itself, and no module. -/
theorem FileOutline.exists_addressable {o : FileOutline} {d : Declared} (h : d ∈ o.addressed) :
    ∃ entry : Addressable, d.item = entry.item := by
  obtain ⟨hd, hblock⟩ := List.mem_filter.mp h
  have hblock : d.inBlock = false := by simpa using hblock
  obtain hmet | houtlines := List.mem_append.mp hd
  · obtain ⟨item, -, rfl⟩ := List.mem_map.mp hmet
    cases hblock
  · exact Outline.exists_addressable_all o.outlines d houtlines hblock

theorem Item.declarationsAll_append (scope : String) (items items' : List Item) :
    declarationsAll scope (items ++ items') =
      declarationsAll scope items ++ declarationsAll scope items' := by
  induction items with
  | nil => rfl
  | cons item items ih =>
    rw [List.cons_append, declarationsAll, declarationsAll, ih, List.append_assoc]

theorem Declared.flatMap_block (scope : String) (items : List Item) :
    (items.map block).flatMap (declarations scope) = Item.declarationsAll scope items := by
  induction items with
  | nil => rfl
  | cons item items ih => rw [List.map_cons, List.flatMap_cons, ih]; rfl

namespace Outline

mutual

theorem declarations_items (scope : String) : (outline : Outline) →
    Item.declarationsAll scope outline.items = outline.declared.flatMap (·.declarations scope)
  | addressed none => rfl
  | addressed (some entry) => rfl
  | inlineModule name met inside => by
    rw [items, declared, List.flatMap_map]
    refine (List.append_nil _).trans ?_
    refine Eq.trans ?_ (List.flatMap_append (f := Declared.declarations _)).symm
    rw [Item.declarations, Item.declarationsAll_append, Declared.flatMap_block,
      declarations_itemsAll]
  | searched met => (Declared.flatMap_block scope met).symm

theorem declarations_itemsAll (scope : String) : (outlines : List Outline) →
    Item.declarationsAll scope (itemsAll outlines) =
      (declaredAll outlines).flatMap (·.declarations scope)
  | [] => rfl
  | outline :: rest => by
    rw [itemsAll, declaredAll, Item.declarationsAll_append, List.flatMap_append,
      declarations_items scope outline, declarations_itemsAll scope rest]

end

end Outline

/-- The declarations of a file are those of its items, in the order of the text. -/
theorem FileOutline.declarationsAll_items (scope : String) (o : FileOutline) :
    Item.declarationsAll scope o.items = o.declared.flatMap (·.declarations scope) := by
  rw [items, declared, Item.declarationsAll_append, List.flatMap_append, Declared.flatMap_block,
    Outline.declarations_itemsAll]

/-! ### Contributions -/

mutual

/-- What an item adds to a scope. A struct, an alias and a function add themselves, and a block adds
its methods under the last name of a path; the block of any other type adds nothing. Imports bind
names, and an inline module adds what is inside to its own scope. -/
inductive Item.Adds : String → Item → List Declaration → Prop
  | record {scope : String} {item : StructItem} :
    Item.Adds scope (.record item) [.record { scope := scope, item := item }]
  | alias {scope : String} {name : Ident} {target : TypeExpr} :
    Item.Adds scope (.alias name target) [.alias { scope := scope, name := name.text, target := target }]
  | function {scope : String} {f : Function} :
    Item.Adds scope (.function f) [.function { scope := scope, function := f }]
  | methodsOfPath {scope : String} {rooted : Bool} {parents : List Segment} {name : PathWord}
      {arguments : Arguments} {list : List Function} :
    Item.Adds scope (.methods (.path (.mk rooted parents (.mk name arguments))) list)
      [.methods { scope := scope, selfName := name.text, methods := list }]
  | methodsOfProjection {scope : String} {self : TypeExpr} {seenAs : Option PathExpr}
      {parents : List Segment} {name : PathWord} {arguments : Arguments} {list : List Function} :
    Item.Adds scope (.methods (.projection self seenAs parents (.mk name arguments)) list)
      [.methods { scope := scope, selfName := name.text, methods := list }]
  | methodsOfReference {scope : String} {lifetime : Option Word} {mutable : Bool}
      {target : TypeExpr} {list : List Function} :
    Item.Adds scope (.methods (.reference lifetime mutable target) list) []
  | methodsOfObject {scope : String} {marked trailing : Bool} {bounds : List Bound}
      {list : List Function} : Item.Adds scope (.methods (.object marked bounds trailing) list) []
  | methodsOfOther {scope : String} {tokens : List TokenTree} {list : List Function} :
    Item.Adds scope (.methods (.other tokens) list) []
  | imports {scope : String} {tree : UseTree} {bindings : List (String × String)} :
    Item.Adds scope (.imports tree) (bindings.map fun b => .binding scope b.1 b.2)
  | inlineModule {scope : String} {name : PathWord} {items : List Item}
      {declarations : List Declaration}
      (h : Item.AddsAll (scope ++ "::" ++ name.text) items declarations) :
    Item.Adds scope (.inlineModule name items) declarations

/-- What items in a row add to a scope. -/
inductive Item.AddsAll : String → List Item → List Declaration → Prop
  | nil {scope : String} : Item.AddsAll scope [] []
  | cons {scope : String} {item : Item} {items : List Item}
      {first rest : List Declaration} (h : Item.Adds scope item first)
      (hrest : Item.AddsAll scope items rest) : Item.AddsAll scope (item :: items) (first ++ rest)

end

namespace Item

mutual

theorem adds_declarations (scope : String) : (item : Item) →
    item.Adds scope (item.declarations scope)
  | .record _ => .record
  | .alias _ _ => .alias
  | .function _ => .function
  | .methods (.path (.mk _ _ (.mk _ _))) _ => .methodsOfPath
  | .methods (.projection _ _ _ (.mk _ _)) _ => .methodsOfProjection
  | .methods (.reference ..) _ => .methodsOfReference
  | .methods (.object ..) _ => .methodsOfObject
  | .methods (.other _) _ => .methodsOfOther
  | .imports _ => .imports
  | .inlineModule _ items => .inlineModule (addsAll_declarations _ items)

theorem addsAll_declarations (scope : String) : (items : List Item) →
    AddsAll scope items (declarationsAll scope items)
  | [] => .nil
  | item :: items => .cons (adds_declarations scope item) (addsAll_declarations scope items)

end

end Item

/-! ### Tables -/

/-- The free function that a declaration adds to a catalogue. -/
def Declaration.function? : Declaration → Option CatalogFunction
  | .function entry => some entry
  | _ => none

/-- A declaration adds to a table unless it binds a name. -/
theorem Declaration.bound?_ne_none_iff (d : Declaration) : d.bound? ≠ none ↔
    d.struct? = none ∧ d.alias? = none ∧ d.function? = none ∧ d.methods? = none := by
  cases d <;> simp [bound?, struct?, alias?, function?, methods?]

namespace Catalog

/-- The tables of a catalogue list given declarations between those of other files. -/
structure Lists (c : Catalog) (before after : List SourceFile) (declarations : List Declaration) :
    Prop where
  structs : c.structs = (ofFiles before).structs ++ declarations.filterMap Declaration.struct? ++
    (ofFiles after).structs
  aliases : c.aliases = (ofFiles before).aliases ++ declarations.filterMap Declaration.alias? ++
    (ofFiles after).aliases
  functions : c.functions = (ofFiles before).functions ++
    declarations.filterMap Declaration.function? ++ (ofFiles after).functions
  methods : c.methods = (ofFiles before).methods ++ declarations.filterMap Declaration.methods? ++
    (ofFiles after).methods

theorem functions_add (c : Catalog) (d : Declaration) :
    (c.add d).functions = c.functions ++ d.function?.toList := by
  cases d with
  | function entry => rfl
  | record | «alias» | methods | binding => exact (List.append_nil _).symm

/-- A table lists the entries of a file between those of the files before and after it. -/
theorem table_ofFiles {α : Type} (table : Catalog → List α) (added : Declaration → Option α)
    (h : ∀ declarations, table (ofDeclarations declarations) = declarations.filterMap added)
    (before after : List SourceFile) (file : SourceFile) :
    table (ofFiles (before ++ file :: after)) =
      table (ofFiles before) ++ file.declarations.filterMap added ++ table (ofFiles after) := by
  simp only [ofFiles_eq, h, List.flatMap_append, List.flatMap_cons, List.filterMap_append,
    List.append_assoc]

theorem lists_ofFiles (before after : List SourceFile) (file : SourceFile) :
    (ofFiles (before ++ file :: after)).Lists before after file.declarations where
  structs := table_ofFiles Catalog.structs _ structs_ofDeclarations before after file
  aliases := table_ofFiles Catalog.aliases _ aliases_ofDeclarations before after file
  functions :=
    table_ofFiles Catalog.functions _ (foldl_add_table _ functions_add empty) before after file
  methods := table_ofFiles Catalog.methods _ (foldl_add_table _ methods_add empty) before after file

/-- Items may be left out of a list of contributions if and only if they contribute nothing. -/
theorem flatMap_filter_eq_iff {α β : Type} (p : α → Bool) (f : α → List β) (list : List α) :
    (list.filter p).flatMap f = list.flatMap f ↔ ∀ a ∈ list, p a = false → f a = [] := by
  induction list with
  | nil => simp
  | cons a list ih =>
    rw [List.forall_mem_cons, ← ih, List.flatMap_cons]
    cases hp : p a with
    | true => simp [hp]
    | false =>
      rw [List.filter_cons_of_neg (by simp [hp])]
      refine ⟨fun h => ?_, fun ⟨hnil, h⟩ => by rw [hnil rfl, h, List.nil_append]⟩
      -- What is left out shortens the list.
      have hle := ((List.filter_sublist (p := p) (l := list)).flatMap f).length_le
      have hnil : f a = [] := by
        have hlength := congrArg List.length h
        rw [List.length_append] at hlength
        exact List.eq_nil_of_length_eq_zero (by omega)
      exact ⟨fun _ => hnil, by rwa [hnil, List.nil_append] at h⟩

/-- A table lists only what is outside blocks if and only if the items in blocks add nothing. -/
theorem filterMap_addressed_eq_iff {α : Type} (added : Declaration → Option α) (scope : String)
    (o : FileOutline) :
    (o.addressed.flatMap (·.declarations scope)).filterMap added =
        (o.declared.flatMap (·.declarations scope)).filterMap added ↔
      ∀ d ∈ o.declared, d.inBlock = true → ∀ x ∈ d.declarations scope, added x = none := by
  rw [List.filterMap_flatMap, List.filterMap_flatMap, FileOutline.addressed, flatMap_filter_eq_iff]
  simp

/-- The table of a file among those of others determines what the file adds. -/
theorem middle_eq {α : Type} {table front middle middle' back : List α}
    (h : table = front ++ middle ++ back) (h' : table = front ++ middle' ++ back) :
    middle' = middle :=
  List.append_cancel_left (List.append_cancel_right (h'.symm.trans h))

variable {c : Catalog} {before after : List SourceFile} {scope : String}

theorem Lists.iff {declarations declarations' : List Declaration}
    (H : c.Lists before after declarations) : c.Lists before after declarations' ↔
      declarations'.filterMap Declaration.struct? = declarations.filterMap Declaration.struct? ∧
      declarations'.filterMap Declaration.alias? = declarations.filterMap Declaration.alias? ∧
      declarations'.filterMap Declaration.function? =
        declarations.filterMap Declaration.function? ∧
      declarations'.filterMap Declaration.methods? =
        declarations.filterMap Declaration.methods? := by
  constructor
  · intro H'
    exact ⟨middle_eq H.structs H'.structs, middle_eq H.aliases H'.aliases,
      middle_eq H.functions H'.functions, middle_eq H.methods H'.methods⟩
  · rintro ⟨hstructs, haliases, hfunctions, hmethods⟩
    exact ⟨hstructs ▸ H.structs, haliases ▸ H.aliases, hfunctions ▸ H.functions,
      hmethods ▸ H.methods⟩

/-- A file adds what is outside blocks, and no more, if and only if nothing in a block adds to a
table. -/
theorem Lists.addressed_iff {o : FileOutline}
    (H : c.Lists before after (o.declared.flatMap (·.declarations scope))) :
    c.Lists before after (o.addressed.flatMap (·.declarations scope)) ↔
      ∀ d ∈ o.declared, d.inBlock = true → ∀ x ∈ d.declarations scope, x.bound? ≠ none := by
  rw [H.iff, filterMap_addressed_eq_iff, filterMap_addressed_eq_iff, filterMap_addressed_eq_iff,
    filterMap_addressed_eq_iff]
  simp only [Declaration.bound?_ne_none_iff, imp_and, forall_and]

/-- **What a catalogue lists of a file.** A text that reads as a file has an outline, and the tables
list what the items of the outline add to their scopes, in the order of the text. Those outside all
blocks are entries, in the scope of the file extended by the modules around them; a function, a struct,
an alias or an implementation leaves itself there, and nothing from within it. The file adds these and
no more if and only if no item in a block of another declaration adds to a table. -/
theorem lists_ofText (path scope text : String) (before after : List SourceFile) :
    (FileOutline.ofText? text = none ∧
      SourceFile.ofText path scope text = .error (.source path .malformed)) ∨
    ∃ o file, FileOutline.ofText? text = some o ∧ SourceFile.ofText path scope text = .ok file ∧
      (∀ d ∈ o.addressed, ∃ entry : Addressable, d.item = entry.item) ∧
      (∀ d ∈ o.declared, d.item.Adds (Scope.below scope d.modules) (d.declarations scope)) ∧
      (ofFiles (before ++ file :: after)).Lists before after
        (o.declared.flatMap (·.declarations scope)) ∧
      ((ofFiles (before ++ file :: after)).Lists before after
          (o.addressed.flatMap (·.declarations scope)) ↔
        ∀ d ∈ o.declared, d.inBlock = true → ∀ x ∈ d.declarations scope, x.bound? ≠ none) := by
  unfold SourceFile.ofText
  rw [Item.ofText?_eq]
  cases FileOutline.ofText? text with
  | none => exact .inl ⟨rfl, rfl⟩
  | some o =>
    have hdeclarations : SourceFile.declarations ⟨path, scope, o.items⟩ =
        o.declared.flatMap (·.declarations scope) := o.declarationsAll_items scope
    have hlists := hdeclarations ▸ lists_ofFiles before after ⟨path, scope, o.items⟩
    exact .inr ⟨o, _, rfl, rfl, fun d hd => FileOutline.exists_addressable hd,
      fun d _ => d.item.adds_declarations _, hlists, hlists.addressed_iff⟩

-- The block of a constant is searched, the body of a function is not.
example : (FileOutline.ofText? "const N:T=\x7bstruct A;\x7d;fn f()\x7bstruct B;\x7d").map
    (fun o => (o.declared.flatMap (·.declarations "m")).filterMap fun d =>
      d.struct?.map fun s => (s.scope, s.name)) = some [("m", "A")] := by decide +kernel

end Catalog

end Entrypoint
