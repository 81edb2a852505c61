import Entrypoint.Proofs.Service.Attachment
import Entrypoint.Proofs.Service.Initializer

/-! The contract of initializers. Tagged functions are told apart by their sites in the catalogue. A
build succeeds exactly if each service has its initializer at one site and the signature there is
sound. Otherwise it ends with the fault of the first service that has not. -/

namespace Entrypoint

/-- Where a function stands in a catalogue: by its place among the free functions, or by the places of
its block and in the block. -/
inductive Site
  | free (place : Nat)
  | method (block place : Nat)

namespace Site

/-- The order of the catalogue. Free functions come first. -/
inductive Before : Site → Site → Prop
  | free {i j : Nat} (h : i < j) : Before (.free i) (.free j)
  | freeMethod {i b j : Nat} : Before (.free i) (.method b j)
  | block {b c i j : Nat} (h : b < c) : Before (.method b i) (.method c j)
  | inBlock {b i j : Nat} (h : i < j) : Before (.method b i) (.method b j)

theorem Before.asymm {a b : Site} (h : a.Before b) : ¬b.Before a := by
  intro h'
  cases h <;> cases h' <;> omega

end Site

namespace TaggedCatalog

/-- A function that is tagged as an initializer stands at a site and is read as a candidate. A method
is written for the type of its block. -/
inductive DeclaresInitializer (t : TaggedCatalog) : Site → Candidate → Prop
  | free {i : Nat} {f : CatalogFunction} (hf : t.catalog.functions[i]? = some f)
      (htag : t.hasRole .initializer f.function.documentation = true) :
      DeclaresInitializer t (.free i)
        { declaration := QualifiedName.path ⟨f.scope, f.function.name⟩
          function := ⟨f.scope, f.function.name⟩
          selfName := none
          signature := f.function.signature }
  | method {b j : Nat} {block : CatalogMethods} {m : Function}
      (hblock : t.catalog.methods[b]? = some block) (hm : block.methods[j]? = some m)
      (htag : t.hasRole .initializer m.documentation = true) :
      DeclaresInitializer t (.method b j)
        { declaration := block.selfName ++ "::" ++ m.name
          function := ⟨block.scope, m.name⟩
          selfName := some block.selfName
          signature := m.signature }

/-- The one initializer of a service: all initializers of the service stand at its site, and its
signature is sound. -/
structure HasSoleInitializer (t : TaggedCatalog) (service : String) (candidate : Candidate) : Prop where
  declared : ∃ site, t.DeclaresInitializer site candidate ∧
    ∀ site' other, t.DeclaresInitializer site' other → other.IsOf service → site' = site
  isOf : candidate.IsOf service
  isSound : candidate.IsSound

/-- All initializers of a service with their sites, in the order of the catalogue. -/
structure ListsInitializers (t : TaggedCatalog) (service : String) (found : List (Site × Candidate)) :
    Prop where
  ordered : found.Pairwise fun a b => a.1.Before b.1
  mem_iff : ∀ site candidate,
    (site, candidate) ∈ found ↔ t.DeclaresInitializer site candidate ∧ candidate.IsOf service

/-- The fault of a service without its one initializer: that of the first one whose signature is not
sound, or else that of having none or several. -/
inductive LacksInitializer (t : TaggedCatalog) (service : String) : Fault → Prop
  | unsound {site : Site} {candidate : Candidate} {breach : Breach}
      (h : t.DeclaresInitializer site candidate) (hof : candidate.IsOf service)
      (hbefore : ∀ site' other, site'.Before site → t.DeclaresInitializer site' other →
        other.IsOf service → other.IsSound)
      (hbreach : candidate.Breaches breach) :
      LacksInitializer t service (.breach candidate.declaration breach)
  | missing (h : ∀ site candidate, t.DeclaresInitializer site candidate → ¬candidate.IsOf service) :
      LacksInitializer t service (.breach service .noInitializer)
  | several {found : List (Site × Candidate)} (h : t.ListsInitializers service found)
      (hcount : 2 ≤ found.length) (hsound : ∀ entry ∈ found, entry.2.IsSound) :
      LacksInitializer t service
        (.breach service (.manyInitializers (found.map (·.2.declaration))))

/-- A build keeps the contract of initializers for services, which come in the order of the
catalogue. -/
structure KeepsInitializerContract (t : TaggedCatalog) (services : List CatalogStruct) : Prop where
  builds_iff : (∃ outcome, t.build = .ok outcome) ↔
    ∀ s ∈ services, ∃ candidate, t.HasSoleInitializer s.name candidate
  /-- The services of an outcome are those of the structs, each with the initializer of its struct. -/
  built : ∀ outcome, t.build = .ok outcome →
    List.Forall₂ (fun s service => ∃ candidate, t.HasSoleInitializer s.name candidate ∧
      service.typeRef = ⟨s.scope, s.name⟩ ∧ service.initializer =
        ⟨candidate.function, candidate.selfName.isSome, candidate.signature.isAsync⟩)
      services outcome.services
  /-- The fault is that of the first service without its initializer. -/
  refused : ∀ fault, t.build = .error fault →
    ∃ before s after, services = before ++ s :: after ∧
      (∀ other ∈ before, ∃ candidate, t.HasSoleInitializer other.name candidate) ∧
        t.LacksInitializer s.name fault

/-! ### Sites -/

/-- The elements of a list that pass a check, each with its index. -/
def indexed {α : Type} (p : α → Bool) (l : List α) : List (α × Nat) :=
  l.zipIdx.filter fun entry => p entry.1

section

variable {α : Type} {p : α → Bool} {l : List α}

theorem map_fst_indexed : (indexed p l).map Prod.fst = l.filter p := by
  have hindexed : indexed p l = l.zipIdx.filter (p ∘ Prod.fst) := rfl
  rw [hindexed, ← List.filter_map, List.zipIdx_map_fst]

theorem mem_indexed {a : α} {i : Nat} : (a, i) ∈ indexed p l ↔ l[i]? = some a ∧ p a = true := by
  rw [indexed, List.mem_filter, List.mk_mem_zipIdx_iff_getElem?]

theorem pairwise_zipIdx : l.zipIdx.Pairwise fun a b => a.2 < b.2 := by
  rw [← List.pairwise_map (f := Prod.snd), List.zipIdx_map_snd]
  exact List.pairwise_lt_range'

theorem pairwise_indexed : (indexed p l).Pairwise fun a b => a.2 < b.2 :=
  pairwise_zipIdx.filter _

end

/-- The tagged initializers with their sites. -/
def initializerSites (t : TaggedCatalog) : List (Site × Candidate) :=
  (indexed (fun f => t.hasRole .initializer f.function.documentation) t.catalog.functions).map
      (fun f => (.free f.2, .ofFunction f.1)) ++
    t.catalog.methods.zipIdx.flatMap fun block =>
      (indexed (fun m => t.hasRole .initializer m.documentation) block.1.methods).map fun m =>
        (.method block.2 m.2, .ofMethod block.1 m.1)

variable {t : TaggedCatalog} {service : String} {candidate : Candidate} {site : Site} {fault : Fault}

theorem map_snd_initializerSites (t : TaggedCatalog) :
    t.initializerSites.map Prod.snd = t.candidates := by
  have hblock : ∀ block : CatalogMethods, ∀ b : Nat,
      ((indexed (fun m => t.hasRole .initializer m.documentation) block.methods).map fun m =>
        (Site.method b m.2, Candidate.ofMethod block m.1)).map Prod.snd =
      (block.methods.filter fun m => t.hasRole .initializer m.documentation).map (.ofMethod block) :=
    fun block b => by
      rw [← map_fst_indexed, List.map_map, List.map_map]
      rfl
  rw [initializerSites, candidates, List.map_append, List.map_map, List.map_flatMap]
  congr 1
  · rw [← map_fst_indexed, List.map_map]
    rfl
  · simp only [hblock]
    conv_rhs => rw [← List.zipIdx_map_fst 0 t.catalog.methods]
    rw [List.flatMap_map]

theorem mem_initializerSites : (site, candidate) ∈ t.initializerSites ↔
    t.DeclaresInitializer site candidate := by
  rw [initializerSites, List.mem_append]
  constructor
  · rintro (h | h)
    · obtain ⟨⟨f, i⟩, hf, heq⟩ := List.mem_map.mp h
      obtain ⟨hf, htag⟩ := mem_indexed.mp hf
      cases heq
      exact .free hf htag
    · obtain ⟨⟨block, b⟩, hblock, h⟩ := List.mem_flatMap.mp h
      obtain ⟨⟨m, j⟩, hm, heq⟩ := List.mem_map.mp h
      obtain ⟨hm, htag⟩ := mem_indexed.mp hm
      cases heq
      exact .method (List.mk_mem_zipIdx_iff_getElem?.mp hblock) hm htag
  · intro h
    cases h with
    | @free i f hf htag =>
      exact .inl (List.mem_map.mpr ⟨(f, i), mem_indexed.mpr ⟨hf, htag⟩, rfl⟩)
    | @method b j block m hblock hm htag =>
      refine .inr (List.mem_flatMap.mpr ⟨(block, b), List.mk_mem_zipIdx_iff_getElem?.mpr hblock, ?_⟩)
      exact List.mem_map.mpr ⟨(m, j), mem_indexed.mpr ⟨hm, htag⟩, rfl⟩

theorem pairwise_initializerSites (t : TaggedCatalog) :
    t.initializerSites.Pairwise fun a b => a.1.Before b.1 := by
  rw [initializerSites, List.pairwise_append]
  refine ⟨?_, ?_, fun a ha b hb => ?_⟩
  · rw [List.pairwise_map]
    exact pairwise_indexed.imp .free
  · rw [List.pairwise_flatMap]
    refine ⟨fun block _ => ?_, pairwise_zipIdx.imp fun hlt a ha b hb => ?_⟩
    · rw [List.pairwise_map]
      exact pairwise_indexed.imp .inBlock
    · obtain ⟨m, _, rfl⟩ := List.mem_map.mp ha
      obtain ⟨m', _, rfl⟩ := List.mem_map.mp hb
      exact .block hlt
  · obtain ⟨f, _, rfl⟩ := List.mem_map.mp ha
    obtain ⟨block, _, hb⟩ := List.mem_flatMap.mp hb
    obtain ⟨m, _, rfl⟩ := List.mem_map.mp hb
    exact .freeMethod

/-- The initializers of a service can be listed with their sites. -/
theorem exists_lists (t : TaggedCatalog) (service : String) :
    ∃ found, t.ListsInitializers service found ∧ found.map Prod.snd = t.initializersOf service := by
  refine ⟨t.initializerSites.filter fun entry => entry.2.IsOf service,
    ⟨(pairwise_initializerSites t).filter _, fun site candidate => ?_⟩, ?_⟩
  · rw [List.mem_filter, mem_initializerSites, decide_eq_true_iff]
  · rw [initializersOf, ← map_snd_initializerSites, List.filter_map]
    rfl

/-! ### One initializer -/

/-- Sites in order are told apart. -/
theorem eq_singleton_of_site {found : List (Site × Candidate)}
    (hordered : found.Pairwise fun a b => a.1.Before b.1) (hmem : (site, candidate) ∈ found)
    (hsite : ∀ entry ∈ found, entry.1 = site) : found = [(site, candidate)] := by
  cases found with
  | nil => cases hmem
  | cons first rest =>
    cases rest with
    | nil => rw [List.mem_singleton.mp hmem]
    | cons second rest =>
      have hbefore := (List.pairwise_cons.mp hordered).1 second List.mem_cons_self
      rw [hsite first List.mem_cons_self,
        hsite second (List.mem_cons_of_mem _ List.mem_cons_self)] at hbefore
      exact absurd hbefore hbefore.asymm

theorem hasSoleInitializer_iff :
    t.HasSoleInitializer service candidate ↔ t.HasInitializer service candidate := by
  obtain ⟨found, hlists, hfound⟩ := t.exists_lists service
  constructor
  · rintro ⟨⟨site, hdeclared, hsole⟩, hof, hsound⟩
    refine ⟨?_, hsound⟩
    rw [← hfound, eq_singleton_of_site hlists.ordered
      ((hlists.mem_iff site candidate).mpr ⟨hdeclared, hof⟩) fun entry hentry => ?_]
    · rfl
    · obtain ⟨hother, hotherOf⟩ := (hlists.mem_iff entry.1 entry.2).mp hentry
      exact hsole _ _ hother hotherOf
  · rintro ⟨hlist, hsound⟩
    rw [← hfound, List.map_eq_singleton_iff] at hlist
    obtain ⟨⟨site, candidate⟩, rfl, rfl⟩ := hlist
    obtain ⟨hdeclared, hof⟩ := (hlists.mem_iff site candidate).mp (List.mem_singleton_self _)
    refine ⟨⟨site, hdeclared, fun site' other hother hotherOf => ?_⟩, hof, hsound⟩
    have hmem := (hlists.mem_iff site' other).mpr ⟨hother, hotherOf⟩
    exact (Prod.mk.inj (List.mem_singleton.mp hmem)).1

theorem InitializerFault.lacks (h : t.InitializerFault service fault) :
    t.LacksInitializer service fault := by
  obtain ⟨found, hlists, hfound⟩ := t.exists_lists service
  cases h with
  | @unsound before after candidate breach h hbefore hbreach =>
    rw [← hfound] at h
    obtain ⟨front, rest, rfl, hfront, hrest⟩ := List.map_eq_append_iff.mp h
    obtain ⟨⟨site, candidate⟩, back, rfl, rfl, _⟩ := List.map_eq_cons_iff.mp hrest
    obtain ⟨hdeclared, hof⟩ := (hlists.mem_iff site candidate).mp
      (List.mem_append_right _ List.mem_cons_self)
    refine .unsound hdeclared hof (fun site' other hsite hother hotherOf => ?_)
      (Candidate.breach?_eq_some_iff.mp hbreach)
    have hback := (List.pairwise_cons.mp (List.pairwise_append.mp hlists.ordered).2.1).1
    rcases List.mem_append.mp ((hlists.mem_iff site' other).mpr ⟨hother, hotherOf⟩) with hmem | hmem
    · exact hbefore other (hfront ▸ List.mem_map_of_mem hmem)
    · rcases List.mem_cons.mp hmem with heq | hmem
      · cases heq
        exact absurd hsite hsite.asymm
      · exact absurd (hback _ hmem) hsite.asymm
  | missing h =>
    rw [h, List.map_eq_nil_iff] at hfound
    subst hfound
    exact .missing fun site candidate hdeclared hof =>
      nomatch (hlists.mem_iff site candidate).mpr ⟨hdeclared, hof⟩
  | several h hsound =>
    rw [← hfound, List.length_map] at h
    rw [← hfound, List.map_map]
    exact .several hlists h fun entry hentry =>
      hsound entry.2 (hfound ▸ List.mem_map_of_mem hentry)

/-- **The contract of initializers.** It is kept for the structs that are tagged as services. -/
theorem build_initializers (t : TaggedCatalog) : t.KeepsInitializerContract
    (t.catalog.structs.filter fun s => t.hasRole .service s.item.documentation) := by
  have hexists : ∀ s : CatalogStruct, (∃ candidate, t.HasSoleInitializer s.name candidate) ↔
      ∃ made, t.service s = .ok made := fun s => by
    simp only [hasSoleInitializer_iff]
    exact ⟨fun ⟨candidate, h⟩ => ⟨_, service_eq_ok.mpr ⟨candidate, h, rfl⟩⟩,
      fun ⟨made, h⟩ => (service_eq_ok.mp h).imp fun _ h => h.1⟩
  refine ⟨⟨?_, fun h => ?_⟩, fun outcome h => ?_, fun fault h => ?_⟩
  · rintro ⟨outcome, h⟩ s hs
    obtain ⟨services, hservices, _⟩ := Results.map_eq_ok.mp h
    obtain ⟨made, _, hmade⟩ := Results.exists_of_mapM_mem hservices hs
    exact (hexists s).mpr ⟨made, hmade⟩
  · obtain ⟨services, hservices⟩ := Results.exists_mapM fun s hs => (hexists s).mp (h s hs)
    exact ⟨_, Results.map_eq_ok.mpr ⟨services, hservices, rfl⟩⟩
  · obtain ⟨services, hservices, rfl⟩ := Results.map_eq_ok.mp h
    refine (Results.mapM_eq_ok.mp hservices).imp fun s made hmade => ?_
    obtain ⟨candidate, hcandidate, rfl⟩ := service_eq_ok.mp hmade
    exact ⟨candidate, hasSoleInitializer_iff.mpr hcandidate, rfl, rfl⟩
  · obtain ⟨before, s, after, hlist, hbefore, hs⟩ :=
      Results.exists_of_mapM_error (Results.map_eq_error.mp h)
    refine ⟨before, s, after, hlist, fun other hother => (hexists other).mpr (hbefore other hother), ?_⟩
    exact (initializerFault_of_error (Results.map_eq_error.mp hs)).lacks

end TaggedCatalog

/-! ### A rival initializer

The service `S` has its initializer `n`. In the second catalogue a free function makes it as well. -/

namespace Sample

def makerName : Ident := ⟨⟨"o", by decide⟩, by decide⟩

def makerFile : SourceFile := ⟨"b.rs", "b",
  [.function { initializer with signature := { initializer.signature with name := makerName } }]⟩

def soleCatalog : TaggedCatalog := ⟨"g", Catalog.ofFiles [serviceFile]⟩

def rivalCatalog : TaggedCatalog := ⟨"g", Catalog.ofFiles [makerFile, serviceFile]⟩

def rivalFault : Fault := .breach "S" (.manyInitializers ["b::o", "S::n"])

theorem build_rivalCatalog : rivalCatalog.build = .error rivalFault := rfl

/-- The free function comes first in the fault, and no candidate is left as the only one. -/
theorem build_initializers_rivals :
    (∃ outcome, soleCatalog.build = .ok outcome) ∧
      (∃ candidate, soleCatalog.HasSoleInitializer "S" candidate) ∧
      rivalCatalog.build = .error rivalFault ∧ rivalCatalog.LacksInitializer "S" rivalFault ∧
      ¬∃ candidate, rivalCatalog.HasSoleInitializer "S" candidate := by
  let s : CatalogStruct := ⟨"a", ⟨"g:service", serviceName, .absent⟩⟩
  have hsole : soleCatalog.KeepsInitializerContract [s] :=
    TaggedCatalog.build_initializers soleCatalog
  have hrivals : rivalCatalog.KeepsInitializerContract [s] :=
    TaggedCatalog.build_initializers rivalCatalog
  have hbuild : ∃ outcome, soleCatalog.build = .ok outcome :=
    Results.exists_of_isSome_toOption (by decide)
  have hlacks : rivalCatalog.LacksInitializer "S" rivalFault := by
    obtain ⟨before, other, after, hlist, _, hlacks⟩ := hrivals.refused _ build_rivalCatalog
    have hmem : other ∈ [s] := by
      rw [hlist]
      exact List.mem_append_right _ List.mem_cons_self
    rwa [List.mem_singleton.mp hmem] at hlacks
  refine ⟨hbuild, hsole.builds_iff.mp hbuild s (List.mem_singleton_self _), build_rivalCatalog,
    hlacks, fun h => ?_⟩
  obtain ⟨outcome, hok⟩ := hrivals.builds_iff.mpr fun other hother =>
    List.mem_singleton.mp hother ▸ h
  exact nomatch build_rivalCatalog.symm.trans hok

end Sample

end Entrypoint
