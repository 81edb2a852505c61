import Entrypoint.Proofs.Source.Outline

/-! The outline of a file against its declarations. A relation of two readers says that both take
the same trees and that only the first one records; the relation of their values is also one with
what is recorded. -/

namespace Entrypoint

namespace Reading

variable {α β γ δ : Type} {R : α → β → List Item → Prop} {S : γ → δ → List Item → Prop}

/-- Every value that a reader gives has a property. -/
class Gives (P : α → Prop) (r : Reading α) : Prop where
  holds : ∀ row a rest, r.run row = some (a, rest) → P a

theorem Gives.trivial (r : Reading α) : Gives (fun _ => True) r := ⟨fun _ _ _ _ => True.intro⟩

theorem Gives.pure {P : α → Prop} {a : α} (h : P a) : Gives P (Pure.pure a) := by
  refine ⟨?_⟩
  rintro row _ rest ⟨⟩
  exact h

section

variable {P : α → Prop}

instance : Gives P failure := by
  refine ⟨?_⟩
  rintro row a rest ⟨⟩

instance {x : Reading β} {k : β → Reading α} [H : ∀ b, Gives P (k b)] : Gives P (x >>= k) := by
  refine ⟨fun row a rest hrun => ?_⟩
  rw [StateT.run_bind, Option.bind_eq_bind, Option.bind_eq_some_iff] at hrun
  obtain ⟨⟨b, row'⟩, -, hk⟩ := hrun
  exact (H b).holds row' a rest hk

instance (priority := high) {x : Reading (β × γ)} {k : β × γ → Reading α}
    [H : ∀ b c, Gives P (k (b, c))] : Gives P (x >>= k) :=
  have : ∀ read, Gives P (k read) := fun read => H read.1 read.2
  inferInstance

instance {c : Prop} [Decidable c] {x y : Reading α} [hx : Gives P x] [hy : Gives P y] :
    Gives P (if c then x else y) := by
  split
  · exact hx
  · exact hy

instance {r : Reading α} [H : Gives P r] : Gives P (unrecorded r) := by
  refine ⟨fun row a rest hrun => ?_⟩
  rw [unrecorded, StateT.run_bind, run_gathered_eq, Option.bind_eq_bind,
    Option.bind_eq_some_iff] at hrun
  obtain ⟨_, hread, hpure⟩ := hrun
  obtain ⟨⟨b, after⟩, hr, rfl⟩ := Option.map_eq_some_iff.mp hread
  obtain ⟨rfl, -⟩ := Prod.mk.inj (Option.some.inj hpure)
  exact H.holds _ _ _ hr

end

/-- The second reader takes what the first one takes, whatever was recorded before, and records
nothing. -/
def Shows (R : α → β → List Item → Prop) (r : Reading α) (o : Reading β) : Prop :=
  ∀ trees found found',
    (r.run ⟨trees, found⟩ = none ∧ o.run ⟨trees, found'⟩ = none) ∨
      ∃ a b new rest, r.run ⟨trees, found⟩ = some (a, ⟨rest, found ++ new⟩) ∧
        o.run ⟨trees, found'⟩ = some (b, ⟨rest, found'⟩) ∧ R a b new

namespace Shows

theorem failure : Shows R (Alternative.failure : Reading α) (Alternative.failure : Reading β) :=
  fun _ _ _ => .inl ⟨rfl, rfl⟩

theorem pure {a : α} {b : β} (h : R a b []) : Shows R (Pure.pure a) (Pure.pure b) := by
  intro trees found found'
  refine .inr ⟨a, b, [], trees, ?_, rfl, h⟩
  rw [List.append_nil]
  rfl

theorem bind {x : Reading α} {x' : Reading β} {k : α → Reading γ} {k' : β → Reading δ}
    (hx : Shows R x x')
    (hk : ∀ a b new, R a b new → Shows (fun c d more => S c d (new ++ more)) (k a) (k' b)) :
    Shows S (x >>= k) (x' >>= k') := by
  intro trees found found'
  simp only [StateT.run_bind]
  obtain ⟨hr, ho⟩ | ⟨a, b, new, rest, hr, ho, hR⟩ := hx trees found found'
  · exact .inl ⟨by rw [hr]; rfl, by rw [ho]; rfl⟩
  obtain ⟨hr', ho'⟩ | ⟨c, d, more, rest', hr', ho', hS⟩ := hk a b new hR rest (found ++ new) found'
  · exact .inl ⟨by rw [hr]; exact hr', by rw [ho]; exact ho'⟩
  · refine .inr ⟨c, d, new ++ more, rest', ?_, by rw [ho]; exact ho', hS⟩
    rw [hr, ← List.append_assoc]
    exact hr'

/-- The values of both readers may be worked on. -/
theorem map {x : Reading α} {x' : Reading β} {k : α → γ} {k' : β → δ} (hx : Shows R x x')
    (h : ∀ a b new, R a b new → S (k a) (k' b) new) :
    Shows S (x >>= fun a => Pure.pure (k a)) (x' >>= fun b => Pure.pure (k' b)) :=
  bind hx fun a b new hR => .pure (by rw [List.append_nil]; exact h a b new hR)

theorem map_left {x : Reading α} {x' : Reading β} {k : α → γ}
    {S : γ → β → List Item → Prop} (hx : Shows R x x')
    (h : ∀ a b new, R a b new → S (k a) b new) :
    Shows S (x >>= fun a => Pure.pure (k a)) x' := by
  rw [← bind_pure x']
  exact map hx h

theorem map_right {x : Reading α} {x' : Reading β} {k' : β → δ}
    {S : α → δ → List Item → Prop} (hx : Shows R x x')
    (h : ∀ a b new, R a b new → S a (k' b) new) :
    Shows S x (x' >>= fun b => Pure.pure (k' b)) := by
  rw [← bind_pure x]
  exact map hx h

/-- A reader that records nothing shows itself. -/
theorem same {P : α → Prop} {x : Reading α} [H : ∀ f, Carries f x] (h : Gives P x) :
    Shows (fun a b new => b = a ∧ new = [] ∧ P a) x x := by
  intro trees found found'
  have hr := run_eq_append x ⟨trees, found⟩
  have ho := run_eq_append x ⟨trees, found'⟩
  cases hrun : x.run ⟨trees, []⟩ with
  | none =>
    rw [hrun] at hr ho
    exact .inl ⟨hr, ho⟩
  | some result =>
    obtain ⟨a, rest, new⟩ := result
    obtain rfl : new = [] := found_eq hrun
    rw [hrun] at hr ho
    refine .inr ⟨a, a, [], rest, hr, ho.trans ?_, rfl, rfl, h.holds _ _ _ hrun⟩
    simp [Row.mapFound]

/-- A reader that records nothing begins both. -/
theorem after (x : Reading α) [∀ f, Carries f x] {k : α → Reading γ} {k' : α → Reading δ}
    (hk : ∀ a, Shows S (k a) (k' a)) : Shows S (x >>= k) (x >>= k') := by
  refine bind (same (.trivial x)) ?_
  rintro a b new ⟨rfl, rfl, -⟩
  exact hk _

theorem record {items : List Item} {k : Reading α} {o : Reading β}
    (H : Shows (fun a b more => R a b (items ++ more)) k o) :
    Shows R (Reading.record items >>= fun _ => k) o := by
  intro trees found found'
  obtain hnone | ⟨a, b, more, rest, hr, ho, hR⟩ := H trees (found ++ items) found'
  · exact .inl hnone
  · refine .inr ⟨a, b, items ++ more, rest, ?_, ho, hR⟩
    rw [← List.append_assoc]
    exact hr

/-- What is gathered is what the reader would record. -/
theorem gathered_left {r : Reading α} {o : Reading β} (H : Shows R r o) :
    Shows (fun p b new => R p.1 b p.2 ∧ new = []) (gathered r) o := by
  intro trees found found'
  rw [run_gathered_eq]
  obtain ⟨hr, ho⟩ | ⟨a, b, new, rest, hr, ho, hR⟩ := H trees [] found'
  · exact .inl ⟨by rw [hr]; rfl, ho⟩
  · refine .inr ⟨(a, new), b, [], rest, ?_, ho, hR, rfl⟩
    rw [hr, List.nil_append, List.append_nil]
    rfl

theorem gathered_right (r : Reading α) [∀ front, Carries (front ++ ·) r] :
    Shows (fun a p new => p = (a, new)) r (gathered r) := by
  intro trees found found'
  have hr := run_eq_append r ⟨trees, found⟩
  rw [run_gathered_eq]
  cases hrun : r.run ⟨trees, []⟩ with
  | none =>
    rw [hrun] at hr
    exact .inl ⟨hr, rfl⟩
  | some result =>
    obtain ⟨a, rest, new⟩ := result
    rw [hrun] at hr
    exact .inr ⟨a, (a, new), new, rest, hr, rfl, rfl⟩

theorem within {r : Reading α} {o : Reading β} (H : Shows R r o) (body : List TokenTree) :
    Shows R (within body r) (within body o) := by
  intro trees found found'
  rw [run_within_eq, run_within_eq]
  obtain ⟨hr, ho⟩ | ⟨a, b, new, rest, hr, ho, hR⟩ := H body found found'
  · exact .inl ⟨by rw [hr]; rfl, by rw [ho]; rfl⟩
  rw [hr, ho]
  cases rest with
  | nil => exact .inr ⟨a, b, new, trees, rfl, rfl, hR⟩
  | cons first rest => exact .inl ⟨rfl, rfl⟩

theorem many {items : β → List Item} {item : Reading α} {o : Reading β}
    (H : Shows (fun _ b new => new = items b) item o) (stop : Ahead) (fuel : Nat) :
    Shows (fun _ list new => new = list.flatMap items) (many stop item fuel)
      (many stop o fuel) := by
  induction fuel with
  | zero => exact .failure
  | succ fuel ih =>
    refine .after (sees stop) fun ends => ?_
    cases ends with
    | true => exact .pure rfl
    | false =>
      refine .bind H fun a b new hb => .map ih fun as bs more hbs => ?_
      rw [List.flatMap_cons, hb, hbs]

/-- What a declaration leaves that may be kept as written and then leaves nothing. -/
def Leaves (items : β → List Item) (tokens : Option α) (b : β) (new : List Item) : Prop :=
  items b = if tokens.isSome then new else []

theorem orWritten {items : β → List Item} {r : Reading (Option (List TokenTree))} {o : Reading β}
    (H : Shows (Leaves items) r o) :
    Shows (fun _ b new => new = items b) (orWritten r) o := by
  intro trees found found'
  simp only [Reading.orWritten]
  obtain ⟨hr, ho⟩ | ⟨tokens, b, new, rest, hr, ho, hb⟩ := H trees found found'
  · exact .inl ⟨by simp [hr], ho⟩
  cases tokens with
  | some tokens => exact .inr ⟨tokens, b, new, rest, by simp [hr], ho, hb.symm⟩
  | none =>
    refine .inr ⟨trees.take (trees.length - rest.length), b, [], rest, ?_, ho, hb.symm⟩
    simp [hr, run_writtenSince]

theorem whole?_eq {k : β → α} {r : Reading α} {o : Reading β}
    (H : Shows (fun a b _ => a = k b) r o) (trees : List TokenTree) :
    whole? trees r = (whole? trees o).map k := by
  simp only [whole?]
  obtain ⟨hr, ho⟩ | ⟨_, b, new, rest, hr, ho, rfl⟩ := H trees [] []
  · rw [hr, ho]
    rfl
  · rw [hr, ho]
    cases rest <;> rfl

end Shows

end Reading

/-! ### Declarations -/

namespace Grammar

open Reading

theorem shows_functionItem (g : Grammar) (attributes : List Attribute) :
    Shows (Shows.Leaves fun entry => entry.toList.map Addressable.item)
      (g.functionItem attributes) (g.functionEntry attributes) := by
  unfold functionItem functionEntry
  refine .after _ fun signature => .after _ fun ends => ?_
  cases ends with
  | true => exact .pure rfl
  | false =>
    refine .after _ fun read => ?_
    exact .record (.pure rfl)

theorem shows_useItem :
    Shows (Shows.Leaves fun entry => entry.toList.map Addressable.item) useItem importEntry := by
  unfold useItem importEntry
  refine .after _ fun keyword => .after _ fun root => .after _ fun here => ?_
  refine .after _ fun read => .after _ fun semicolon => ?_
  obtain ⟨tree, tokens⟩ := read
  cases tree with
  | none => exact .pure rfl
  | some tree => exact .record (.pure rfl)

theorem shows_aliasItem (g : Grammar) :
    Shows (Shows.Leaves fun entry => entry.toList.map Addressable.item) g.aliasItem
      g.aliasEntry := by
  unfold aliasItem aliasEntry
  refine .after _ fun type => .after _ fun semicolon => ?_
  cases htarget : type.target with
  | none => exact .pure (by simp [Shows.Leaves])
  | some target =>
    cases hbounded : type.isBounded with
    | true => exact .pure rfl
    | false => exact .record (.pure rfl)

theorem shows_recordItem (g : Grammar) (attributes : List Attribute) :
    Shows (fun _ entry new => new = (entry : Option Addressable).toList.map Addressable.item)
      (g.recordItem attributes) (g.recordEntry attributes) := by
  unfold recordItem recordEntry
  refine .after _ fun read => ?_
  exact .record (.pure rfl)

/-- What an implementation leaves is no module, and nothing if it is kept as written. -/
def LeavesAddressable (read : Option Item × Option (List TokenTree)) : Prop :=
  (read.1.bind Item.addressable?).toList.map Addressable.item =
    if read.2.isSome then read.1.toList else []

instance : Gives LeavesAddressable (pure (none, none)) := .pure rfl

instance {c : Prop} [Decidable c] (selfType : TypeExpr) (list : List Function)
    (tokens : List TokenTree) :
    Gives LeavesAddressable
      (pure (if c then some (.methods selfType list) else none, some tokens)) := by
  split <;> exact .pure rfl

set_option synthInstance.maxSize 1000000 in
instance (g : Grammar) (isVisible : Bool) :
    Gives LeavesAddressable (g.implementation isVisible) := by
  unfold implementation
  infer_instance

theorem shows_implementationItem (g : Grammar) (isVisible : Bool) :
    Shows (Shows.Leaves fun entry => entry.toList.map Addressable.item)
      (g.implementationItem isVisible) (g.methodsEntry isVisible) := by
  unfold implementationItem methodsEntry
  refine .bind (.same (P := LeavesAddressable) inferInstance) ?_
  rintro ⟨methods, tokens⟩ _ _ ⟨rfl, rfl, h⟩
  refine .record (.pure ?_)
  rw [Shows.Leaves, List.append_nil]
  exact h

variable {g : Grammar} [∀ front, g.Carrying (front ++ ·)] {inside : Reading Outline}

theorem shows_moduleInside (H : Shows (fun _ o new => new = Outline.items o) g.item inside)
    (met : List Item) (name : PathWord) :
    Shows (fun _ o new => Outline.items o = [.inlineModule name (met ++ new)])
      (do
        let attributes ← g.innerAttributes
        return attributes ++ (← many .atEnd g.item (← room)).flatten)
      (g.moduleInside inside met name) := by
  refine .bind (.gathered_right g.innerAttributes) ?_
  rintro attributes _ metInside rfl
  refine .after _ fun fuel => .map (H.many _ fuel) ?_
  rintro _ outlines new rfl
  simp only [Outline.items, Outline.itemsAll_eq, List.append_assoc]

theorem shows_moduleItem (H : Shows (fun _ o new => new = Outline.items o) g.item inside)
    (met : List Item) : Shows (fun _ o new => new = Outline.items o) (g.moduleItem met)
      (g.moduleOutline inside met) := by
  unfold moduleItem moduleOutline
  refine .after _ fun unsafety => .after _ fun keyword => .after _ fun _ => .after _ fun name => ?_
  refine .after _ fun ends => ?_
  cases ends with
  | true => exact .after _ fun semicolon => .pure rfl
  | false =>
    have hbody : Shows (fun _ o new => Outline.items o = [.inlineModule name (met ++ new)])
        (grouped .brace do
          let attributes ← g.innerAttributes
          return attributes ++ (← many .atEnd g.item (← room)).flatten)
        (do within (← group .brace) (g.moduleInside inside met name)) :=
      .after _ fun body => .map_left (.within (shows_moduleInside H met name) body) fun _ _ _ h => h
    rw [← bind_pure (group .brace >>= _)]
    refine .bind hbody.gathered_left ?_
    rintro ⟨body, metInBody⟩ o new ⟨ho, rfl⟩
    exact .record (.pure (by simp [ho]))

theorem shows_itemBody (H : Shows (fun _ o new => new = Outline.items o) g.item inside)
    (attributes : List Attribute) (met : List Item) (isVisible : Bool) :
    Shows (Shows.Leaves Outline.items) (g.itemBody attributes met isVisible)
      (g.outlineBody inside attributes met isVisible) := by
  unfold itemBody outlineBody
  refine .after _ fun here => ?_
  split
  · exact (shows_functionItem g attributes).map_right fun _ _ _ h => h
  refine .after _ fun isImport => ?_
  split
  · exact shows_useItem.map_right fun _ _ _ h => h
  refine .after _ fun isType => ?_
  split
  · exact (shows_aliasItem g).map_right fun _ _ _ h => h
  refine .after _ fun isStruct => ?_
  split
  · exact (shows_recordItem g attributes).map fun _ _ _ h => h.symm
  refine .after _ fun isModule => ?_
  split
  · exact (shows_moduleItem H met).map_left fun _ _ _ h => h.symm
  refine .after _ fun isImplementation => ?_
  split
  · exact (shows_implementationItem g isVisible).map_right fun _ _ _ h => h
  · refine .record (.map_right (.gathered_right (g.searchedItem isVisible)) ?_)
    rintro tokens _ new rfl
    exact rfl

theorem shows_itemWith (H : Shows (fun _ o new => new = Outline.items o) g.item inside) :
    Shows (fun _ o new => new = Outline.items o) g.itemWith (g.outlineWith inside) := by
  unfold itemWith outlineWith
  refine .orWritten (.after _ fun read => .after _ fun visible => ?_)
  refine (shows_itemBody H _ _ _).map_left fun tokens o new h => ?_
  simpa [Shows.Leaves] using h

/-- What a declaration records is what its outline leaves. -/
theorem shows_item (depth : Nat) :
    Shows (fun _ o new => new = Outline.items o) (ofDepth depth).item (outline depth) := by
  induction depth with
  | zero => exact .failure
  | succ depth ih => exact shows_itemWith ih

theorem shows_file (depth : Nat) :
    Shows (fun items o _ => items = FileOutline.items o) (file (ofDepth depth))
      (fileOutline depth) := by
  unfold file fileOutline
  have hread : Shows (fun _ o new => new = FileOutline.items o)
      (do
        let _ ← (ofDepth depth).innerAttributes
        many .atEnd (ofDepth depth).item (← room))
      (fileOutline depth) := by
    refine .bind (.gathered_right (ofDepth depth).innerAttributes) ?_
    rintro attributes _ met rfl
    refine .after _ fun fuel => .map_right ((shows_item depth).many _ fuel) ?_
    rintro _ outlines new rfl
    rw [FileOutline.items, Outline.itemsAll_eq]
  exact hread.gathered_left.map_left fun _ _ _ h => h.1

end Grammar

/-- The items of a file are those that the declarations outside all blocks leave. -/
theorem Item.ofText?_eq (text : String) :
    Item.ofText? text = (FileOutline.ofText? text).map FileOutline.items := by
  rw [Item.ofText?, FileOutline.ofText?, Option.map_bind]
  refine congrArg _ (funext fun trees => ?_)
  exact (Grammar.shows_file _).whole?_eq trees

end Entrypoint
