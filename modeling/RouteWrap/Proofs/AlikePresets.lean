import RouteWrap.Proofs.Coverage

/-!
Walks with two presets. Where both file the names that the module offers under the same group,
they come to the same plans, names and report; only the numbers of the groups differ, which the
wrappers are kept under.
-/

namespace RouteWrap

/-- The presets have one naming, and tell nothing apart of the names in question: both know a name
or neither does, and both give it a group of one name and one runtime path. -/
structure Preset.Alike (asked : String → Prop) (p q : Preset) : Prop where
  naming : q.naming = p.naming
  recognizes : ∀ e, asked e → q.recognizes e = p.recognizes e
  entry : ∀ e, asked e → q.entry e = p.entry e

theorem Preset.Alike.mono {asked fewer : String → Prop} {p q : Preset} (alike : p.Alike asked q)
    (less : ∀ e, fewer e → asked e) : p.Alike fewer q where
  naming := alike.naming
  recognizes e among := alike.recognizes e (less e among)
  entry e among := alike.entry e (less e among)

/-- The states of two walks that have come to the same. A wrapper is kept under the number of the
group of its export, which the presets may give each their own. -/
structure Progress.Alike (p q : Preset) (s t : Progress) : Prop where
  names : t.names = s.names
  wrappers : t.wrappers.map (fun w => (w.1.2, w.2)) = s.wrappers.map fun w => (w.1.2, w.2)
  moves : t.moves = s.moves
  report : t.report = s.report
  grouped : ∀ w ∈ s.wrappers, p.groupIndex w.1.2 = some w.1.1
  grouped' : ∀ w ∈ t.wrappers, q.groupIndex w.1.2 = some w.1.1

/-- The group of an export says nothing new about its wrapper. -/
theorem lookup_grouped {preset : Preset} {wrappers : List ((Nat × String) × String)} {e : String}
    {group : Nat} (grouped : ∀ w ∈ wrappers, preset.groupIndex w.1.2 = some w.1.1)
    (indexed : preset.groupIndex e = some group) :
    wrappers.lookup (group, e) = (wrappers.map fun w => (w.1.2, w.2)).lookup e := by
  induction wrappers with
  | nil => rfl
  | cons w ws ih =>
      obtain ⟨⟨k, f⟩, n⟩ := w
      obtain ⟨first, rest⟩ := List.forall_mem_cons.mp grouped
      by_cases same : e = f
      · subst same
        obtain rfl : group = k := Option.some.inj (indexed.symm.trans first)
        simp
      · have other : ((group, e) == (k, f)) = false := by simp [same]
        rw [List.map_cons, List.lookup_cons, List.lookup_cons, other, beq_false_of_ne same]
        exact ih rest

namespace Planning

/-- From states that have come to the same, both walks give one answer and come to the same. -/
def Alike (p q : Preset) (x y : Planning α) : Prop :=
  ∀ s t, Progress.Alike p q s t →
    (y.run t).1 = (x.run s).1 ∧ Progress.Alike p q (x.run s).2 (y.run t).2

variable {p q : Preset}

namespace Alike

theorem pure (a : α) : Alike p q (pure a) (pure a) := fun _ _ alike => ⟨rfl, alike⟩

theorem bind {x y : Planning α} {f g : α → Planning β} (first : Alike p q x y)
    (rest : ∀ a, Alike p q (f a) (g a)) : Alike p q (x >>= f) (y >>= g) := by
  intro s t alike
  obtain ⟨answer, alike⟩ := first s t alike
  have both := rest (x.run s).1 _ _ alike
  change ((g (y.run t).1).run (y.run t).2).1 = ((f (x.run s).1).run (x.run s).2).1 ∧
    Progress.Alike p q ((f (x.run s).1).run (x.run s).2).2 ((g (y.run t).1).run (y.run t).2).2
  rw [answer]
  exact both

theorem mapM {f g : α → Planning β} {as : List α} (each : ∀ a ∈ as, Alike p q (f a) (g a)) :
    Alike p q (as.mapM f) (as.mapM g) := by
  induction as with
  | nil => exact pure []
  | cons a as ih =>
      obtain ⟨first, rest⟩ := List.forall_mem_cons.mp each
      rw [List.mapM_cons, List.mapM_cons]
      exact bind first fun b => bind (ih rest) fun bs => pure (b :: bs)

theorem forM {f g : α → Planning Unit} {as : List α} (each : ∀ a ∈ as, Alike p q (f a) (g a)) :
    Alike p q (as.forM f) (as.forM g) := by
  induction as with
  | nil => exact pure ()
  | cons a as ih =>
      obtain ⟨first, rest⟩ := List.forall_mem_cons.mp each
      exact bind first fun _ => ih rest

end Alike

theorem alike_skip (name : String) (reason : SkipReason) :
    Alike p q (skip name reason) (skip name reason) := fun _ _ alike =>
  ⟨rfl, { alike with report := congrArg (· ++ _) alike.report }⟩

theorem alike_fresh (base : String) : Alike p q (fresh base) (fresh base) := fun _ _ alike =>
  ⟨congrArg (fun names => (FreshNames.generate names base).1) alike.names,
    { alike with names := congrArg (fun names => (FreshNames.generate names base).2) alike.names }⟩

theorem alike_move (move : String × String) :
    Alike p q (modify fun p => { p with moves := p.moves ++ [move] })
      (modify fun p => { p with moves := p.moves ++ [move] }) := fun _ _ alike =>
  ⟨rfl, { alike with moves := congrArg (· ++ _) alike.moves }⟩

variable {asked : String → Prop} {e : String} {group group' : Nat}

theorem alike_wrapperLocal (naming : q.naming = p.naming) (indexed : p.groupIndex e = some group)
    (indexed' : q.groupIndex e = some group') :
    Alike p q (wrapperLocal p group e) (wrapperLocal q group' e) := by
  intro s t alike
  have wrapper : q.wrapperName e = p.wrapperName e :=
    congrArg (fun naming => WrapperNaming.wrapperName naming e) naming
  have same : t.wrappers.lookup (group', e) = s.wrappers.lookup (group, e) := by
    rw [lookup_grouped alike.grouped indexed, lookup_grouped alike.grouped' indexed',
      alike.wrappers]
  have claims : t.names.claim (q.wrapperName e) = s.names.claim (p.wrapperName e) := by
    rw [alike.names, wrapper]
  simp only [wrapperLocal, StateT.run, modifyGet, MonadStateOf.modifyGet, StateT.modifyGet, same,
    claims]
  cases s.wrappers.lookup (group, e) with
  | some n => exact ⟨rfl, alike⟩
  | none =>
      refine ⟨rfl, rfl, ?_, alike.moves, alike.report, ?_, ?_⟩
      · change (t.wrappers ++ [_]).map _ = (s.wrappers ++ [_]).map _
        rw [List.map_append, List.map_append, alike.wrappers]
        rfl
      · exact List.forall_mem_append.mpr ⟨alike.grouped, List.forall_mem_singleton.mpr indexed⟩
      · exact List.forall_mem_append.mpr ⟨alike.grouped', List.forall_mem_singleton.mpr indexed'⟩

theorem alike_wrap (presets : p.Alike asked q) (among : asked e) (shape : ExportShape)
    (indexed : p.groupIndex e = some group) (indexed' : q.groupIndex e = some group') :
    Alike p q (wrap p group e shape) (wrap q group' e shape) := by
  refine .bind (alike_wrapperLocal presets.naming indexed indexed') fun callee => ?_
  -- What is reported is the entry of the export, which both presets make alike.
  have entries : q.entry e shape callee = p.entry e shape callee := by
    rw [presets.entry e among]
  rw [Preset.entry, Preset.entry, indexed, indexed'] at entries
  intro s t alike
  refine ⟨rfl, { alike with report := ?_ }⟩
  exact congrArg₂ (fun report entry => report ++ ⟨[entry], []⟩) alike.report entries

theorem indexed_or (presets : p.Alike asked q) (among : asked e) :
    (p.groupIndex e = none ∧ q.groupIndex e = none) ∨
      ∃ group group', p.groupIndex e = some group ∧ q.groupIndex e = some group' := by
  have both := presets.recognizes e among
  rw [Preset.recognizes, Preset.recognizes] at both
  cases indexed : p.groupIndex e with
  | none =>
      rw [indexed, Option.isSome_none, Option.isSome_eq_false_iff, Option.isNone_iff_eq_none]
        at both
      exact .inl ⟨rfl, both⟩
  | some group =>
      rw [indexed, Option.isSome_some, Option.isSome_iff_exists] at both
      obtain ⟨group', indexed'⟩ := both
      exact .inr ⟨group, group', rfl, indexed'⟩

variable {surface : Surface}

theorem alike_skipVariables {span : Span} {d : VariableDecl}
    (presets : p.Alike (Item.Offers · (.exportDeclaration span (.variable d))) q)
    (reason : SkipReason) : Alike p q (skipVariables p d reason) (skipVariables q d reason) := by
  have same : recognizedIn q d = recognizedIn p d := by
    refine congrArg (List.mergeSort · _) (List.filter_congr fun n bound => ?_)
    exact presets.recognizes n (Item.offers_of_mem_names (i := .exportDeclaration span _) bound)
  rw [skipVariables, skipVariables, same]
  exact .forM fun n _ => alike_skip n reason

theorem alike_planVariables {span : Span} {d : VariableDecl}
    (presets : p.Alike (Item.Offers · (.exportDeclaration span (.variable d))) q) :
    Alike p q (planVariables p span d) (planVariables q span d) := by
  have skipped (reason : SkipReason) (plan : Plan) :
      Alike p q (do skipVariables p d reason; return plan)
        (do skipVariables q d reason; return plan) :=
    .bind (alike_skipVariables presets reason) fun _ => .pure plan
  unfold planVariables
  split
  · exact skipped _ _
  split
  · next first only =>
    split
    · next inner binder name target =>
      have among : (Item.exportDeclaration span (.variable d)).Offers name :=
        .variable (by rw [only]; exact List.mem_singleton_self first)
          (by rw [target]; exact .name)
      rcases indexed_or presets among with ⟨indexed, indexed'⟩ | ⟨group, group', indexed, indexed'⟩
      · simp only [indexed, indexed']
        exact .pure _
      · simp only [indexed, indexed']
        cases first.initial with
        | some value =>
            exact .bind (alike_wrap presets among _ indexed indexed') fun callee => .pure _
        | none => exact .bind (alike_skip _ _) fun _ => .pure _
    · exact skipped _ _
  · exact skipped _ _

theorem alike_function {span : Span} {d : FunctionDecl}
    (presets : p.Alike (Item.Offers · (.exportDeclaration span (.function d))) q) :
    Alike p q (function p surface span d) (function q surface span d) := by
  cases named : d.name with
  | none =>
      simp only [function, isOverload, named, Option.any_none, Bool.and_false]
      exact .pure _
  | some n =>
      have among : (Item.exportDeclaration span (.function d)).Offers n.text := .function named
      have overload : isOverload q surface d = isOverload p surface d := by
        simp only [isOverload, named, Option.any_some, presets.recognizes n.text among]
      simp only [function, overload, named]
      split
      · exact .pure _
      rcases indexed_or presets among with ⟨indexed, indexed'⟩ | ⟨group, group', indexed, indexed'⟩
      · simp only [indexed, indexed']
        exact .pure _
      · simp only [indexed, indexed']
        split
        · exact .bind (alike_skip _ _) fun _ => .pure _
        · exact .bind (alike_wrap presets among _ indexed indexed') fun callee => .pure _

theorem alike_ownSpecifier (presets : p.Alike asked q) (among : asked e)
    (indexed : p.groupIndex e = some group) (indexed' : q.groupIndex e = some group')
    (s : ExportSpecifier) :
    Alike p q (ownSpecifier p surface group e s) (ownSpecifier q surface group' e s) := by
  have skipped (reason : SkipReason) :
      Alike p q (do skip e reason; return SpecifierPlan.keep s)
        (do skip e reason; return .keep s) :=
    .bind (alike_skip e reason) fun _ => .pure _
  have wraps (plan : String → SpecifierPlan) :
      Alike p q (do return plan (← wrap p group e .importReExport))
        (do return plan (← wrap q group' e .importReExport)) :=
    .bind (alike_wrap presets among _ indexed indexed') fun callee => .pure _
  unfold ownSpecifier
  split
  · exact skipped _
  · split
    · exact skipped _
    split
    · exact .bind (alike_fresh _) fun freshName => .bind (alike_move _) fun _ => wraps _
    split
    · exact skipped _
    · exact .bind (alike_fresh _) fun freshName => wraps _

theorem alike_specifier {l : ExportList} (presets : p.Alike (Item.Offers · (.exportList l)) q)
    {s : ExportSpecifier} (listed : s ∈ l.specifiers) :
    Alike p q (specifier p surface l s) (specifier q surface l s) := by
  cases exported : s.exported with
  | string span ps =>
      have among : (Item.exportList l).Offers ps.text :=
        .specifier listed (by rw [exported]; rfl)
      simp only [specifier, exported, presets.recognizes _ among]
      split
      · exact .bind (alike_skip _ _) fun _ => .pure _
      · exact .pure _
  | name span e =>
      have among : (Item.exportList l).Offers e := .specifier listed (by rw [exported]; rfl)
      simp only [specifier, exported]
      rcases indexed_or presets among with ⟨indexed, indexed'⟩ | ⟨group, group', indexed, indexed'⟩
      · simp only [indexed, indexed']
        exact .pure _
      · simp only [indexed, indexed']
        split
        · exact .bind (alike_skip _ _) fun _ => .pure _
        split
        · refine .bind (alike_fresh _) fun freshName => ?_
          exact .bind (alike_wrap presets among _ indexed indexed') fun callee => .pure _
        · exact alike_ownSpecifier presets among indexed indexed' s

theorem alike_named {i : Item} (presets : p.Alike (Item.Offers · i) q) {n : String}
    (among : i.Offers n) (reason : SkipReason) :
    Alike p q
      (do
        if p.recognizes n then skip n reason
        return Plan.keep i)
      (do
        if q.recognizes n then skip n reason
        return Plan.keep i) := by
  rw [presets.recognizes n among]
  split
  · exact .bind (alike_skip _ _) fun _ => .pure _
  · exact .pure _

theorem alike_classes {span : Span} {d : ClassDecl}
    (presets : p.Alike (Item.Offers · (.exportDeclaration span (.classes d))) q) :
    Alike p q (classes p d) (classes q d) := by
  cases named : d.name with
  | none =>
      simp only [classes, named]
      exact .pure ()
  | some n =>
      simp only [classes, named, presets.recognizes _ (.classes named)]
      split
      · exact alike_skip _ _
      · exact .pure ()

theorem alike_item {i : Item} (presets : p.Alike (Item.Offers · i) q) :
    Alike p q (item p surface i) (item q surface i) := by
  cases i with
  | exportDeclaration span d =>
      cases d with
      | «variable» d => exact alike_planVariables presets
      | function d => exact alike_function presets
      | classes d => exact .bind (alike_classes presets) fun _ => .pure _
      | other t => exact .pure _
  | exportList l =>
      exact .bind (.mapM fun s listed => alike_specifier presets listed) fun plans => .pure _
  | exportDefault span v =>
      cases named : defaultName v with
      | none =>
          simp only [item, named]
          exact .pure _
      | some n =>
          simp only [item, named]
          exact alike_named presets (.defaultValue named) _
  | exportAll a =>
      cases named : a.exported with
      | none =>
          simp only [item, named]
          exact .pure _
      | some n =>
          simp only [item, named]
          exact alike_named presets (.all named rfl) _
  | imports | declaration | statement => exact .pure _

end Planning

namespace Module

/-- The module exports the name, or exports what has it as its default. -/
def Offers (m : Module) (n : String) : Prop := ∃ i ∈ m.items, i.Offers n

instance (m : Module) : DecidablePred m.Offers := fun n =>
  decidable_of_iff (∃ i ∈ m.items, ∃ o ∈ i.occurrences, o.text = n)
    (exists_congr fun _ => and_congr_right fun _ => Item.offers_iff.symm)

/-- Walks with presets that are alike for what the module offers come to the same. -/
theorem plans_alike {m : Module} {p q : Preset} (presets : p.Alike m.Offers q) :
    (m.plans q).1 = (m.plans p).1 ∧ Progress.Alike p q (m.plans p).2 (m.plans q).2 := by
  have each (i : Item) (listed : i ∈ m.items) :
      Planning.Alike p q (Planning.item p (Surface.ofItems m.items) i)
        (Planning.item q (Surface.ofItems m.items) i) :=
    Planning.alike_item (presets.mono fun n among => ⟨i, listed, among⟩)
  exact Planning.Alike.mapM each _ _ ⟨rfl, rfl, rfl, rfl, by simp [Progress.initial],
    by simp [Progress.initial]⟩

end Module

end RouteWrap
