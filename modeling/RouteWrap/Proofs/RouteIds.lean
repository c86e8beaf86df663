import RouteWrap.Proofs.Parts

/-!
The route id decides nothing. What the passes leave of a module has the same parts for every route
id, which is filled in only as the second argument of the calls of wrappers. Of these there is one
for each entry of the report, which is the same for every route id, too.
-/

namespace RouteWrap

theorem Part.uncalled_of_notMem {p : Part} {n : String} (route : Points)
    (unused : n ∉ (p.item route).toTree.names) : p.Uncalled n := by
  have uncalled {t : Tree} (within : t.names ⊆ (p.item route).toTree.names) :
      t.callsTo [n] = [] :=
    Tree.callsTo_eq_nil fun k named listed => unused (List.mem_singleton.mp listed ▸ within named)
  cases p with
  | plain i => exact uncalled (List.Subset.refl _)
  | constant c =>
      have names : ((Part.constant c).item route).toTree.names =
          c.name :: (c.ascription.names ++ (c.callees.reverse ++ c.value.names)) := by
        simp [item, Constant.item, Item.toTree, Declaration.toTree, Constant.toVariable,
          VariableDecl.toTree, Constant.toDeclarator, Declarator.toTree, Tree.names, Tree.namesList,
          names_nest]
      rw [names] at uncalled
      constructor
      · exact uncalled fun k named => by simp [named]
      · exact uncalled fun k named => by simp [named]

namespace Module

/-- In parts of a module, the locals are what the wrappers are called: constants are inside of one
call for each, nothing else calls them, and no list exports their imports. -/
structure Wrapped (m : Module) (parts : List Part) (locals : List String) : Prop where
  callees : (parts.flatMap Part.callees).Perm locals
  uncalled : ∀ p ∈ parts, ∀ n ∈ locals, p.Uncalled n
  kept : ∀ routeId : String, ∀ n ∈ locals,
    ∃ request what, (m.ofParts parts (.ofString routeId)).KeepsImport n request what

theorem wrapped_items (m : Module) : m.Wrapped (m.items.map .plain) [] where
  callees := by
    rw [List.flatMap_map]
    exact List.Perm.of_eq (List.flatMap_eq_nil_iff.mpr fun _ _ => rfl)
  uncalled := by simp
  kept := by simp

variable {m : Module} {parts : List Part} {locals : List String}

namespace Wrapped

theorem mem_locals (wrapped : m.Wrapped parts locals) {p : Part} (listed : p ∈ parts) {n : String}
    (called : n ∈ p.callees) : n ∈ locals :=
  wrapped.callees.subset (List.mem_flatMap.mpr ⟨p, listed, called⟩)

theorem unmoved (wrapped : m.Wrapped parts locals) (preset : Preset) {n : String}
    (isLocal : n ∈ locals) :
    n ∉ (m.partPlans parts preset).2.references.map Prod.fst ∧
      n ∉ (m.partPlans parts preset).2.references.map Prod.snd := by
  obtain ⟨request, what, keeps⟩ := wrapped.kept "" n isLocal
  rw [← references_ofParts m parts preset (.ofString "")]
  refine ⟨keeps.unmoved, fun target => ?_⟩
  exact (aliases_fresh _ preset).2 n (targets_subset_aliases target) keeps.mem_names

theorem rewriteExports (wrapped : m.Wrapped parts locals) (preset : Preset) (routeId : String) :
    (m.ofParts parts (.ofString routeId)).rewriteExports preset routeId =
      (m.ofParts (m.partsAfter parts preset) (.ofString routeId),
        (m.partPlans parts preset).2.report) :=
  rewriteExports_ofParts fun _ listed _ called =>
    (wrapped.unmoved preset (wrapped.mem_locals listed called)).1

theorem left_rewriteExports (wrapped : m.Wrapped parts locals) (preset : Preset)
    (routeId : String) : ((m.ofParts parts (.ofString routeId)).rewriteExports preset routeId).1 =
      m.ofParts (m.partsAfter parts preset) (.ofString routeId) :=
  congrArg Prod.fst (wrapped.rewriteExports preset routeId)

theorem report_rewriteExports (wrapped : m.Wrapped parts locals) (preset : Preset)
    (routeId : String) : ((m.ofParts parts (.ofString routeId)).rewriteExports preset routeId).2 =
      (m.partPlans parts preset).2.report :=
  congrArg Prod.snd (wrapped.rewriteExports preset routeId)

/-- What a pass reports is called nowhere in the module that it finds. -/
theorem fresh (wrapped : m.Wrapped parts locals) (preset : Preset) {n : String}
    (reported : n ∈ (m.partPlans parts preset).2.report.wrapped.map (·.wrapperLocal)) :
    (∀ p ∈ parts, p.Uncalled n) ∧
      n ∉ (m.partPlans parts preset).2.references.map Prod.snd := by
  rw [← wrapped.report_rewriteExports preset ""] at reported
  obtain ⟨e, named, rfl⟩ := exists_name_of_mem_wrapperLocals reported
  refine ⟨fun p listed => ?_, fun target => ?_⟩
  · refine Part.uncalled_of_notMem (.ofString "") fun used => ?_
    refine localOf_notMem_names named (Tree.mem_namesList.mpr ⟨_, ?_, used⟩)
    exact List.mem_map_of_mem (List.mem_map_of_mem listed)
  · rw [← references_ofParts m parts preset (.ofString "")] at target
    exact localOf_notMem_aliases named (targets_subset_aliases target)

theorem callees_partsAfter (m : Module) (parts : List Part) (preset : Preset) :
    ((m.partsAfter parts preset).flatMap Part.callees).Perm
      (parts.flatMap Part.callees ++
        (m.partPlans parts preset).2.report.wrapped.map (·.wrapperLocal)) := by
  have imports : ((RouteWrap.wrapperImports preset (m.partPlans parts preset).2).map
      Part.plain).flatMap Part.callees = [] := by
    rw [List.flatMap_map]
    exact List.flatMap_eq_nil_iff.mpr fun _ _ => rfl
  have each (q : PartPlan) (planned : q ∈ (m.partPlans parts preset).1) :
      (q.parts (m.partPlans parts preset).2.references
          (m.partPlans parts preset).2.imports).flatMap Part.callees =
        q.callees ++ ((q.plan []).entries preset).map (·.wrapperLocal) := by
    obtain ⟨p, -, of, fits⟩ := exists_part planned []
    exact of.callees_parts fits _ _
  have before : (m.partPlans parts preset).1.flatMap PartPlan.callees =
      parts.flatMap Part.callees :=
    flatMap_eq_of_forall₂ ((m.partPlans_of parts preset).imp fun _ _ of => of.callees_eq)
  have entries : (m.partPlans parts preset).2.report.wrapped =
      (m.partPlans parts preset).1.flatMap fun q => (q.plan []).entries preset := by
    have accounts := ((m.ofParts parts []).accounts_plans preset).2.entries
    rw [plans_ofParts, List.flatMap_map] at accounts
    exact accounts
  rw [partsAfter, List.flatMap_append, imports, List.nil_append, List.flatMap_assoc,
    List.flatMap_congr each, ← before, entries, List.map_flatMap]
  exact (List.flatMap_append_perm _ _ _).symm

theorem uncalled_partsAfter {preset : Preset} {n : String} (uncalled : ∀ p ∈ parts, p.Uncalled n)
    (unmoved : n ∉ (m.partPlans parts preset).2.references.map Prod.snd) :
    ∀ p ∈ m.partsAfter parts preset, p.Uncalled n := by
  intro r listed
  rcases List.mem_append.mp listed with wrapper | part
  · obtain ⟨i, imported, rfl⟩ := List.mem_map.mp wrapper
    obtain ⟨ss, path, rfl⟩ := wrapperImports_imports preset _ i imported
    exact ImportDecl.callsTo_toTree _
  · obtain ⟨q, planned, part⟩ := List.mem_flatMap.mp part
    obtain ⟨p, listed, of, fits⟩ := exists_part planned []
    exact of.uncalled_parts fits (uncalled p listed) unmoved _ r part

/-- A pass wraps for every route id what it wraps for one. -/
theorem after (wrapped : m.Wrapped parts locals) (preset : Preset) :
    m.Wrapped (m.partsAfter parts preset)
      (locals ++ (m.partPlans parts preset).2.report.wrapped.map (·.wrapperLocal)) where
  callees := (callees_partsAfter m parts preset).trans (wrapped.callees.append_right _)
  uncalled p listed n isLocal := by
    rcases List.mem_append.mp isLocal with old | new
    · refine uncalled_partsAfter (fun p listed => wrapped.uncalled p listed n old) ?_ p listed
      exact (wrapped.unmoved preset old).2
    · exact uncalled_partsAfter (wrapped.fresh preset new).1 (wrapped.fresh preset new).2 p listed
  kept routeId n isLocal := by
    rw [← wrapped.left_rewriteExports preset routeId]
    rcases List.mem_append.mp isLocal with old | new
    · obtain ⟨request, what, keeps⟩ := wrapped.kept routeId n old
      exact ⟨request, what, keeps.rewriteExports preset routeId⟩
    · rw [← wrapped.report_rewriteExports preset routeId] at new
      obtain ⟨e, reported, rfl⟩ := List.mem_map.mp new
      obtain ⟨g, -, -, keeps⟩ := keepsImport_localOf reported
      have called : e.wrapperLocal = (m.ofParts parts (.ofString routeId)).localOf preset e.name :=
        congrArg WrappedExport.wrapperLocal (entry_of_mem_wrapped reported)
      rw [called]
      exact ⟨_, _, keeps⟩

end Wrapped

/-- What the passes make of the parts, and report, is the same for every route id. -/
theorem Wrapped.instrument (wrapped : m.Wrapped parts locals) (presets : List Preset) :
    ∃ parts' report, m.Wrapped parts' (locals ++ report.wrapped.map (·.wrapperLocal)) ∧
      ∀ routeId : String, (m.ofParts parts (.ofString routeId)).instrument presets routeId =
        (m.ofParts parts' (.ofString routeId), report) := by
  induction presets generalizing parts locals with
  | nil => exact ⟨parts, .empty, by simpa [Report.empty] using wrapped, fun _ => rfl⟩
  | cons preset presets ih =>
      obtain ⟨parts', report, wrapped', same⟩ := ih (wrapped.after preset)
      refine ⟨parts', (m.partPlans parts preset).2.report ++ report, ?_, fun routeId => ?_⟩
      · rw [List.append_assoc, ← List.map_append] at wrapped'
        exact wrapped'
      · rw [Module.instrument, wrapped.rewriteExports preset routeId, same]

end Module

/-- A text is refused with one error for every route id, or it is read and rewritten for all of
them: to the same report, and to the same parts, filled in with the route id. They are filled in at
the second argument of the calls of wrappers, which are one for each entry of the report, and
nothing else in the parts calls these. -/
theorem Instrumenter.transform_route (i : Instrumenter) (source : String) (options : ReadOptions) :
    (∃ e, ∀ routeId, i.transform source routeId options = .error e) ∨
      ∃ (m : Module) (faults : List Diagnostic) (parts : List Part) (report : Report),
        Module.ofSource source options = .ok (m, faults) ∧
        (parts.flatMap Part.callees).Perm (report.wrapped.map (·.wrapperLocal)) ∧
        (∀ p ∈ parts, ∀ e ∈ report.wrapped, p.Uncalled e.wrapperLocal) ∧
        ∀ routeId,
          m.instrument i.presets routeId =
              ({ m with items := parts.map (Part.item (.ofString routeId)) }, report) ∧
            i.transform source routeId options = .ok
              { code := Module.emit { m with items := parts.map (Part.item (.ofString routeId)) }
                  source report.modified i.format
                report } := by
  cases read : Module.ofSource source options with
  | error e => exact .inl ⟨e, fun routeId => by rw [transform, read]⟩
  | ok found =>
      obtain ⟨m, faults⟩ := found
      obtain ⟨parts, report, wrapped, same⟩ := m.wrapped_items.instrument i.presets
      have whole (route : Points) : m.ofParts (m.items.map .plain) route = m := by
        simp only [Module.ofParts, List.map_map, Function.comp_def, Part.item, List.map_id']
      simp only [whole] at same
      refine .inr ⟨m, faults, parts, report, rfl, wrapped.callees, ?_, fun routeId => ?_⟩
      · exact fun p listed e reported =>
          wrapped.uncalled p listed _ (List.mem_map_of_mem reported)
      · refine ⟨same routeId, ?_⟩
        rw [transform, read]
        simp only [same]
        rfl

end RouteWrap
