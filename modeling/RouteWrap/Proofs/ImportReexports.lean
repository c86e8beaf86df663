import RouteWrap.Proofs.Declarations

/-!
Imports that a module exports again. The constant behind such an export wraps what the import
means, under the name that the import is bound to now. It does so unless a constant takes over
that very name.
-/

namespace RouteWrap

namespace Module

/-- An import binds `n` to what another module exports. -/
def BindsImport (m : Module) (n : String) (request : Request) (what : Imported) : Prop :=
  ∃ d s, .imports d ∈ m.items ∧ s ∈ d.specifiers.getD [] ∧ d.typeOnly = false ∧
    s.typeOnly = false ∧ d.request = request ∧ s.imported = what ∧ s.localName.text = n

/-- At the top of the module `n` means what another module exports, for an import binds it and
nothing else declares it. -/
structure MeansImport (m : Module) (n : String) (request : Request) (what : Imported) :
    Prop where
  binds : m.BindsImport n request what
  once : m.values.definite.count n = 1
  unsigned : n ∉ m.values.signatures

variable {m : Module} {preset : Preset} {routeId : String}

theorem BindsImport.imported {n : String} {request : Request} {what : Imported}
    (binds : m.BindsImport n request what) : n ∈ (Surface.ofItems m.items).imported := by
  obtain ⟨d, s, listed, specified, valued, valuedS, -, -, rfl⟩ := binds
  refine List.mem_flatMap.mpr ⟨.imports d, listed, ?_⟩
  simp only [Item.importedNames, ImportDecl.valueNames, valued]
  exact List.mem_map_of_mem (List.mem_filter.mpr ⟨specified, by simp [valuedS]⟩)

theorem bindsImport_of_imported {n : String}
    (imported : n ∈ (Surface.ofItems m.items).imported) :
    ∃ request what, m.BindsImport n request what := by
  obtain ⟨i, listed, imported⟩ := List.mem_flatMap.mp imported
  cases i with
  | imports d =>
      simp only [Item.importedNames, ImportDecl.valueNames] at imported
      split at imported
      · exact absurd imported List.not_mem_nil
      next valued =>
      obtain ⟨s, specified, named⟩ := List.mem_map.mp imported
      obtain ⟨specified, valuedS⟩ := List.mem_filter.mp specified
      exact ⟨_, _, d, s, listed, specified, by simpa using valued, by simpa using valuedS,
        rfl, rfl, named⟩
  | _ => exact absurd imported List.not_mem_nil

theorem bindsImport_rewriteExports {n : String} {request : Request} {what : Imported}
    (binds : m.BindsImport n request what) :
    (m.rewriteExports preset routeId).1.BindsImport ((m.moves preset).apply n) request what := by
  obtain ⟨d, s, listed, specified, valued, valuedS, requested, imported, rfl⟩ := binds
  obtain ⟨p, planned, fits⟩ := exists_plan preset listed
  have image := image_subset_rewriteExports routeId planned
  cases fits
  rw [Plan.image, imports_plans] at image
  refine ⟨_, { s with localName := ⟨s.localName.span, (m.moves preset).apply s.localName.text⟩ },
    image (List.mem_singleton_self _), ?_, valued, valuedS, requested, imported, rfl⟩
  cases specifiers : d.specifiers with
  | none => simp [specifiers] at specified
  | some ss =>
      rw [specifiers, Option.getD_some] at specified
      simp only [Option.map_some, Option.getD_some]
      exact List.mem_map_of_mem specified

theorem not_signature_of_imported {n : String} (distinct : m.valueNames.Nodup)
    (imported : n ∈ (Surface.ofItems m.items).imported) : n ∉ m.values.signatures := by
  obtain ⟨definite, implemented⟩ := Tally.nodup_names_iff.mp distinct
  intro signed
  have implementation := implemented n signed (imported_subset_values imported)
  obtain ⟨i, listed, implementation⟩ := List.mem_flatMap.mp implementation
  have other (d : ImportDecl) : i ≠ .imports d := by
    rintro rfl
    exact absurd implementation List.not_mem_nil
  exact not_imported_of_declared (List.nodup_iff_count_le_one.mp definite n) listed other
    (i.implementations_sublist_values.subset implementation) imported

theorem meansImport_of_imported {n : String} (distinct : m.valueNames.Nodup)
    (imported : n ∈ (Surface.ofItems m.items).imported) :
    ∃ request what, m.MeansImport n request what := by
  obtain ⟨request, what, binds⟩ := bindsImport_of_imported imported
  refine ⟨request, what, binds, ?_, not_signature_of_imported distinct imported⟩
  exact List.count_eq_one_of_mem (Tally.nodup_names_iff.mp distinct).1
    (imported_subset_values imported)

theorem not_meansImport_of_constant {n : String} {request : Request} {what : Imported}
    (constant : n ∈ (m.rewriteExports preset routeId).2.constants) :
    ¬ (m.rewriteExports preset routeId).1.MeansImport n request what := by
  rintro ⟨binds, once, -⟩
  rw [constants_rewriteExports] at constant
  obtain ⟨p, planned, constant⟩ := List.mem_flatMap.mp constant
  obtain ⟨q, plannedQ, constant⟩ := List.mem_flatMap.mp constant
  obtain ⟨callee, target, built⟩ :=
    SpecifierPlan.exportConst_mem_constant constant (.ofString routeId)
  have listed := image_subset_rewriteExports routeId planned
    (Plan.constant_subset_image plannedQ _ _ _ built)
  have declared : n ∈ (exportConst n
      (wrapperCall callee (.ref .none .value target) (.ofString routeId))).values.definite := by
    rw [Item.reading_values.exportConst]
    exact List.mem_singleton_self n
  exact not_imported_of_declared (Nat.le_of_eq once) listed (fun d => nofun) declared binds.imported

variable (preset routeId) in
theorem meansImport_rewriteExports {n : String} {request : Request} {what : Imported}
    (distinct : m.valueNames.Nodup) (means : m.MeansImport n request what)
    (free : (m.moves preset).apply n ∉ (m.rewriteExports preset routeId).2.constants) :
    (m.rewriteExports preset routeId).1.MeansImport ((m.moves preset).apply n) request what := by
  have gains := m.gains_values preset routeId
  have declared : n ∈ m.values.definite := imported_subset_values means.binds.imported
  have declaredMoved : (m.moves preset).apply n ∈ (m.movedValues preset).definite := by
    rw [definite_movedValues (Tally.nodup_names_iff.mp distinct).1]
    exact List.mem_map_of_mem declared
  have movedOnce := Tally.nodup_names_iff.mp (nodup_names_movedValues preset distinct)
  refine ⟨bindsImport_rewriteExports means.binds, ?_, fun signed => ?_⟩
  · have notLocal : (m.moves preset).apply n ∉ m.wrapperLocals preset ++ m.requested preset := by
      intro bound
      refine (m.locals_apart preset distinct).2 _ bound ?_
      exact List.mem_append_left _ declaredMoved
    rw [gains.definite.count_eq, List.count_append, List.count_append,
      List.count_eq_zero_of_not_mem notLocal, List.count_eq_zero_of_not_mem free,
      List.count_eq_one_of_mem movedOnce.1 declaredMoved]
  · have signedBefore := gains.signatures signed
    rw [signatures_movedValues] at signedBefore
    by_cases moved : n ∈ (m.moves preset).map Prod.fst
    · refine apply_moves_fresh moved (m.valueNames_subset_names ?_)
      exact (Tally.mem_names m.implementations_subperm_values.subset).mpr (.inr signedBefore)
    · rw [Renaming.apply_of_notMem moved] at signedBefore
      exact means.unsigned signedBefore

theorem eq_of_exported_eq (distinct : m.exportNames.Nodup) {p p' : Plan} {q q' : SpecifierPlan}
    (planned : p ∈ (m.plans preset).1) (specified : q ∈ p.specifiers)
    (planned' : p' ∈ (m.plans preset).1) (specified' : q' ∈ p'.specifiers)
    (same : q.origin.exported.text = q'.origin.exported.text) : q = q' := by
  have exported : ((m.plans preset).1.flatMap fun p =>
      p.specifiers.map (·.origin.exported.text)).Sublist m.exports.definite := by
    change List.Sublist _ (m.items.flatMap _)
    rw [← m.origins_plans preset, List.flatMap_map]
    refine List.Sublist.flatMap_right _ fun p planned => ?_
    exact (m.for_of_mem_plans planned).exported_sublist
  have once := (Tally.nodup_names_iff.mp distinct).1.sublist exported
  rw [← List.map_flatMap] at once
  exact List.inj_on_of_nodup_map once (List.mem_flatMap.mpr ⟨p, planned, specified⟩)
    (List.mem_flatMap.mpr ⟨p', planned', specified'⟩) same

variable (preset) in
theorem exists_specifierPlan {l : ExportList} {s : ExportSpecifier}
    (listed : .exportList l ∈ m.items) (specified : s ∈ l.specifiers) :
    ∃ p ∈ (m.plans preset).1, ∃ q ∈ p.specifiers,
      SpecifierPlan.For preset (Surface.ofItems m.items) l s q ∧ q.origin = s := by
  obtain ⟨p, planned, fits⟩ := exists_plan preset listed
  cases fits with
  | keep _ unlisted _ => exact absurd rfl (unlisted l)
  | list each =>
      obtain ⟨origins, fits⟩ := SpecifierPlan.for_origins each
      rw [← origins] at specified
      obtain ⟨q, plannedQ, rfl⟩ := List.mem_map.mp specified
      exact ⟨_, planned, q, plannedQ, fits q plannedQ, rfl⟩

theorem meansImport_rewriteExports_iff {n : String} {request : Request} {what : Imported}
    (distinct : m.valueNames.Nodup) (means : m.MeansImport n request what) {target : String}
    (follows : target = n ∨ target = (m.moves preset).apply n) :
    (m.rewriteExports preset routeId).1.MeansImport target request what ↔
      target ∉ (m.rewriteExports preset routeId).2.constants := by
  refine ⟨fun meansTarget constant => not_meansImport_of_constant constant meansTarget, ?_⟩
  intro free
  rcases follows with rfl | rfl
  · have unmoved : target ∉ (m.moves preset).map Prod.fst := by
      intro source
      rw [constants_rewriteExports] at free
      exact free (of_mem_moves source).2
    have stays := Renaming.apply_of_notMem unmoved
    have kept := meansImport_rewriteExports preset routeId distinct means
    rw [stays] at kept
    exact kept free
  · exact meansImport_rewriteExports preset routeId distinct means free

theorem alias_unique (distinct : m.exportNames.Nodup) {n a a' : String}
    (first : (n, a) ∈ m.moves preset) (second : (n, a') ∈ m.moves preset) : a = a' := by
  obtain ⟨p, planned, first⟩ := List.mem_flatMap.mp first
  obtain ⟨q, specified, first⟩ := List.mem_flatMap.mp first
  obtain ⟨p', planned', second⟩ := List.mem_flatMap.mp second
  obtain ⟨q', specified', second⟩ := List.mem_flatMap.mp second
  obtain ⟨l, fits⟩ := (m.for_of_mem_plans planned).for_of_mem_specifiers specified
  obtain ⟨l', fits'⟩ := (m.for_of_mem_plans planned').for_of_mem_specifiers specified'
  cases q with
  | keep | reExport | aliased => exact absurd first List.not_mem_nil
  | moved s freshName callee =>
      cases q' with
      | keep | reExport | aliased => exact absurd second List.not_mem_nil
      | moved s' freshName' callee' =>
          -- Both export the name itself, so they are one specifier.
          obtain ⟨named, rfl⟩ := Prod.mk.inj (List.mem_singleton.mp first)
          obtain ⟨named', rfl⟩ := Prod.mk.inj (List.mem_singleton.mp second)
          have exported : s.exported.text = s'.exported.text := by
            rw [fits.exported_of_moved, fits'.exported_of_moved, ← named, ← named']
          have same := eq_of_exported_eq distinct planned specified planned' specified' exported
          exact (SpecifierPlan.moved.inj same).2.1

theorem apply_moves_of_mem (distinct : m.exportNames.Nodup) {n a : String}
    (moved : (n, a) ∈ m.moves preset) : (m.moves preset).apply n = a :=
  alias_unique distinct
    (Renaming.apply_mem (List.mem_map_of_mem (f := Prod.fst) moved)) moved

/-- A reported import keeps its meaning in the call that wraps it just where no constant takes
over the name by which the call refers to it. -/
theorem importReExport_means_iff {l : ExportList} {s : ExportSpecifier} {e : WrappedExport}
    (distinct : m.valueNames.Nodup) (exportedOnce : m.exportNames.Nodup)
    (listed : .exportList l ∈ m.items) (specified : s ∈ l.specifiers)
    (reported : e ∈ (m.rewriteExports preset routeId).2.wrapped)
    (shape : e.shape = .importReExport) (named : e.name = s.exported.text) :
    ∃ target request what,
      exportConst e.name (wrapperCall e.wrapperLocal (.ref .none .value target)
          (.ofString routeId)) ∈ (m.rewriteExports preset routeId).1.items ∧
        (target = if s.localName.text = e.name then (m.moves preset).apply e.name
          else s.localName.text) ∧
        m.MeansImport s.localName.text request what ∧
        ((m.rewriteExports preset routeId).1.MeansImport target request what ↔
          target ∉ (m.rewriteExports preset routeId).2.constants) := by
  obtain ⟨p, planned, q, plannedQ, fits, origin⟩ :=
    exists_specifierPlan preset listed specified
  change e ∈ (m.plans preset).2.report.wrapped at reported
  rw [(m.accounts_plans preset).2.entries] at reported
  obtain ⟨p', planned', reported⟩ := List.mem_flatMap.mp reported
  obtain ⟨q', plannedQ', reported⟩ := Plan.exists_specifier_of_mem_entries reported shape
  have same : q = q' := by
    refine eq_of_exported_eq exportedOnce planned plannedQ planned' plannedQ' ?_
    rw [origin, ← named]
    exact SpecifierPlan.name_of_mem_entries reported
  subst same
  obtain ⟨imported, target, constant, refers⟩ :=
    fits.constant_of_mem_entries reported shape (.ofString routeId)
  obtain ⟨request, what, means⟩ := meansImport_of_imported distinct imported
  have listed := image_subset_rewriteExports routeId planned
    (Plan.constant_subset_image plannedQ _ _ _ constant)
  have applied : target = if s.localName.text = e.name then (m.moves preset).apply e.name
      else s.localName.text := by
    split at refers
    · next own =>
      have moved : (e.name, target) ∈ m.moves preset :=
        List.mem_flatMap.mpr ⟨p, planned, List.mem_flatMap.mpr ⟨q, plannedQ, refers⟩⟩
      rw [if_pos own, apply_moves_of_mem exportedOnce moved]
    · next other => rw [if_neg other, refers]
  refine ⟨target, request, what, listed, applied, means,
    meansImport_rewriteExports_iff distinct means ?_⟩
  split at applied
  · next own => exact .inr (own ▸ applied)
  · exact .inl applied

/-- `import { f, loader } from "./x"; export { f as action, loader }` -/
def reExportingImports : Module :=
  .ofItems
    [importNamed [(.name .none "f", "f"), (.name .none "loader", "loader")] (.ofString "./x"),
     exportNamed [("f", "action"), ("loader", "loader")] none]

theorem loader_means_import_reExportingImports :
    reExportingImports.valueNames.Nodup ∧ reExportingImports.exportNames.Nodup ∧
      ∃ request what,
        reExportingImports.MeansImport "loader" request what ∧
          (reExportingImports.rewriteExports .dataFunctions "r").1.MeansImport "_loader"
            request what := by
  let s : ExportSpecifier := ⟨.none, false, .name .none "loader", .name .none "loader"⟩
  let e := Preset.dataFunctions.entry "loader" .importReExport "withLoaderWrapper"
  have distinct : reExportingImports.valueNames.Nodup := by decide
  have exportedOnce : reExportingImports.exportNames.Nodup := by decide
  have reported : e ∈ (reExportingImports.rewriteExports .dataFunctions "r").2.wrapped := by
    decide
  obtain ⟨target, request, what, -, applied, means, meansIff⟩ :=
    importReExport_means_iff (s := s) distinct exportedOnce
      (List.mem_cons_of_mem _ (List.mem_singleton_self _)) (by decide) reported rfl rfl
  have moved : target = "_loader" := applied.trans (by decide)
  subst moved
  exact ⟨distinct, exportedOnce, request, what, means, meansIff.mpr (by decide)⟩

/-- `import { loader } from "./x"; export { loader as action, loader }` -/
def reExportingTwice : Module :=
  .ofItems
    [importNamed [(.name .none "loader", "loader")] (.ofString "./x"),
     exportNamed [("loader", "action"), ("loader", "loader")] none]

theorem action_means_no_import_reExportingTwice :
    Preset.dataFunctions.fault? = none ∧ reExportingTwice.valueNames.Nodup ∧
      reExportingTwice.exportNames.Nodup ∧
      Preset.dataFunctions.entry "action" .importReExport "withActionWrapper" ∈
        (reExportingTwice.rewriteExports .dataFunctions "r").2.wrapped ∧
      ∀ callee target request what,
        exportConst "action"
            (wrapperCall callee (.ref .none .value target) (.ofString "r")) ∈
          (reExportingTwice.rewriteExports .dataFunctions "r").1.items →
        ¬ (reExportingTwice.rewriteExports .dataFunctions "r").1.MeansImport target
          request what := by
  refine ⟨by decide, by decide, by decide, by decide, ?_⟩
  intro callee target request what listed
  have wrapped : callee = "withActionWrapper" ∧ target = "loader" := by
    have items : (reExportingTwice.rewriteExports .dataFunctions "r").1.items =
        [importNamed [(.name .none "withActionWrapper", "withActionWrapper"),
            (.name .none "withLoaderWrapper", "withLoaderWrapper")]
            (.ofString "react-router-devtools/server"),
          importNamed [(.name .none "loader", "_loader")] (.ofString "./x"),
          exportNamed [("_loader", "_action"), ("_loader", "_loader")] none,
          exportConst "action" (wrapperCall "withActionWrapper" (.ref .none .value "loader")
            (.ofString "r")),
          exportConst "loader" (wrapperCall "withLoaderWrapper" (.ref .none .value "_loader")
            (.ofString "r"))] := rfl
    rw [items] at listed
    simpa [exportConst, constDeclaration, wrapperCall, importNamed, exportNamed] using listed
  obtain ⟨rfl, rfl⟩ := wrapped
  exact not_meansImport_of_constant (by decide)

end Module

end RouteWrap
