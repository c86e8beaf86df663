import RouteWrap.Proofs.Rewritten

/-!
What a rewritten module declares. Imports that move are declared under their aliases, and the
wrappers, the names that lists request and the constants are declared beside what was there. The
supply keeps all of these apart but the constants, whose names are not told to it.
-/

namespace RouteWrap

theorem Item.values_renameImports_other (τ : Renaming) {i : Item}
    (other : ∀ d, i ≠ .imports d) : (i.renameImports τ).values = i.values := by
  cases i with
  | imports d => exact absurd rfl (other d)
  | _ => rfl

theorem Item.values_renameImports_imports (τ : Renaming) (d : ImportDecl) :
    ((Item.imports d).renameImports τ).values = .definitely (d.valueNames.map τ.apply) := by
  cases typeOnly : d.typeOnly <;> cases specifiers : d.specifiers <;>
    simp [Item.renameImports, Item.values, ImportDecl.valueNames, typeOnly, specifiers,
      List.filter_map, Function.comp_def]

namespace Module

variable (m : Module) (preset : Preset) (routeId : String)

variable {m preset}

theorem not_imported_of_declared {i : Item} {n : String} (once : m.values.definite.count n ≤ 1)
    (listed : i ∈ m.items) (other : ∀ d, i ≠ .imports d) (declared : n ∈ i.values.definite) :
    n ∉ (Surface.ofItems m.items).imported := by
  intro imported
  obtain ⟨j, listedJ, imported⟩ := List.mem_flatMap.mp imported
  cases j with
  | imports d => exact other d (eq_of_count_flatMap_le_one once listed listedJ declared imported)
  | _ => exact absurd imported List.not_mem_nil

/-- Where no name is declared twice, moving the imports renames what is declared for good. -/
theorem definite_movedValues (distinct : m.values.definite.Nodup) :
    (m.movedValues preset).definite = m.values.definite.map (m.moves preset).apply := by
  change m.items.flatMap _ = (m.items.flatMap _).map _
  rw [List.map_flatMap]
  refine List.flatMap_congr fun i listed => ?_
  by_cases imports : ∃ d, i = .imports d
  · obtain ⟨d, rfl⟩ := imports
    change ((Item.imports d).renameImports _).values.definite = _
    rw [Item.values_renameImports_imports]
    rfl
  · have other (d : ImportDecl) : i ≠ .imports d := fun same => imports ⟨d, same⟩
    change (i.renameImports _).values.definite = _
    rw [Item.values_renameImports_other _ other]
    refine (List.map_congr_left fun n declared => ?_).trans (List.map_id _) |>.symm
    have unmoved : n ∉ (m.moves preset).map Prod.fst := fun source =>
      not_imported_of_declared (List.nodup_iff_count_le_one.mp distinct n) listed other declared
        (of_mem_moves source).1
    exact Renaming.apply_of_notMem unmoved

theorem signatures_movedValues : (m.movedValues preset).signatures = m.values.signatures := by
  refine List.flatMap_congr fun i _ => ?_
  cases i <;> rfl

theorem implementations_movedValues :
    (m.movedValues preset).implementations = m.values.implementations := by
  refine List.flatMap_congr fun i _ => ?_
  cases i <;> rfl

theorem imported_subset_values :
    (Surface.ofItems m.items).imported ⊆ m.values.definite := by
  intro n imported
  obtain ⟨i, listed, imported⟩ := List.mem_flatMap.mp imported
  refine List.mem_flatMap.mpr ⟨i, listed, ?_⟩
  cases i with
  | imports d => exact imported
  | _ => exact absurd imported List.not_mem_nil

theorem names_movedValues (distinct : m.valueNames.Nodup) :
    (m.movedValues preset).names = m.valueNames.map (m.moves preset).apply := by
  obtain ⟨definite, implemented⟩ := Tally.nodup_names_iff.mp distinct
  have unmoved (n : String)
      (listed : n ∈ m.values.signatures.dedup.filter (!m.values.implementations.contains ·)) :
      (m.moves preset).apply n = n := by
    simp only [List.mem_filter, List.mem_dedup, Bool.not_eq_true', List.contains_eq_mem,
      decide_eq_false_iff_not] at listed
    refine Renaming.apply_of_notMem fun source => listed.2 (implemented n listed.1 ?_)
    exact imported_subset_values (of_mem_moves source).1
  rw [Tally.names, definite_movedValues definite, signatures_movedValues,
    implementations_movedValues, valueNames, Tally.names, List.map_append]
  congr 1
  exact ((List.map_congr_left unmoved).trans (List.map_id _)).symm

variable (preset) in
theorem nodup_names_movedValues (distinct : m.valueNames.Nodup) :
    (m.movedValues preset).names.Nodup := by
  obtain ⟨-, fresh⟩ := m.bound_fresh preset
  rw [names_movedValues distinct]
  refine List.Nodup.map_on (fun n declaredN k declaredK same => ?_) distinct
  refine Renaming.apply_injOn (m.nodup_targets_moves preset) (fun a given => fresh a ?_)
    (m.valueNames_subset_names declaredN) (m.valueNames_subset_names declaredK) same
  exact List.mem_append_right _ (List.mem_append_right _ given)

variable (m preset)

/-- The names that wrappers and lists need are bound once, and never beside a name of the module,
even one that an import moved to. -/
theorem locals_apart (distinct : m.valueNames.Nodup) :
    (m.wrapperLocals preset ++ m.requested preset).Nodup ∧
      ∀ n ∈ m.wrapperLocals preset ++ m.requested preset, n ∉ (m.movedValues preset).names := by
  obtain ⟨boundOnce, fresh⟩ := m.bound_fresh preset
  rw [← List.append_assoc] at boundOnce fresh
  obtain ⟨localsOnce, -, apart⟩ := List.nodup_append'.mp boundOnce
  refine ⟨localsOnce, fun n bound declared => ?_⟩
  -- A name of the module is declared as it was or, if it moved, by its alias.
  rw [names_movedValues distinct] at declared
  obtain ⟨k, declaredK, rfl⟩ := List.mem_map.mp declared
  by_cases moved : k ∈ (m.moves preset).map Prod.fst
  · exact apart bound (List.mem_map_of_mem (Renaming.apply_mem moved))
  · rw [Renaming.apply_of_notMem moved] at bound
    exact fresh k (List.mem_append_left _ bound) (m.valueNames_subset_names declaredK)

/-- No value name is declared twice just where the constants are apart from one another, from the
names that wrappers and lists need, and from the names of the module as its imports moved, and no
wrapped function leaves a signature behind. -/
theorem nodup_valueNames_rewriteExports_iff (distinct : m.valueNames.Nodup) :
    (m.rewriteExports preset routeId).1.valueNames.Nodup ↔
      (m.rewriteExports preset routeId).2.constants.Nodup ∧
        (∀ n ∈ (m.rewriteExports preset routeId).2.constants,
          n ∉ m.wrapperLocals preset ++ m.requested preset ∧
            n ∉ m.valueNames.map (m.moves preset).apply) ∧
        ∀ n ∈ (m.rewriteExports preset routeId).2.functions,
          n ∉ m.lastingSignatures preset Item.values := by
  have gained := (m.gains_values preset routeId).nodup_names_iff
    (Tally.implementations_subperm_total
      (fun i => (i.renameImports _).implementations_sublist_values) m.items)
    (m.implemented_subset_movedValues preset) (nodup_names_movedValues preset distinct)
  obtain ⟨localsOnce, localsFree⟩ := m.locals_apart preset distinct
  rw [valueNames, gained, List.nodup_append', signatures_values,
    ← names_movedValues distinct]
  constructor
  · rintro ⟨⟨-, constantsOnce, apart⟩, free, outlived⟩
    refine ⟨constantsOnce, fun n constant => ⟨fun bound => apart bound constant, ?_⟩, outlived⟩
    exact free n (List.mem_append_right _ constant)
  · rintro ⟨constantsOnce, free, outlived⟩
    refine ⟨⟨localsOnce, constantsOnce, fun n bound constant => (free n constant).1 bound⟩,
      fun n isAdded => ?_, outlived⟩
    rcases List.mem_append.mp isAdded with bound | constant
    · exact localsFree n bound
    · exact (free n constant).2

/-- `import { loader } from "./x"; export { loader }; export { clientLoader } from "./y"` -/
def reExportingImport : Module :=
  .ofItems
    [importNamed [(.name .none "loader", "loader")] (.ofString "./x"),
     exportNamed [("loader", "loader")] none,
     exportNamed [("clientLoader", "clientLoader")] (some "./y")]

theorem nodup_valueNames_reExportingImport :
    reExportingImport.valueNames.Nodup ∧
      (reExportingImport.rewriteExports .dataFunctions "r").1.valueNames.Nodup := by
  have distinct : reExportingImport.valueNames.Nodup := by decide
  refine ⟨distinct, ?_⟩
  refine (nodup_valueNames_rewriteExports_iff reExportingImport .dataFunctions "r" distinct).mpr ?_
  decide

/-- `const loader = null; export { loader } from "./y"` -/
def reExportingDeclared : Module :=
  .ofItems
    [.declaration (constDeclaration "loader" (.expr .none .null [])),
     exportNamed [("loader", "loader")] (some "./y")]

theorem not_nodup_valueNames_reExportingDeclared :
    Preset.dataFunctions.fault? = none ∧ reExportingDeclared.valueNames.Nodup ∧
      ¬ (reExportingDeclared.rewriteExports .dataFunctions "r").1.valueNames.Nodup := by
  decide

end Module

end RouteWrap
