import RouteWrap.Proofs.Rewritten

/-!
The export table of a rewritten module. No name that was exported is lost, and an alias is
exported beside each name that a constant took over. The names stay distinct as long as no alias
is exported already, which the supply of names does not see to, and no wrapped function leaves a
signature behind.
-/

namespace RouteWrap.Module

variable (m : Module) (preset : Preset) (routeId : String)

theorem mem_exportNames_rewriteExports (n : String) :
    n ∈ (m.rewriteExports preset routeId).1.exportNames ↔
      n ∈ m.exportNames ∨ n ∈ m.aliases preset :=
  (m.gains_exports preset routeId).mem_names m.implementations_subperm_exports.subset
    (m.rewriteExports preset routeId).1.implementations_subperm_exports.subset
    m.implemented_subset_exports

theorem nodup_exportNames_rewriteExports_iff (distinct : m.exportNames.Nodup) :
    (m.rewriteExports preset routeId).1.exportNames.Nodup ↔
      (∀ a ∈ m.aliases preset, a ∉ m.exportNames) ∧
        ∀ n ∈ (m.rewriteExports preset routeId).2.functions,
          n ∉ m.lastingSignatures preset Item.exports := by
  have gained := (m.gains_exports preset routeId).nodup_names_iff
    m.implementations_subperm_exports m.implemented_subset_exports distinct
  rw [signatures_exports] at gained
  exact gained.trans (and_iff_right (m.aliases_fresh preset).1)

/-- The export table grows by one alias for each constant, and by nothing else, just where no
alias is exported already and no wrapped function leaves a signature behind. -/
theorem exportNames_rewriteExports_perm_iff (distinct : m.exportNames.Nodup) :
    List.Forall₂ (fun e a => ∃ k, a = FreshNames.candidate (FreshNames.stem e) k)
        (m.rewriteExports preset routeId).2.constants (m.aliases preset) ∧
      (∀ n, n ∈ (m.rewriteExports preset routeId).1.exportNames ↔
        n ∈ m.exportNames ∨ n ∈ m.aliases preset) ∧
      ((m.rewriteExports preset routeId).1.exportNames.Perm
            (m.exportNames ++ m.aliases preset) ∧
          (m.rewriteExports preset routeId).1.exportNames.Nodup ↔
        (∀ a ∈ m.aliases preset, a ∉ m.exportNames) ∧
          ∀ n ∈ (m.rewriteExports preset routeId).2.functions,
            n ∉ m.lastingSignatures preset Item.exports) := by
  have members := m.mem_exportNames_rewriteExports preset routeId
  have nodup := m.nodup_exportNames_rewriteExports_iff preset routeId distinct
  refine ⟨m.aliases_candidates preset routeId, members, ?_⟩
  constructor
  · rintro ⟨-, outDistinct⟩
    exact nodup.mp outDistinct
  · intro condition
    have outDistinct := nodup.mpr condition
    have apart : (m.exportNames ++ m.aliases preset).Nodup := by
      refine List.nodup_append'.mpr ⟨distinct, (m.aliases_fresh preset).1, ?_⟩
      exact fun n exported given => condition.1 n given exported
    refine ⟨(List.perm_ext_iff_of_nodup outDistinct apart).mpr fun n => ?_, outDistinct⟩
    rw [members, List.mem_append]

/-- `export { loader, x } from "./y"; export const action = null` -/
def reExporting : Module :=
  .ofItems
    [exportNamed [("loader", "loader"), ("x", "x")] (some "./y"),
     exportConst "action" (.expr .none .null [])]

theorem exportNames_reExporting_perm :
    reExporting.exportNames.Nodup ∧
      reExporting.aliases .dataFunctions = ["_loader"] ∧
      (reExporting.rewriteExports .dataFunctions "r").1.exportNames.Perm
        (reExporting.exportNames ++ ["_loader"]) := by
  have distinct : reExporting.exportNames.Nodup := by decide
  have aliases : reExporting.aliases .dataFunctions = ["_loader"] := by decide
  obtain ⟨-, -, grows⟩ :=
    exportNames_rewriteExports_perm_iff reExporting .dataFunctions "r" distinct
  rw [aliases] at grows
  exact ⟨distinct, aliases, (grows.mpr (by decide)).1⟩

/-- `const x = null; export { x as _loader }; export { loader } from "./y"` -/
def exportingAlias : Module :=
  .ofItems
    [.declaration (constDeclaration "x" (.expr .none .null [])),
     exportNamed [("x", "_loader")] none,
     exportNamed [("loader", "loader")] (some "./y")]

theorem not_nodup_exportNames_exportingAlias :
    Preset.dataFunctions.fault? = none ∧ exportingAlias.exportNames.Nodup ∧
      ¬ (exportingAlias.rewriteExports .dataFunctions "r").1.exportNames.Nodup := by
  decide

end RouteWrap.Module
