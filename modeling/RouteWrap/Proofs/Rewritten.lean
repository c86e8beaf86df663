import Mathlib.Data.List.Flatten
import RouteWrap.Proofs.Images
import RouteWrap.Proofs.Scope.Renaming

/-!
What the rewritten module declares and exports, against the module. Its items are the images of
the module's, behind an import for each group of wrappers.
-/

namespace RouteWrap

/-! The imports of the wrappers -/

private theorem flatMap_filter_key_singleton {key : α → Nat} {a : α} {k : Nat}
    (bounded : key a < k) :
    ((List.range k).flatMap fun i => [a].filter (key · == i)) = [a] := by
  induction k with
  | zero => omega
  | succ k ih =>
      rw [List.range_succ, List.flatMap_append]
      by_cases last : key a = k
      · have before : ((List.range k).flatMap fun i => [a].filter (key · == i)) = [] := by
          refine List.flatMap_eq_nil_iff.mpr fun i below => ?_
          rw [List.mem_range] at below
          have other : key a ≠ i := by omega
          simp [other]
        rw [before]
        simp [last]
      · rw [ih (by omega)]
        simp [last]

private theorem perm_flatMap_filter_key {key : α → Nat} {k : Nat} {as : List α}
    (bounded : ∀ a ∈ as, key a < k) :
    ((List.range k).flatMap fun i => as.filter (key · == i)).Perm as := by
  induction as with
  | nil => simp
  | cons a as ih =>
      rw [List.forall_mem_cons] at bounded
      have split (i : Nat) : (a :: as).filter (key · == i) =
          [a].filter (key · == i) ++ as.filter (key · == i) := by
        rw [← List.filter_append]
        rfl
      rw [List.flatMap_congr fun i _ => split i]
      refine (List.flatMap_append_perm _ _ _).symm.trans ?_
      rw [flatMap_filter_key_singleton bounded.1]
      exact (ih bounded.2).cons a

theorem Progress.ofGroup_eq (p : Progress) (group : Nat) :
    p.ofGroup group =
      (p.wrappers.filter (·.1.1 == group)).map fun w => (w.1.2, w.2) := by
  unfold ofGroup
  induction p.wrappers with
  | nil => rfl
  | cons w ws ih =>
      rw [List.filterMap_cons, List.filter_cons, ih]
      cases w.1.1 == group <;> rfl

theorem total_values_wrapperImport (preset : Preset) (p : Progress) (g : WrapperGroup × Nat) :
    Tally.total Item.values (wrapperImport preset p g) =
      .definitely ((p.ofGroup g.2).map (·.2)) := by
  unfold wrapperImport
  split
  · next none => rw [none]; rfl
  · next w ws some =>
    rw [Tally.total_singleton, Item.values_importNamed, some]
    simp [Function.comp_def]

def wrapperLocals (preset : Preset) (p : Progress) : List String :=
  preset.groups.zipIdx.flatMap fun g => (p.ofGroup g.2).map (·.2)

theorem total_values_wrapperImports (preset : Preset) (p : Progress) :
    Tally.total Item.values (wrapperImports preset p) =
      .definitely (wrapperLocals preset p) := by
  rw [wrapperImports, Tally.total_flatMap, funext (total_values_wrapperImport preset p),
    Tally.total_definitely]
  rfl

theorem perm_wrapperLocals {preset : Preset} {p : Progress}
    (grouped : ∀ w ∈ p.wrappers, preset.groupIndex w.1.2 = some w.1.1) :
    (wrapperLocals preset p).Perm (p.wrappers.map (·.2)) := by
  have bounded (w : (Nat × String) × String) (bound : w ∈ p.wrappers) :
      w.1.1 < preset.groups.length :=
    (List.findIdx?_eq_some_iff_findIdx_eq.mp (grouped w bound)).1
  have buckets : wrapperLocals preset p =
      ((List.range preset.groups.length).flatMap fun i =>
        p.wrappers.filter (·.1.1 == i)).map (·.2) := by
    rw [List.range_eq_range', ← List.zipIdx_map_snd 0 preset.groups, List.flatMap_map,
      List.map_flatMap]
    simp only [wrapperLocals, Progress.ofGroup_eq, List.map_map, Function.comp_def]
  rw [buckets]
  exact (perm_flatMap_filter_key bounded).map _

theorem total_exports_wrapperImports (preset : Preset) (p : Progress) :
    Tally.total Item.exports (wrapperImports preset p) = .empty := by
  have none (g : WrapperGroup × Nat) :
      Tally.total Item.exports (wrapperImport preset p g) = .empty := by
    unfold wrapperImport
    split <;> rfl
  rw [wrapperImports, Tally.total_flatMap, funext none]
  simp [Tally.total, Tally.empty]

/-! The module and its plans -/

theorem Item.tally_of_implementedNames {i : Item} {n : String}
    (implemented : n ∈ i.implementedNames) :
    ∃ span d, i = .exportDeclaration span d ∧ ∀ kinds, n ∈ (d.tally kinds).definite := by
  unfold implementedNames at implemented
  split at implemented
  · next span d =>
    split at implemented
    · next bodied =>
      refine ⟨span, .function d, rfl, fun kinds => ?_⟩
      simpa [Declaration.tally, FunctionDecl.tally, Tally.function, bodied] using implemented
    · exact absurd implemented List.not_mem_nil
  · exact absurd implemented List.not_mem_nil

namespace Module

variable (m : Module) (preset : Preset) (routeId : String)

/-- The aliases that the lists of a module export, in order. -/
def aliases : List String := (m.plans preset).1.flatMap Plan.aliases

theorem origins_plans : (m.plans preset).1.map Plan.origin = m.items :=
  (Plan.for_origins (m.accounts_plans preset).1).1

variable {preset} in
theorem for_of_mem_plans {p : Plan} (planned : p ∈ (m.plans preset).1) :
    Plan.For preset (Surface.ofItems m.items) p.origin p :=
  (Plan.for_origins (m.accounts_plans preset).1).2 p planned

variable {m preset} in
theorem origin_mem_items {p : Plan} (planned : p ∈ (m.plans preset).1) : p.origin ∈ m.items := by
  rw [← m.origins_plans preset]
  exact List.mem_map_of_mem planned

variable {m} in
theorem exists_plan {i : Item} (listed : i ∈ m.items) :
    ∃ p ∈ (m.plans preset).1, Plan.For preset (Surface.ofItems m.items) i p := by
  rw [← m.origins_plans preset] at listed
  obtain ⟨p, planned, rfl⟩ := List.mem_map.mp listed
  exact ⟨p, planned, m.for_of_mem_plans planned⟩

variable {m preset} in
theorem image_subset_rewriteExports {p : Plan} (planned : p ∈ (m.plans preset).1) :
    p.image (m.plans preset).2.references (m.plans preset).2.imports (.ofString routeId) ⊆
      (m.rewriteExports preset routeId).1.items := by
  intro i image
  exact List.mem_append_right _ (List.mem_flatMap.mpr ⟨p, planned, image⟩)

theorem constants_rewriteExports :
    (m.rewriteExports preset routeId).2.constants =
      (m.plans preset).1.flatMap Plan.constants := by
  change Report.constants (m.plans preset).2.report = _
  rw [Report.constants, (m.accounts_plans preset).2.entries, List.filter_flatMap,
    List.map_flatMap]
  exact List.flatMap_congr fun p _ => p.constants_entries preset

theorem functions_rewriteExports :
    (m.rewriteExports preset routeId).2.functions =
      (m.plans preset).1.flatMap Plan.functions := by
  change Report.functions (m.plans preset).2.report = _
  rw [Report.functions, (m.accounts_plans preset).2.entries, List.filter_flatMap,
    List.map_flatMap]
  exact List.flatMap_congr fun p _ => p.functions_entries preset

/-- The imports that move, and the aliases that they move to. -/
def moves : Renaming := (m.plans preset).1.flatMap Plan.moves

/-- Local names of the imports that lists request, in order. -/
def requested : List String := (m.plans preset).1.flatMap Plan.imported

def wrapperLocals : List String := RouteWrap.wrapperLocals preset (m.plans preset).2

theorem imports_plans : (m.plans preset).2.imports = m.moves preset :=
  (m.accounts_plans preset).2.moves

theorem references_plans : (m.plans preset).2.references = (m.moves preset).reverse :=
  congrArg List.reverse (m.accounts_plans preset).2.moves

variable {m preset} in
theorem of_mem_moves {n : String} (source : n ∈ (m.moves preset).map Prod.fst) :
    n ∈ (Surface.ofItems m.items).imported ∧ n ∈ (m.plans preset).1.flatMap Plan.constants := by
  obtain ⟨move, moved, rfl⟩ := List.mem_map.mp source
  obtain ⟨p, planned, moved⟩ := List.mem_flatMap.mp moved
  exact ((m.for_of_mem_plans planned).of_mem_moves move moved).imp_right fun constant =>
    List.mem_flatMap.mpr ⟨p, planned, constant⟩

theorem bound_subperm_aliases :
    (m.requested preset ++ (m.moves preset).map Prod.snd).Subperm (m.aliases preset) := by
  let specifiers := (m.plans preset).1.flatMap Plan.specifiers
  have requested : m.requested preset = specifiers.flatMap fun p => p.imported.map (·.2) := by
    simp only [specifiers, Module.requested, List.flatMap_assoc]
    exact List.flatMap_congr fun p _ => List.map_flatMap
  have moves : (m.moves preset).map Prod.snd = specifiers.flatMap fun p => p.moves.map (·.2) := by
    simp only [specifiers, Module.moves, List.flatMap_assoc, List.map_flatMap, Plan.moves]
  have aliases : m.aliases preset = specifiers.flatMap SpecifierPlan.aliases := by
    simp only [specifiers, Module.aliases, List.flatMap_assoc]
    rfl
  rw [requested, moves, aliases]
  refine ⟨_, (List.flatMap_append_perm _ _ _).symm, ?_⟩
  exact List.Sublist.flatMap_right _ fun p _ => p.bound_sublist_aliases

theorem bound_fresh :
    (m.wrapperLocals preset ++ (m.requested preset ++ (m.moves preset).map Prod.snd)).Nodup ∧
      ∀ n ∈ m.wrapperLocals preset ++ (m.requested preset ++ (m.moves preset).map Prod.snd),
        n ∉ m.names := by
  have accounts := (m.accounts_plans preset).2
  have locals : (m.wrapperLocals preset).Perm ((m.plans preset).2.wrappers.map (·.2)) :=
    perm_wrapperLocals accounts.grouped
  have given := (m.bound_subperm_aliases preset).append locals.subperm
  constructor
  · rw [List.nodup_append_comm]
    obtain ⟨part, same, within⟩ := given
    exact same.nodup_iff.mp (accounts.supplied.distinct.sublist within)
  · intro n bound
    exact accounts.supplied.apart n (given.subset (List.perm_append_comm.mem_iff.mp bound))

theorem nodup_targets_moves : ((m.moves preset).map Prod.snd).Nodup := by
  have boundOnce := (m.bound_fresh preset).1
  exact (List.nodup_append'.mp (List.nodup_append'.mp boundOnce).2.1).2.1

variable {m preset} in
theorem apply_moves_fresh {n : String} (source : n ∈ (m.moves preset).map Prod.fst) :
    (m.moves preset).apply n ∉ m.names := by
  refine (m.bound_fresh preset).2 _ (List.mem_append_right _ (List.mem_append_right _ ?_))
  exact List.mem_map_of_mem (Renaming.apply_mem source)

theorem aliases_candidates :
    List.Forall₂ (fun e a => ∃ k, a = FreshNames.candidate (FreshNames.stem e) k)
      (m.rewriteExports preset routeId).2.constants (m.aliases preset) := by
  rw [constants_rewriteExports]
  exact forall₂_flatMap fun p planned => (m.for_of_mem_plans planned).aliases_candidates

theorem aliases_fresh :
    (m.aliases preset).Nodup ∧ ∀ a ∈ m.aliases preset, a ∉ m.names := by
  have supplied := (m.accounts_plans preset).2.supplied
  refine ⟨(List.nodup_append'.mp supplied.distinct).1, fun a given => ?_⟩
  exact supplied.apart a (List.mem_append_left _ given)

theorem rewriteExports_values :
    (m.rewriteExports preset routeId).1.values =
      .definitely (m.wrapperLocals preset) ++
        Tally.total (fun p => Tally.total Item.values
          (p.image (m.plans preset).2.references (m.plans preset).2.imports (.ofString routeId)))
          (m.plans preset).1 := by
  change Tally.total Item.values (RouteWrap.wrapperImports preset (m.plans preset).2 ++ _) = _
  rw [Tally.total_append, total_values_wrapperImports, Tally.total_flatMap]
  rfl

theorem rewriteExports_exports :
    (m.rewriteExports preset routeId).1.exports =
      Tally.total (fun p => Tally.total Item.exports
        (p.image (m.plans preset).2.references (m.plans preset).2.imports (.ofString routeId)))
        (m.plans preset).1 := by
  change Tally.total Item.exports (wrapperImports preset (m.plans preset).2 ++ _) = _
  rw [Tally.total_append, total_exports_wrapperImports, Tally.total_flatMap]
  rfl

/-- Names of the signatures that no overload of an exported function is; they stay. -/
def lastingSignatures (tally : Item → Tally) : List String :=
  m.items.flatMap fun i =>
    if i.isOverload preset (Surface.ofItems m.items) then [] else (tally i).signatures

variable {m preset} in
theorem signatures_images {tally : Item → Tally} {kinds : Binder → Bool}
    (reading : Item.Reading tally kinds) (σ τ : Renaming) (route : Points) :
    (Tally.total (fun p => Tally.total tally (p.image σ τ route))
      (m.plans preset).1).signatures = m.lastingSignatures preset tally := by
  have fits (p : Plan) (planned : p ∈ (m.plans preset).1) := m.for_of_mem_plans planned
  rw [lastingSignatures]
  generalize Surface.ofItems m.items = surface at fits ⊢
  rw [← m.origins_plans preset, List.flatMap_map]
  exact List.flatMap_congr fun p planned => (fits p planned).signatures_image reading _ _ _

theorem signatures_exports :
    (m.rewriteExports preset routeId).1.exports.signatures =
      m.lastingSignatures preset Item.exports := by
  rw [rewriteExports_exports, signatures_images Item.reading_exports]

theorem signatures_values :
    (m.rewriteExports preset routeId).1.values.signatures =
      m.lastingSignatures preset Item.values := by
  rw [rewriteExports_values, Tally.signatures_append, signatures_images Item.reading_values]
  rfl

/-- What the module declares, its imports moved. -/
def movedValues : Tally :=
  .total (fun i => (i.renameImports (m.moves preset)).values) m.items

theorem gains_values :
    Tally.Gains (Surface.ofItems m.items).implemented (m.movedValues preset)
      (m.rewriteExports preset routeId).1.values
      ((m.wrapperLocals preset ++ m.requested preset) ++
        (m.rewriteExports preset routeId).2.constants)
      (m.rewriteExports preset routeId).2.functions := by
  have origins : m.movedValues preset = Tally.total
      (fun p => (p.origin.renameImports (m.plans preset).2.imports).values)
      (m.plans preset).1 := by
    rw [imports_plans, movedValues, ← m.origins_plans preset, Tally.total_map]
  have added : (m.wrapperLocals preset ++
      (m.plans preset).1.flatMap fun p => p.imported ++ p.constants).Perm
      ((m.wrapperLocals preset ++ m.requested preset) ++
        (m.rewriteExports preset routeId).2.constants) := by
    rw [constants_rewriteExports, List.append_assoc]
    exact (List.flatMap_append_perm _ _ _).symm.append_left _
  rw [origins, rewriteExports_values, functions_rewriteExports]
  refine Tally.Gains.perm (Tally.Gains.append_left (.total fun p planned => ?_)) added
  exact (m.for_of_mem_plans planned).gains_values _ _ _

theorem gains_exports :
    Tally.Gains (Surface.ofItems m.items).implemented m.exports
      (m.rewriteExports preset routeId).1.exports (m.aliases preset)
      (m.rewriteExports preset routeId).2.functions := by
  have origins : m.exports = Tally.total (fun p => p.origin.exports) (m.plans preset).1 := by
    rw [← Tally.total_map, origins_plans]
    rfl
  rw [origins, rewriteExports_exports, functions_rewriteExports]
  exact .total fun p planned => (m.for_of_mem_plans planned).gains_exports _ _ _

variable {m} in
theorem implemented_subset_total {tally : Item → Tally} {kinds : Binder → Bool}
    (exported : ∀ span d, tally (.exportDeclaration span d) = d.tally kinds) :
    (Surface.ofItems m.items).implemented ⊆ (Tally.total tally m.items).definite := by
  intro n implemented
  obtain ⟨i, listed, implemented⟩ := List.mem_flatMap.mp implemented
  refine List.mem_flatMap.mpr ⟨i, listed, ?_⟩
  obtain ⟨span, d, rfl, declared⟩ := Item.tally_of_implementedNames implemented
  rw [exported]
  exact declared kinds

theorem implemented_subset_movedValues :
    (Surface.ofItems m.items).implemented ⊆ (m.movedValues preset).definite :=
  implemented_subset_total fun _ _ => rfl

theorem implemented_subset_exports :
    (Surface.ofItems m.items).implemented ⊆ m.exports.definite :=
  implemented_subset_total fun _ _ => rfl

end Module

/-! Modules written out -/

def Module.ofItems (items : List Item) : Module :=
  { (default : Module) with items }

/-- `export { source as exported, … }`, from another module if one is named. -/
def exportNamed (specifiers : List (String × String)) (path : Option String) : Item :=
  .exportList
    { span := .none, typeOnly := false
      specifiers := specifiers.map fun s =>
        ⟨.none, false, .name .none s.1, .name .none s.2⟩
      request := path.map fun p => ⟨.none, .ofString p, .absent⟩ }

end RouteWrap
