import RouteWrap.Proofs.Stacks

/-!
What a stack of presets puts at fault with the exports of a module. The names under which a module
exports are those that it exported, less the overloads that are dropped, and the aliases of each
pass. An alias that the module exports already stays there twice, as no pass drops what could be
an alias; beside this, no name and no default is exported twice that was not before.
-/

namespace RouteWrap

/-- What is found are the names that occur again, or that were seen before. -/
theorem duplicates_eq_nil_iff (seen exported : List (String × Nat)) :
    duplicates seen exported = [] ↔
      (exported.map Prod.fst).Nodup ∧ ∀ n ∈ exported.map Prod.fst, n ∉ seen.map Prod.fst := by
  induction exported generalizing seen with
  | nil => simp [duplicates]
  | cons e rest ih =>
      obtain ⟨n, offset⟩ := e
      rw [duplicates]
      cases found : seen.lookup n with
      | some first =>
          have known : n ∈ seen.map Prod.fst := by
            by_contra unknown
            rw [List.lookup_eq_none_iff.mpr fun e listed => ?_] at found
            · cases found
            · rw [bne_iff_ne]
              rintro rfl
              exact unknown (List.mem_map_of_mem listed)
          simp only [reduceCtorEq, List.map_cons, List.forall_mem_cons, known, not_true_eq_false,
            false_and, and_false]
      | none =>
          have unknown : n ∉ seen.map Prod.fst := by
            intro known
            obtain ⟨e, listed, rfl⟩ := List.mem_map.mp known
            simpa using List.lookup_eq_none_iff.mp found e listed
          simp only [ih, List.map_append, List.map_cons, List.map_nil, List.mem_append,
            List.mem_singleton, not_or, List.nodup_cons, List.forall_mem_cons]
          constructor
          · rintro ⟨once, apart⟩
            exact ⟨⟨fun again => (apart n again).2 rfl, once⟩, unknown,
              fun k listed => (apart k listed).1⟩
          · rintro ⟨⟨single, once⟩, -, apart⟩
            exact ⟨once, fun k listed => ⟨apart k listed, fun same => single (same ▸ listed)⟩⟩

namespace Item

/-- Names under which an item exports, those of signatures among them. -/
def exportTexts (i : Item) : List String := i.exportedNames.map Prod.fst

def defaultSpans : Item → List Span
  | exportDefault s _ => [s]
  | _ => []

theorem exportTexts_kept (σ τ : Renaming) (i : Item) :
    ((i.rename σ).renameImports τ).exportTexts = i.exportTexts := by
  cases i with
  | exportDeclaration s d =>
      simp [rename, renameImports, exportTexts, exportedNames, d.boundNames_rename σ]
  | exportList l =>
      cases request : l.request <;>
        simp [rename, renameImports, ExportList.rename, request, exportTexts, exportedNames,
          Function.comp_def]
  | _ => rfl

/-- Only a signature is exported by a name and has no value. -/
theorem exportTexts_eq {i : Item}
    (bodied : ∀ s d, i = .exportDeclaration s (.function d) → d.body.isSome) :
    i.exportTexts = i.exportedValues := by
  cases i with
  | exportDeclaration s d =>
      cases d with
      | function d =>
          cases named : d.name <;>
            simp [exportTexts, exportedNames, exportedValues, Declaration.boundNames,
              bodied s d rfl, named]
      | _ => simp [exportTexts, exportedNames, exportedValues]
  | exportAll e =>
      cases named : e.exported <;> simp [exportTexts, exportedNames, exportedValues, named]
  | _ => simp [exportTexts, exportedNames, exportedValues]

end Item

theorem defaultFaults_eq_nil_iff (items : List Item) :
    defaultFaults items = [] ↔ (items.flatMap Item.defaultSpans).length ≤ 1 := by
  unfold defaultFaults
  generalize found : items.filterMap _ = offsets
  have count : offsets.length = (items.flatMap Item.defaultSpans).length := by
    rw [← found]
    clear found
    induction items with
    | nil => rfl
    | cons i items ih => cases i <;> simp [Item.defaultSpans, ih]
  rw [← count]
  cases offsets with
  | nil => simp
  | cons first rest => cases rest <;> simp

def Module.exportTexts (m : Module) : List String := m.items.flatMap Item.exportTexts

def Module.defaultSpans (m : Module) : List Span := m.items.flatMap Item.defaultSpans

/-- No alias of the pass is exported by the module that it finds. -/
def Pass.ExportsFresh (p : Pass) : Prop :=
  ∀ a ∈ p.before.aliases p.preset, a ∉ p.before.exportTexts

instance (p : Pass) : Decidable p.ExportsFresh :=
  inferInstanceAs (Decidable (∀ a ∈ _, a ∉ _))

namespace Plan

variable {preset : Preset} {surface : Surface} {i : Item} {p : Plan}

/-- Names under which nothing is exported any more. -/
def lost : Plan → List String
  | drop i => i.exportTexts
  | _ => []

theorem For.exportTexts_image (fits : For preset surface i p) (σ τ : Renaming) (route : Points) :
    ((p.image σ τ route).flatMap Item.exportTexts ++ p.lost).Perm
      (p.aliases ++ i.exportTexts) := by
  -- What is not kept as it was becomes constants and lists, which sign nothing.
  have valued (unlost : p.lost = [])
      (bodied : ∀ s d, i = .exportDeclaration s (.function d) → d.body.isSome)
      (unsigned : ∀ j ∈ p.image σ τ route, ∀ s d, j ≠ .exportDeclaration s (.function d)) :
      ((p.image σ τ route).flatMap Item.exportTexts ++ p.lost).Perm
        (p.aliases ++ i.exportTexts) := by
    rw [unlost, List.append_nil, Item.exportTexts_eq bodied, List.flatMap_congr fun j image =>
      Item.exportTexts_eq fun s d same => absurd same (unsigned j image s d)]
    exact fits.exportedValues_image
  cases fits with
  | keep i unlisted kept => simp [image, Item.exportTexts_kept, aliases, specifiers, lost]
  | drop overload => simp [image, aliases, specifiers, lost]
  | initial callee only target given recognized =>
      exact valued rfl (by simp) (by simp [image])
  | function callee named bodied real recognized =>
      refine valued rfl (fun s d same => ?_) (by simp [image, constDeclaration])
      simp only [Item.exportDeclaration.injEq, Declaration.function.injEq] at same
      rw [← same.2]
      exact bodied
  | @list l ps each =>
      refine valued rfl (by simp) fun j image s d => ?_
      rcases mem_image_list image with ⟨ss, path, rfl⟩ | rfl | ⟨n, value, rfl⟩
      · simp [importNamed]
      · simp
      · simp [exportConst, constDeclaration]

theorem For.recognizes_lost (fits : For preset surface i p) {n : String} (gone : n ∈ p.lost) :
    preset.recognizes n := by
  cases fits with
  | @drop span d overload =>
      simp only [Planning.isOverload, Bool.and_eq_true, Option.any_eq_true] at overload
      obtain ⟨-, k, named, recognized, -⟩ := overload
      simp only [lost, Item.exportTexts, Item.exportedNames, Declaration.boundNames, named,
        Option.toList_some, List.map_cons, List.map_nil, List.mem_singleton] at gone
      rw [gone]
      exact recognized
  | _ => exact absurd gone List.not_mem_nil

theorem For.defaultSpans_image (fits : For preset surface i p) (σ τ : Renaming)
    (route : Points) : (p.image σ τ route).flatMap Item.defaultSpans = i.defaultSpans := by
  cases fits with
  | keep i unlisted kept => cases i <;> rfl
  | drop | initial | function => rfl
  | @list l ps each =>
      refine List.flatMap_eq_nil_iff.mpr fun j image => ?_
      rcases mem_image_list image with ⟨ss, path, rfl⟩ | rfl | ⟨n, value, rfl⟩ <;> rfl

end Plan

namespace Module

theorem exportFaults_eq_nil_iff {m : Module} :
    exportFaults m.items = [] ↔ m.exportTexts.Nodup ∧ m.defaultSpans.length ≤ 1 := by
  have texts : (m.items.flatMap Item.exportedNames).map Prod.fst = m.exportTexts := by
    rw [List.map_flatMap]
    rfl
  rw [exportFaults, List.append_eq_nil_iff, duplicates_eq_nil_iff, texts, defaultFaults_eq_nil_iff]
  simp [defaultSpans]

variable (m : Module) (preset : Preset) (routeId : String)

/-- Names of the overloads that are dropped. -/
def lost : List String := (m.plans preset).1.flatMap Plan.lost

theorem exportTexts_rewriteExports :
    ((m.rewriteExports preset routeId).1.exportTexts ++ m.lost preset).Perm
      (m.aliases preset ++ m.exportTexts) := by
  have origins : m.exportTexts = (m.plans preset).1.flatMap fun p => p.origin.exportTexts := by
    rw [exportTexts, ← m.origins_plans preset, List.flatMap_map]
  rw [exportTexts, m.flatMap_rewriteExports preset routeId fun _ _ => rfl, origins]
  refine ((List.flatMap_append_perm _ _ _).trans ?_).trans (List.flatMap_append_perm _ _ _).symm
  exact List.Perm.flatMap_left _ fun p planned => (m.for_of_mem_plans planned).exportTexts_image ..

theorem defaultSpans_rewriteExports :
    (m.rewriteExports preset routeId).1.defaultSpans = m.defaultSpans := by
  rw [defaultSpans, m.flatMap_rewriteExports preset routeId fun _ _ => rfl, defaultSpans,
    ← m.origins_plans preset, List.flatMap_map]
  exact List.flatMap_congr fun p planned => (m.for_of_mem_plans planned).defaultSpans_image ..

theorem defaultSpans_instrument (presets : List Preset) :
    (m.instrument presets routeId).1.defaultSpans = m.defaultSpans := by
  induction presets generalizing m with
  | nil => rfl
  | cons preset presets ih => exact (ih _).trans (m.defaultSpans_rewriteExports preset routeId)

variable {m preset routeId}

/-- Of the names that no supply generates, none is exported twice that was not before. -/
theorem nodup_unmarked_rewriteExports (once : (m.exportTexts.filter (!isMarked ·)).Nodup) :
    ((m.rewriteExports preset routeId).1.exportTexts.filter (!isMarked ·)).Nodup := by
  have marked : (m.aliases preset).filter (!isMarked ·) = [] :=
    List.filter_eq_nil_iff.mpr fun a given => by simp [isMarked_of_mem_aliases given]
  have same := (m.exportTexts_rewriteExports preset routeId).filter (!isMarked ·)
  rw [List.filter_append, List.filter_append, marked, List.nil_append] at same
  exact (List.nodup_append'.mp (same.nodup_iff.mpr once)).1

/-- Of the names that a supply generates, a rewrite drops none. -/
theorem nodup_marked_rewriteExports_iff
    (given : ∀ n, preset.recognizes n → isMarked n = false) :
    ((m.rewriteExports preset routeId).1.exportTexts.filter isMarked).Nodup ↔
      (m.exportTexts.filter isMarked).Nodup ∧ ∀ a ∈ m.aliases preset, a ∉ m.exportTexts := by
  have unmarked : (m.lost preset).filter isMarked = [] := by
    refine List.filter_eq_nil_iff.mpr fun n gone => ?_
    obtain ⟨p, planned, gone⟩ := List.mem_flatMap.mp gone
    simp [given n ((m.for_of_mem_plans planned).recognizes_lost gone)]
  have marked : (m.aliases preset).filter isMarked = m.aliases preset :=
    List.filter_eq_self.mpr fun a supplied => isMarked_of_mem_aliases supplied
  have same := (m.exportTexts_rewriteExports preset routeId).filter isMarked
  rw [List.filter_append, List.filter_append, unmarked, marked, List.append_nil] at same
  rw [same.nodup_iff, List.nodup_append', and_iff_right (m.aliases_fresh preset).1]
  refine and_congr_right fun _ => forall₂_congr fun a supplied => ?_
  simp [isMarked_of_mem_aliases supplied]

theorem nodup_unmarked_instrument (once : (m.exportTexts.filter (!isMarked ·)).Nodup)
    (presets : List Preset) (routeId : String) :
    ((m.instrument presets routeId).1.exportTexts.filter (!isMarked ·)).Nodup := by
  induction presets generalizing m with
  | nil => exact once
  | cons preset presets ih => exact ih (nodup_unmarked_rewriteExports once)

variable (m routeId) in
theorem nodup_marked_instrument_iff {presets : List Preset}
    (given : ∀ preset ∈ presets, ∀ n, preset.recognizes n → isMarked n = false) :
    ((m.instrument presets routeId).1.exportTexts.filter isMarked).Nodup ↔
      (m.exportTexts.filter isMarked).Nodup ∧
        ∀ p ∈ m.passes routeId presets, p.ExportsFresh := by
  induction presets generalizing m with
  | nil => simp [instrument, passes]
  | cons preset presets ih =>
      obtain ⟨givenFirst, given⟩ := List.forall_mem_cons.mp given
      rw [passes, List.forall_mem_cons, ← and_assoc]
      exact (ih _ given).trans (and_congr_left' (nodup_marked_rewriteExports_iff givenFirst))

/-- The exports stay without fault as long as no pass gives an alias that is exported already. -/
theorem exportFaults_instrument_iff {presets : List Preset}
    (given : ∀ preset ∈ presets, ∀ n, preset.recognizes n → isMarked n = false)
    (faultless : exportFaults m.items = []) :
    exportFaults (m.instrument presets routeId).1.items = [] ↔
      ∀ p ∈ m.passes routeId presets, p.ExportsFresh := by
  obtain ⟨distinct, single⟩ := exportFaults_eq_nil_iff.mp faultless
  have marked := m.nodup_marked_instrument_iff routeId given
  rw [and_iff_right (distinct.filter isMarked)] at marked
  rw [exportFaults_eq_nil_iff, defaultSpans_instrument, and_iff_left single, ← marked]
  constructor
  · exact fun once => once.filter isMarked
  · intro once
    have parts := List.filter_append_perm isMarked (m.instrument presets routeId).1.exportTexts
    refine parts.nodup_iff.mp (List.nodup_append'.mpr ⟨once, ?_, ?_⟩)
    · exact nodup_unmarked_instrument (distinct.filter _) presets routeId
    · intro n first second
      have marked := (List.mem_filter.mp first).2
      simp [marked] at second

end Module

end RouteWrap
