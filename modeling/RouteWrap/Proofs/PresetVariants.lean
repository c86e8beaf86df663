import Mathlib.Data.Multiset.Bind
import Mathlib.Logic.Relation
import RouteWrap.Proofs.AlikePresets
import RouteWrap.Proofs.ValidPresets
import RouteWrap.Proofs.WrapperImports

/-!
Which part of a preset matters to a module: of each group its name, its path and those of its
exports that the module offers, and of the order of groups nothing but the order of the imports.
Presets that differ elsewhere are alike for the module, so that walks with them come to the same.
-/

namespace RouteWrap

/-- What a group means to a module: name, path, and the exports that the module offers. -/
def WrapperGroup.relevant (m : Module) (g : WrapperGroup) : (String × String) × Multiset String :=
  ((g.name, g.runtimePath), (g.exports : Multiset String).filter m.Offers)

theorem WrapperGroup.mem_relevant {m : Module} {g : WrapperGroup} {e : String} :
    e ∈ (g.relevant m).2 ↔ e ∈ g.exports ∧ m.Offers e := by
  rw [relevant, Multiset.mem_filter, Multiset.mem_coe]

namespace Preset

/-- One step from a preset to another that does not matter to a module: the groups or the exports
of a group change places, or a group or an export comes in that the module offers nothing of. -/
inductive Step (m : Module) : Preset → Preset → Prop
  | groups {naming : WrapperNaming} {gs gs' : List WrapperGroup} (permuted : gs.Perm gs') :
      Step m ⟨naming, gs⟩ ⟨naming, gs'⟩
  | exports {naming : WrapperNaming} {name path : String} {es es' : List String}
      {gs : List WrapperGroup} (permuted : es.Perm es') :
      Step m ⟨naming, ⟨name, path, es⟩ :: gs⟩ ⟨naming, ⟨name, path, es'⟩ :: gs⟩
  | addExport {naming : WrapperNaming} {name path e : String} {es : List String}
      {gs : List WrapperGroup} (unoffered : ¬ m.Offers e) :
      Step m ⟨naming, ⟨name, path, es⟩ :: gs⟩ ⟨naming, ⟨name, path, e :: es⟩ :: gs⟩
  | addGroup {naming : WrapperNaming} {g : WrapperGroup} {gs : List WrapperGroup}
      (unoffered : ∀ e ∈ g.exports, ¬ m.Offers e) :
      Step m ⟨naming, gs⟩ ⟨naming, g :: gs⟩

/-- Some steps lead from the one preset to the other, forward or backward. -/
abbrev Varies (m : Module) : Preset → Preset → Prop := Relation.EqvGen (Step m)

/-- What the groups mean to a module; those that mean nothing are left out. -/
def relevant (m : Module) (p : Preset) : Multiset ((String × String) × Multiset String) :=
  ((p.groups : Multiset WrapperGroup).map (WrapperGroup.relevant m)).filter (·.2 ≠ 0)

variable {m : Module} {p q : Preset}

theorem Step.relevant_eq (step : Step m p q) :
    q.naming = p.naming ∧ q.relevant m = p.relevant m := by
  cases step with
  | @groups naming gs gs' permuted =>
      refine ⟨rfl, ?_⟩
      rw [relevant, relevant, Multiset.coe_eq_coe.mpr permuted]
  | @exports naming name path es es' gs permuted =>
      have same : WrapperGroup.relevant m ⟨name, path, es'⟩ =
          WrapperGroup.relevant m ⟨name, path, es⟩ := by
        rw [WrapperGroup.relevant, WrapperGroup.relevant, Multiset.coe_eq_coe.mpr permuted]
      refine ⟨rfl, ?_⟩
      simp only [relevant, ← Multiset.cons_coe, Multiset.map_cons, same]
  | @addExport naming name path e es gs unoffered =>
      have same : WrapperGroup.relevant m ⟨name, path, e :: es⟩ =
          WrapperGroup.relevant m ⟨name, path, es⟩ := by
        rw [WrapperGroup.relevant, ← Multiset.cons_coe, Multiset.filter_cons_of_neg _ unoffered]
        rfl
      refine ⟨rfl, ?_⟩
      simp only [relevant, ← Multiset.cons_coe, Multiset.map_cons, same]
  | @addGroup naming g gs unoffered =>
      have nothing : (g.relevant m).2 = 0 := by
        refine Multiset.eq_zero_of_forall_notMem fun e among => ?_
        obtain ⟨listed, offered⟩ := WrapperGroup.mem_relevant.mp among
        exact unoffered e listed offered
      refine ⟨rfl, ?_⟩
      simp only [relevant, ← Multiset.cons_coe, Multiset.map_cons]
      rw [Multiset.filter_cons_of_neg]
      exact not_not.mpr nothing

theorem Varies.relevant_eq (varies : Varies m p q) :
    q.naming = p.naming ∧ q.relevant m = p.relevant m := by
  induction varies with
  | rel _ _ step => exact step.relevant_eq
  | refl => exact ⟨rfl, rfl⟩
  | symm _ _ _ ih => exact ⟨ih.1.symm, ih.2.symm⟩
  | trans _ _ _ _ _ first second => exact ⟨second.1.trans first.1, second.2.trans first.2⟩

/-- A group that lists an offered export has a counterpart that lists it, too. -/
theorem exists_group_of_relevant (same : q.relevant m = p.relevant m) {g : WrapperGroup}
    {e : String} (grouped : g ∈ p.groups) (listed : e ∈ g.exports) (offered : m.Offers e) :
    ∃ g' ∈ q.groups, e ∈ g'.exports ∧ g'.name = g.name ∧ g'.runtimePath = g.runtimePath := by
  have among : e ∈ (g.relevant m).2 := WrapperGroup.mem_relevant.mpr ⟨listed, offered⟩
  have meant : g.relevant m ∈ p.relevant m := by
    refine Multiset.mem_filter.mpr ⟨Multiset.mem_map_of_mem _ grouped, fun nothing => ?_⟩
    rw [nothing] at among
    exact Multiset.notMem_zero e among
  rw [← same] at meant
  obtain ⟨g', grouped', counterpart⟩ := Multiset.mem_map.mp (Multiset.mem_filter.mp meant).1
  obtain ⟨label, exports⟩ := Prod.ext_iff.mp counterpart
  obtain ⟨name, path⟩ := Prod.ext_iff.mp label
  rw [← exports] at among
  exact ⟨g', grouped', (WrapperGroup.mem_relevant.mp among).1, name, path⟩

theorem exists_groupIndex (once : p.exports.Nodup) {g : WrapperGroup} {e : String}
    (grouped : g ∈ p.groups) (listed : e ∈ g.exports) :
    ∃ i : Nat, p.groupIndex e = some i ∧ p.groups[i]? = some g := by
  obtain ⟨i, found⟩ := List.mem_iff_getElem?.mp grouped
  have placed : (g, i) ∈ p.groups.zipIdx := List.mem_zipIdx_iff_getElem?.mpr found
  exact ⟨i, (groupIndex_eq_some_iff once placed).mpr listed, found⟩

theorem group_of_groupIndex {e : String} {i : Nat} (indexed : p.groupIndex e = some i) :
    ∃ g ∈ p.groups, e ∈ g.exports := by
  obtain ⟨bounded, lists, _⟩ := List.findIdx?_eq_some_iff_getElem.mp indexed
  exact ⟨_, List.getElem_mem bounded, List.contains_iff_mem.mp lists⟩

theorem alike_of_relevant (naming : q.naming = p.naming) (same : q.relevant m = p.relevant m)
    (once : p.exports.Nodup) (once' : q.exports.Nodup) : p.Alike m.Offers q := by
  -- An offered export is listed by a group of each preset, of one name and path, or by none.
  have filed (e : String) (offered : m.Offers e) :
      (p.groupIndex e = none ∧ q.groupIndex e = none) ∨
        ∃ (g g' : WrapperGroup) (i i' : Nat), p.groupIndex e = some i ∧ p.groups[i]? = some g ∧
          q.groupIndex e = some i' ∧ q.groups[i']? = some g' ∧ g'.name = g.name ∧
          g'.runtimePath = g.runtimePath := by
    cases indexed : p.groupIndex e with
    | some i =>
        obtain ⟨g, grouped, listed⟩ := group_of_groupIndex indexed
        obtain ⟨i, indexed', found⟩ := exists_groupIndex once grouped listed
        obtain rfl := Option.some.inj (indexed.symm.trans indexed')
        obtain ⟨g', grouped, listed, name, path⟩ :=
          exists_group_of_relevant same grouped listed offered
        obtain ⟨i', indexed', found'⟩ := exists_groupIndex once' grouped listed
        exact .inr ⟨g, g', _, i', rfl, found, indexed', found', name, path⟩
    | none =>
        refine .inl ⟨rfl, Option.eq_none_iff_forall_ne_some.mpr fun i' indexed' => ?_⟩
        obtain ⟨g', grouped, listed⟩ := group_of_groupIndex indexed'
        obtain ⟨g, grouped, listed, -⟩ :=
          exists_group_of_relevant same.symm grouped listed offered
        obtain ⟨i, indexed'', -⟩ := exists_groupIndex once grouped listed
        rw [indexed] at indexed''
        cases indexed''
  have wrapper (e : String) : q.wrapperName e = p.wrapperName e :=
    congrArg (fun naming => WrapperNaming.wrapperName naming e) naming
  refine ⟨naming, fun e offered => ?_, fun e offered => ?_⟩
  · rcases filed e offered with ⟨none, none'⟩ | ⟨g, g', i, i', indexed, -, indexed', -⟩
    · rw [recognizes, recognizes, none, none']
    · rw [recognizes, recognizes, indexed, indexed']
      rfl
  · funext shape callee
    rcases filed e offered with
      ⟨none, none'⟩ | ⟨g, g', i, i', indexed, found, indexed', found', name, path⟩
    · simp only [entry, none, none', wrapper, Option.bind_none]
    · simp only [entry, indexed, indexed', Option.bind_some, found, found', Option.getD_some, name,
        path, wrapper]

end Preset

namespace Report

/-- What the wrapper of an export is called, as the report tells. -/
def localOf (r : Report) (n : String) : String :=
  ((r.wrapped.find? fun e => e.name == n).map (·.wrapperLocal)).getD ""

/-- The import of the wrappers of those exports that a group lists, if there are any. -/
def importFor (r : Report) (naming : WrapperNaming) (g : WrapperGroup) : List Item :=
  match r.names.filter g.exports.contains with
  | [] => []
  | n :: ns =>
      [importNamed ((n :: ns).map fun n => (.name .none (naming.wrapperName n), r.localOf n))
        (.ofString g.runtimePath)]

end Report

namespace Module

variable {m : Module} {p q : Preset} {routeId : String}

theorem offers_of_mem_names {n : String}
    (wrapped : n ∈ (m.rewriteExports p routeId).2.names) : m.Offers n := by
  have mentions : (m.rewriteExports p routeId).2.Mentions n := .inl (List.mem_eraseDups.mp wrapped)
  obtain ⟨i, listed, occurs⟩ := exists_occurrence_of_mentions mentions
  exact ⟨i, listed, Item.offers_iff.mpr occurs⟩

theorem localOf_report {n : String} (wrapped : n ∈ (m.rewriteExports p routeId).2.names) :
    (m.rewriteExports p routeId).2.localOf n = m.localOf p n := by
  obtain ⟨e, reported, name⟩ := List.mem_map.mp (List.mem_eraseDups.mp wrapped)
  cases found : (m.rewriteExports p routeId).2.wrapped.find? (fun e => e.name == n) with
  | none => exact absurd (List.find?_eq_none.mp found e reported) (by simp [name])
  | some e' =>
      obtain rfl : e'.name = n := by simpa using List.find?_some found
      rw [Report.localOf, found]
      exact congrArg WrappedExport.wrapperLocal
        (entry_of_mem_wrapped (List.mem_of_find?_eq_some found))

/-- Where no export is listed twice, each group imports what the report holds of its exports. -/
theorem wrapperImports_importFor (once : p.exports.Nodup) :
    wrapperImports p (m.plans p).2 =
      p.groups.flatMap ((m.rewriteExports p routeId).2.importFor p.naming) := by
  have each (g : WrapperGroup × Nat) (placed : g ∈ p.groups.zipIdx) :
      wrapperImport p (m.plans p).2 g =
        (m.rewriteExports p routeId).2.importFor p.naming g.1 := by
    have names : (m.rewriteExports p routeId).2.namesOf p g.2 =
        (m.rewriteExports p routeId).2.names.filter g.1.exports.contains := by
      refine List.filter_congr fun n _ => ?_
      rw [Bool.eq_iff_iff, beq_iff_eq, List.contains_iff_mem]
      exact Preset.groupIndex_eq_some_iff once placed
    have locals (n : String) (listed : n ∈ (m.rewriteExports p routeId).2.namesOf p g.2) :
        (m.rewriteExports p routeId).2.localOf n = m.localOf p n :=
      localOf_report (List.mem_filter.mp listed).1
    rw [wrapperImport, m.ofGroup_plans p routeId, Report.importFor, ← names]
    cases same : (m.rewriteExports p routeId).2.namesOf p g.2 with
    | nil => rfl
    | cons n ns =>
        rw [same] at locals
        have specifiers : ((n :: ns).map fun n => (n, m.localOf p n)).map
              (fun w => (LinkName.name .none (p.wrapperName w.1), w.2)) =
            (n :: ns).map fun n => (.name .none (p.naming.wrapperName n),
              (m.rewriteExports p routeId).2.localOf n) := by
          rw [List.map_map]
          exact List.map_congr_left fun k listed =>
            congrArg (Prod.mk _) (locals k listed).symm
        exact congrArg (fun s => [importNamed s _]) specifiers
  rw [wrapperImports, List.flatMap_congr each, ← List.flatMap_map, List.zipIdx_map_fst]

/-- Of a group the import depends on what the group means to the module alone. -/
theorem perm_importFor (same : q.relevant m = p.relevant m) {r : Report}
    (offered : ∀ n ∈ r.names, m.Offers n) (naming : WrapperNaming) :
    (p.groups.flatMap (r.importFor naming)).Perm (q.groups.flatMap (r.importFor naming)) := by
  let imports (meaning : (String × String) × Multiset String) : Multiset Item :=
    match r.names.filter (· ∈ meaning.2) with
    | [] => 0
    | n :: ns =>
        {importNamed ((n :: ns).map fun n => (.name .none (naming.wrapperName n), r.localOf n))
          (.ofString meaning.1.2)}
  have each (g : WrapperGroup) : (r.importFor naming g : Multiset Item) =
      imports (g.relevant m) := by
    have names : r.names.filter (· ∈ (g.relevant m).2) = r.names.filter g.exports.contains := by
      refine List.filter_congr fun n listed => ?_
      simp [WrapperGroup.relevant, offered n listed]
    simp only [imports, names, Report.importFor]
    split <;> rfl
  have nothing (meanings : Multiset ((String × String) × Multiset String)) :
      (meanings.filter (·.2 ≠ 0)).bind imports = meanings.bind imports := by
    induction meanings using Multiset.induction with
    | empty => rfl
    | cons meaning meanings ih =>
        by_cases empty : meaning.2 = 0
        · have none : imports meaning = 0 := by simp [imports, empty]
          rw [Multiset.filter_cons_of_neg, ih, Multiset.cons_bind, none, zero_add]
          exact not_not.mpr empty
        · rw [Multiset.filter_cons_of_pos, Multiset.cons_bind, Multiset.cons_bind, ih]
          exact empty
  have whole (p : Preset) : (p.groups.flatMap (r.importFor naming) : Multiset Item) =
      (p.relevant m).bind imports := by
    rw [Preset.relevant, nothing, Multiset.bind_map, ← Multiset.coe_bind]
    exact Multiset.bind_congr fun g _ => each g
  rw [← Multiset.coe_eq_coe, whole p, whole q, same]

/-- Presets without a fault that vary in what a module does not offer, or in an order, make the same
report and the same items; only the imports of the wrappers come in the order of the groups. -/
theorem rewriteExports_varies {m : Module} {p q : Preset} (faultless : p.fault? = none)
    (faultless' : q.fault? = none) (varies : Preset.Varies m p q) (routeId : String) :
    let r := (m.rewriteExports p routeId).2
    (m.rewriteExports q routeId).2 = r ∧
      ∃ rest,
        (m.rewriteExports p routeId).1 =
            { m with items := p.groups.flatMap (r.importFor p.naming) ++ rest } ∧
          (m.rewriteExports q routeId).1 =
            { m with items := q.groups.flatMap (r.importFor p.naming) ++ rest } ∧
          (p.groups.flatMap (r.importFor p.naming)).Perm
            (q.groups.flatMap (r.importFor p.naming)) := by
  intro r
  obtain ⟨naming, same⟩ := varies.relevant_eq
  have once := Preset.nodup_exports faultless
  have once' := Preset.nodup_exports faultless'
  obtain ⟨plans, alike⟩ := plans_alike (Preset.alike_of_relevant naming same once once')
  have report : (m.rewriteExports q routeId).2 = r := alike.report
  let images (p : Preset) : List Item := (m.plans p).1.flatMap
    (Plan.image (m.plans p).2.references (m.plans p).2.imports (.ofString routeId))
  have items (p : Preset) : (m.rewriteExports p routeId).1 =
      { m with items := wrapperImports p (m.plans p).2 ++ images p } := rfl
  have sameImages : images q = images p := by
    simp only [images, plans, Progress.references, Progress.imports, alike.moves]
  refine ⟨report, images p, ?_, ?_, perm_importFor same (fun n => offers_of_mem_names) p.naming⟩
  · rw [items p, wrapperImports_importFor once]
  · have imports : wrapperImports q (m.plans q).2 =
        q.groups.flatMap ((m.rewriteExports q routeId).2.importFor q.naming) :=
      wrapperImports_importFor once'
    rw [report, naming] at imports
    rw [items q, imports, sameImages]

/-- `export { loader, clientLoader } from "./x"` -/
def reExportingSides : Module :=
  .ofItems [exportNamed [("loader", "loader"), ("clientLoader", "clientLoader")] (some "./x")]

/-- The groups in the other order, with an export and a group more. -/
def rearranged : Preset :=
  { naming := .standard
    groups :=
      [⟨"client", "react-router-devtools/client", ["handle", "clientLoader", "clientAction"]⟩,
       ⟨"server", "react-router-devtools/server", Preset.serverExports⟩,
       ⟨"page", "./page", ["meta", "links"]⟩] }

theorem reExportingSides_rearranged :
    Preset.dataFunctions.fault? = none ∧ rearranged.fault? = none ∧
      Preset.Varies reExportingSides .dataFunctions rearranged ∧
      let r := (reExportingSides.rewriteExports .dataFunctions "r").2
      r.names = ["loader", "clientLoader"] ∧
        (reExportingSides.rewriteExports rearranged "r").2 = r ∧
        ∃ rest,
          (reExportingSides.rewriteExports .dataFunctions "r").1 =
              { reExportingSides with items :=
                  Preset.dataFunctions.groups.flatMap (r.importFor .standard) ++ rest } ∧
            (reExportingSides.rewriteExports rearranged "r").1 =
              { reExportingSides with items :=
                  rearranged.groups.flatMap (r.importFor .standard) ++ rest } ∧
            (Preset.dataFunctions.groups.flatMap (r.importFor .standard)).Perm
              (rearranged.groups.flatMap (r.importFor .standard)) := by
  have varies : Preset.Varies reExportingSides .dataFunctions rearranged := by
    -- The client's group comes first and takes in `handle`; then the page's comes in behind.
    refine .trans _ _ _ (.rel _ _ (.groups (List.Perm.swap _ _ _))) ?_
    refine .trans _ _ _ (.rel _ _ (.addExport (e := "handle") (by decide))) ?_
    refine .trans _ _ _ (.rel _ _ (.addGroup (g := ⟨"page", "./page", ["meta", "links"]⟩) ?_)) ?_
    · decide
    · exact .rel _ _ (.groups (by decide))
  obtain ⟨report, rest, first, second, permuted⟩ :=
    rewriteExports_varies (by decide) (by decide) varies "r"
  exact ⟨by decide, by decide, varies, by decide, report, rest, first, second, permuted⟩

end Module

end RouteWrap
