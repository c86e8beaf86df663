import RouteWrap.Proofs.Frame

/-!
The imports of the wrappers. There is one for each group of the preset that wrapped something, in
the order of the preset, and it binds one wrapper for each name that the group lists and the report
holds, in the order of the report. The inserted calls call just these wrappers.
-/

namespace RouteWrap

theorem nodup_eraseDups [BEq α] [LawfulBEq α] (as : List α) : as.eraseDups.Nodup := by
  match as with
  | [] => simp
  | a :: as =>
      have := as.length_filter_le fun b => !b == a
      rw [List.eraseDups_cons, List.nodup_cons]
      exact ⟨by simp, nodup_eraseDups _⟩
termination_by as.length

theorem flatMap_of_cases {f : α → List β} {g : α → β} {p : α → Bool}
    (some : ∀ a, p a → f a = [g a]) (none : ∀ a, p a = false → f a = []) (as : List α) :
    as.flatMap f = (as.filter p).map g := by
  induction as with
  | nil => rfl
  | cons a as ih =>
      cases holds : p a with
      | true => simp [holds, some a holds, ih]
      | false => simp [holds, none a holds, ih]

namespace Report

/-- Names of the wrapped exports, each once, in the order of the report. -/
def names (r : Report) : List String := (r.wrapped.map (·.name)).eraseDups

/-- The names among them that belong to a group. -/
def namesOf (r : Report) (preset : Preset) (group : Nat) : List String :=
  r.names.filter fun n => preset.groupIndex n == some group

end Report

namespace Plan

variable {preset : Preset}

theorem entry_of_mem_entries {p : Plan} {e : WrappedExport} (reported : e ∈ p.entries preset) :
    e = preset.entry e.name e.shape e.wrapperLocal := by
  cases p with
  | keep | drop => exact absurd reported List.not_mem_nil
  | initial span d first value callee =>
      obtain ⟨n, -, rfl⟩ := List.mem_map.mp reported
      rfl
  | function span d name callee =>
      rw [List.mem_singleton.mp reported]
      rfl
  | list l ps =>
      obtain ⟨q, -, reported⟩ := List.mem_flatMap.mp reported
      cases q with
      | keep => exact absurd reported List.not_mem_nil
      | reExport | moved | aliased =>
          rw [List.mem_singleton.mp reported]
          rfl

end Plan

namespace Module

variable (m : Module) (preset : Preset) (routeId : String)

/-- What the wrapper of an export is called in the rewritten module. -/
def localOf (n : String) : String :=
  (((m.plans preset).2.wrappers.find? fun w => w.1.2 == n).map (·.2)).getD ""

theorem names_rewriteExports :
    (m.rewriteExports preset routeId).2.names =
      (m.plans preset).2.wrappers.map (·.1.2) := by
  rw [(m.accounts_plans preset).2.bound]
  change (List.map _ (m.plans preset).2.report.wrapped).eraseDups = _
  rw [(m.accounts_plans preset).2.entries]

variable {m preset} in
theorem localOf_eq {w : (Nat × String) × String} (bound : w ∈ (m.plans preset).2.wrappers) :
    m.localOf preset w.1.2 = w.2 := by
  have once : ((m.plans preset).2.wrappers.map (·.1.2)).Nodup := by
    rw [← m.names_rewriteExports preset ""]
    exact nodup_eraseDups _
  cases found : (m.plans preset).2.wrappers.find? (fun w' => w'.1.2 == w.1.2) with
  | none => exact absurd (List.find?_eq_none.mp found w bound) (by simp)
  | some w' =>
      have listed := List.mem_of_find?_eq_some found
      have same : w'.1.2 = w.1.2 := by simpa using List.find?_some found
      rw [localOf, found, List.inj_on_of_nodup_map once listed bound same]
      rfl

theorem map_localOf_names :
    (m.rewriteExports preset routeId).2.names.map (m.localOf preset) =
      (m.plans preset).2.wrappers.map (·.2) := by
  rw [names_rewriteExports, List.map_map]
  exact List.map_congr_left fun w bound => localOf_eq bound

theorem ofGroup_plans (group : Nat) :
    (m.plans preset).2.ofGroup group =
      ((m.rewriteExports preset routeId).2.namesOf preset group).map
        fun n => (n, m.localOf preset n) := by
  have grouped (w : (Nat × String) × String) (bound : w ∈ (m.plans preset).2.wrappers) :
      (w.1.1 == group) = (preset.groupIndex w.1.2 == some group) := by
    rw [(m.accounts_plans preset).2.grouped w bound]
    rfl
  rw [Progress.ofGroup_eq, Report.namesOf, names_rewriteExports, List.filter_map, List.map_map,
    List.filter_congr grouped]
  refine List.map_congr_left fun w bound => ?_
  exact congrArg (Prod.mk w.1.2) (localOf_eq (List.mem_filter.mp bound).1).symm

theorem wrapperImports_eq :
    wrapperImports preset (m.plans preset).2 =
      (preset.groups.zipIdx.filter fun g =>
        !((m.rewriteExports preset routeId).2.namesOf preset g.2).isEmpty).map fun g =>
          importNamed
            (((m.rewriteExports preset routeId).2.namesOf preset g.2).map fun n =>
              (.name .none (preset.wrapperName n), m.localOf preset n))
            (.ofString g.1.runtimePath) := by
  refine flatMap_of_cases (fun g used => ?_) (fun g unused => ?_) _
  · rw [wrapperImport, m.ofGroup_plans preset routeId]
    cases names : (m.rewriteExports preset routeId).2.namesOf preset g.2 with
    | nil => simp [names] at used
    | cons n ns => simp [Function.comp_def]
  · rw [wrapperImport, m.ofGroup_plans preset routeId]
    rw [Bool.not_eq_false', List.isEmpty_iff] at unused
    rw [unused]
    rfl

theorem nodup_localOf :
    ((m.rewriteExports preset routeId).2.names.map (m.localOf preset)).Nodup := by
  rw [map_localOf_names]
  exact (List.nodup_append'.mp (m.accounts_plans preset).2.supplied.distinct).2.1

variable {m preset routeId} {n : String} {e : WrappedExport}

theorem mem_wrappers_of_mem_names (wrapped : n ∈ (m.rewriteExports preset routeId).2.names) :
    ∃ group, ((group, n), m.localOf preset n) ∈ (m.plans preset).2.wrappers ∧
      preset.groupIndex n = some group := by
  rw [names_rewriteExports] at wrapped
  obtain ⟨w, bound, rfl⟩ := List.mem_map.mp wrapped
  rw [localOf_eq bound]
  exact ⟨w.1.1, bound, (m.accounts_plans preset).2.grouped w bound⟩

theorem localOf_notMem_names (wrapped : n ∈ (m.rewriteExports preset routeId).2.names) :
    m.localOf preset n ∉ m.names := by
  obtain ⟨group, bound, -⟩ := mem_wrappers_of_mem_names wrapped
  refine (m.accounts_plans preset).2.supplied.apart _ (List.mem_append_right _ ?_)
  exact List.mem_map_of_mem (f := (·.2)) bound

theorem calls_localOf (wrapped : n ∈ (m.rewriteExports preset routeId).2.names) :
    preset.Calls
      (m.aliases preset ++ (m.rewriteExports preset routeId).2.names.map (m.localOf preset)
        ++ m.names) n (m.localOf preset n) := by
  obtain ⟨group, bound, -⟩ := mem_wrappers_of_mem_names wrapped
  rw [map_localOf_names]
  exact (m.accounts_plans preset).2.claimed _ bound

theorem entry_of_mem_wrapped (reported : e ∈ (m.rewriteExports preset routeId).2.wrapped) :
    e = preset.entry e.name e.shape (m.localOf preset e.name) := by
  change e ∈ (m.plans preset).2.report.wrapped at reported
  rw [(m.accounts_plans preset).2.entries] at reported
  obtain ⟨group, bound⟩ := (m.accounts_plans preset).2.called e reported
  obtain ⟨p, -, reported⟩ := List.mem_flatMap.mp reported
  rw [localOf_eq bound]
  exact Plan.entry_of_mem_entries reported

theorem mem_names_of_mem_wrapped (reported : e ∈ (m.rewriteExports preset routeId).2.wrapped) :
    e.name ∈ (m.rewriteExports preset routeId).2.names :=
  List.mem_eraseDups.mpr (List.mem_map_of_mem reported)

/-- An entry reports the wrapper and the group that the imports are made of. -/
theorem group_of_mem_wrapped (reported : e ∈ (m.rewriteExports preset routeId).2.wrapped) :
    ∃ g i, (g, i) ∈ preset.groups.zipIdx ∧ e.name ∈ g.exports ∧
      e.name ∈ (m.rewriteExports preset routeId).2.namesOf preset i ∧
      e = { e with
        wrapper := preset.wrapperName e.name, wrapperLocal := m.localOf preset e.name
        group := g.name, runtimePath := g.runtimePath } := by
  have wrapped := mem_names_of_mem_wrapped reported
  obtain ⟨i, -, grouped⟩ := mem_wrappers_of_mem_names wrapped
  obtain ⟨bounded, lists, -⟩ := List.findIdx?_eq_some_iff_getElem.mp grouped
  refine ⟨preset.groups[i], i, ?_, List.contains_iff_mem.mp lists, ?_, ?_⟩
  · rw [List.mem_zipIdx_iff_getElem?]
    exact List.getElem?_eq_getElem bounded
  · exact List.mem_filter.mpr ⟨wrapped, by simp [grouped]⟩
  · have entry := entry_of_mem_wrapped reported
    simp only [Preset.entry, grouped, Option.bind_some, List.getElem?_eq_getElem bounded,
      Option.getD_some] at entry
    exact entry

variable (m preset) in
/-- Neither the module, nor an alias, nor the wrapper of another export than `n` has the name. -/
def FreeFor (r : Report) (n name : String) : Prop :=
  name ∉ m.names ∧ name ∉ m.aliases preset ∧ ∀ k ∈ r.names, m.localOf preset k = name → k = n

theorem localOf_eq_wrapperName_iff (wrapped : n ∈ (m.rewriteExports preset routeId).2.names) :
    m.localOf preset n = preset.wrapperName n ↔
      m.FreeFor preset (m.rewriteExports preset routeId).2 n (preset.wrapperName n) := by
  constructor
  · intro same
    rw [← same]
    refine ⟨localOf_notMem_names wrapped, fun given => ?_, fun k wrappedK shared => ?_⟩
    · obtain ⟨group, bound, -⟩ := mem_wrappers_of_mem_names wrapped
      have distinct := (m.accounts_plans preset).2.supplied.distinct
      exact (List.nodup_append'.mp distinct).2.2 given (List.mem_map_of_mem (f := (·.2)) bound)
    · exact List.inj_on_of_nodup_map (m.nodup_localOf preset routeId) wrappedK wrapped shared
  · rintro ⟨unused, ungiven, alone⟩
    rcases calls_localOf wrapped with same | ⟨taken, -⟩
    · exact same
    · simp only [List.mem_append, ungiven, unused, false_or, or_false] at taken
      obtain ⟨k, wrappedK, shared⟩ := List.mem_map.mp taken
      rw [← alone k wrappedK shared]
      exact shared.trans (congrArg _ (alone k wrappedK shared).symm)

variable (m preset routeId)

/-- The imports of the wrappers serve the inserted calls: each call has the wrapper of its export
for a callee, and the export and the route for its two arguments, and nothing is imported beside
the wrappers so called. -/
theorem wrapperImports_serve_calls :
    ∃ blocks,
      (m.rewriteExports preset routeId).1.items =
          ((preset.groups.zipIdx.filter fun g =>
            !((m.rewriteExports preset routeId).2.namesOf preset g.2).isEmpty).map fun g =>
              importNamed
                (((m.rewriteExports preset routeId).2.namesOf preset g.2).map fun n =>
                  (.name .none (preset.wrapperName n), m.localOf preset n))
                (.ofString g.1.runtimePath)) ++
            blocks.flatMap Prod.snd ∧
        List.Forall₂ (m.Rebuilds preset routeId) m.items blocks ∧
        (m.rewriteExports preset routeId).2.wrapped =
          (blocks.flatMap Prod.fst).map Wrapping.entry ∧
        ((m.rewriteExports preset routeId).2.names.map (m.localOf preset)).Nodup ∧
        (∀ n ∈ (m.rewriteExports preset routeId).2.names,
          (∃ w ∈ blocks.flatMap Prod.fst, w.entry.name = n) ∧
            m.localOf preset n ∉ m.names ∧
            (m.localOf preset n = preset.wrapperName n ↔
              m.FreeFor preset (m.rewriteExports preset routeId).2 n (preset.wrapperName n)) ∧
            (m.localOf preset n ≠ preset.wrapperName n →
              ∃ k, m.localOf preset n =
                FreshNames.candidate (FreshNames.stem (preset.wrapperName n)) k)) ∧
        ∀ w ∈ blocks.flatMap Prod.fst,
          w.call (.ofString routeId) =
              .expr .none (.call false false)
                [.ref .none .value (m.localOf preset w.entry.name), .absent, w.target,
                  .expr .none (.string (.ofString routeId)) []] ∧
            ∃ g i, (g, i) ∈ preset.groups.zipIdx ∧ w.entry.name ∈ g.exports ∧
              w.entry.name ∈ (m.rewriteExports preset routeId).2.namesOf preset i ∧
              w.entry = { w.entry with
                wrapper := preset.wrapperName w.entry.name
                wrapperLocal := m.localOf preset w.entry.name
                group := g.name, runtimePath := g.runtimePath } := by
  have entries := m.wrapped_rewriteExports preset routeId
  refine ⟨m.blocks preset routeId, ?_, m.rebuilds_blocks preset routeId, entries,
    m.nodup_localOf preset routeId, fun n wrapped => ⟨?_, localOf_notMem_names wrapped,
      localOf_eq_wrapperName_iff wrapped, fun other => ?_⟩, fun w inserted => ?_⟩
  · rw [items_rewriteExports, wrapperImports_eq m preset routeId]
  · rw [Report.names, List.mem_eraseDups, entries, List.map_map] at wrapped
    exact List.mem_map.mp wrapped
  · rcases calls_localOf wrapped with same | ⟨-, numbered⟩
    · exact absurd same other
    · exact numbered
  · have reported : w.entry ∈ (m.rewriteExports preset routeId).2.wrapped := by
      rw [entries]
      exact List.mem_map_of_mem inserted
    obtain ⟨g, i, listed, lists, wrapped, entry⟩ := group_of_mem_wrapped reported
    refine ⟨?_, g, i, listed, lists, wrapped, entry⟩
    rw [Wrapping.call, wrapperCall, entry]

end Module

end RouteWrap
