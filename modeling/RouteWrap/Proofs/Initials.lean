import RouteWrap.Proofs.Calls
import RouteWrap.Proofs.FreshRuns
import RouteWrap.Proofs.Outcomes

/-!
The constants of a rewritten module. What was wrapped is exported as a constant with the call for
its value, and every constant that was there is kept, its value renamed and wrapped if the preset
recognizes its name. So a second rewrite finds a constant wherever a first one wrapped something.
-/

namespace RouteWrap

/-! Names that are exported with a value -/

mutual

theorem Tree.patternNames_renameUnder (σ : Renaming) (hidden : List Binding) (t : Tree) :
    (t.renameUnder σ hidden).patternNames = t.patternNames := by
  cases t with
  | absent | ref | bind | label => rfl
  | node s f ps =>
      cases f with
      | pattern f =>
          change (node s (.pattern f) (renameListUnder σ _ ps)).patternNames = _
          cases f with
          | object | array | rest => exact patternNamesList_renameListUnder σ _ ps
          | property shorthand computed =>
              cases ps with
              | nil => rfl
              | cons key value => exact patternNamesList_renameListUnder σ _ value
          | defaulted =>
              cases ps with
              | nil => rfl
              | cons left right => exact patternNames_renameUnder σ _ left
          | annotated isOptional =>
              cases ps with
              | nil => rfl
              | cons p type => exact patternNames_renameUnder σ _ p
          | parameters | parameter | thisParameter => rfl
      | expression f =>
          rcases Form.reformed_cases (.expression f) ps
            (renameListUnder σ (Form.kept (.expression f) ps ++ hidden) ps) with
            same | ⟨_, _, _, -, written⟩
          · rw [renameUnder, same]
            rfl
          · rw [renameUnder, written]
            rfl
      | statement | link | classPart | type | jsx => rfl

theorem Tree.patternNamesList_renameListUnder (σ : Renaming) (hidden : List Binding)
    (ts : List Tree) :
    Tree.patternNamesList (Tree.renameListUnder σ hidden ts) = Tree.patternNamesList ts := by
  cases ts with
  | nil => rfl
  | cons t ts =>
      rw [renameListUnder, patternNamesList, patternNames_renameUnder,
        patternNamesList_renameListUnder]
      rfl

end

theorem Declaration.boundNames_rename (σ : Renaming) (d : Declaration) :
    (d.rename σ).boundNames = d.boundNames := by
  cases d with
  | «variable» d =>
      simp [rename, boundNames, VariableDecl.rename, Declarator.rename, List.flatMap_map,
        Tree.rename, Tree.patternNames_renameUnder]
  | _ => rfl

theorem VariableDecl.initial?_rename (σ : Renaming) (d : VariableDecl) :
    (d.rename σ).initial? = d.initial?.map fun c => (c.1, c.2.rename σ) := by
  obtain ⟨span, kind, declare, declarators⟩ := d
  match declare, declarators with
  | true, _ | false, [] | false, _ :: _ :: _ => rfl
  | false, [⟨span, definite, target, ascription, value⟩] =>
      cases target <;> cases value <;> rfl

namespace Item

/-- Names by which an item exports values that could be wrapped. A signature is none. -/
def exportedValues : Item → List String
  | exportDeclaration _ (.function d) => if d.body.isSome then (d.name.map Name.text).toList else []
  | exportDeclaration _ d => d.boundNames.map Name.text
  | exportList l => l.specifiers.map (·.exported.text)
  | exportAll e => (e.exported.map LinkName.text).toList
  | _ => []

theorem exportedValues_kept (σ τ : Renaming) (i : Item) :
    ((i.rename σ).renameImports τ).exportedValues = i.exportedValues := by
  cases i with
  | exportDeclaration s d =>
      have same := d.boundNames_rename σ
      cases d with
      | function d =>
          simp [rename, renameImports, Declaration.rename, FunctionDecl.rename, exportedValues]
      | _ => exact congrArg (List.map Name.text) same
  | exportList l =>
      cases request : l.request <;>
        simp [rename, renameImports, ExportList.rename, request, exportedValues, Function.comp_def]
  | _ => rfl

theorem mem_exportedValues_of_initial? {i : Item} {n : String} {value : Tree}
    (found : i.initial? = some (n, value)) : n ∈ i.exportedValues := by
  unfold initial? at found
  split at found
  · next span d =>
    obtain ⟨-, first, s, b, only, target, -⟩ := VariableDecl.initial?_eq_some.mp found
    simp [exportedValues, Declaration.boundNames, only, target, Tree.patternNames]
  · cases found

theorem initial?_kept (σ τ : Renaming) (i : Item) :
    ((i.rename σ).renameImports τ).initial? = i.initial?.map fun c => (c.1, c.2.rename σ) := by
  cases i with
  | exportDeclaration s d =>
      cases d with
      | «variable» d => exact d.initial?_rename σ
      | _ => rfl
  | _ => rfl

end Item

namespace Plan

variable {preset : Preset} {surface : Surface} {i : Item} {p : Plan}
  {entries : List SkippedExport} {σ τ : Renaming} {route : Points}

/-- An item exports what it exported, and an alias for each constant behind its list. -/
theorem For.exportedValues_image (fits : For preset surface i p) :
    ((p.image σ τ route).flatMap Item.exportedValues).Perm (p.aliases ++ i.exportedValues) := by
  cases fits with
  | keep i unlisted kept =>
      rw [image, List.flatMap_singleton, Item.exportedValues_kept]
      exact .refl _
  | @drop span d overload =>
      have bodiless : d.body = none := by
        simp only [Planning.isOverload, Bool.and_eq_true, Option.isNone_iff_eq_none] at overload
        exact overload.1.1
      simp [image, aliases, specifiers, Item.exportedValues, bodiless]
  | @initial span inner binder name d first value callee only target valued recognized =>
      simp [image, aliases, specifiers, Item.exportedValues, Declaration.boundNames, only, target,
        Declarator.rename, Tree.rename, Tree.renameUnder]
  | @function span d n callee named bodied real recognized =>
      simp [image, aliases, specifiers, Item.exportedValues, Declaration.boundNames, named, bodied,
        constDeclaration, Tree.patternNames]
  | @list l ps each =>
      -- What a list exports is all tallied as definite.
      have gained := ((For.list each).gains_exports σ τ route).definite
      have tallied (j : Item) (image : j ∈ (Plan.list l ps).image σ τ route) :
          j.exportedValues = j.exports.definite := by
        rw [Plan.image, List.append_assoc, List.mem_append, List.mem_append,
          List.mem_singleton] at image
        rcases image with requests | rfl | constant
        · obtain ⟨ss, path, rfl⟩ := requested_imports l ps j requests
          rfl
        · rfl
        · obtain ⟨q, -, constant⟩ := List.mem_flatMap.mp constant
          cases q with
          | keep => exact absurd constant List.not_mem_nil
          | reExport | moved | aliased =>
              rw [List.mem_singleton.mp constant, Item.reading_exports.exportConst]
              rfl
      rw [List.flatMap_congr tallied]
      exact gained

theorem initials_keep (i : Item) (σ τ : Renaming) (route : Points) :
    ((keep i).image σ τ route).filterMap Item.initial? =
      (i.initial?.map fun c => (c.1, c.2.rename σ)).toList := by
  rw [image, List.filterMap_eq_flatMap_toList, List.flatMap_singleton, Item.initial?_kept]

/-- Where an item is not kept, its block exports just what is wrapped as constants. -/
theorem For.initials_image (fits : For preset surface i p) (skips : p.Skips preset entries)
    (changed : p ≠ .keep i) (σ τ : Renaming) (route : Points) :
    (p.image σ τ route).filterMap Item.initial? =
      (p.wrappings preset σ).map fun w => (w.entry.name, w.call route) := by
  cases fits with
  | keep => exact absurd rfl changed
  | drop overload => rfl
  | @initial span inner binder name d first value callee only target valued recognized =>
      obtain ⟨real, -⟩ := skips
      simp [image, wrappings, target, Tree.patternNames, Item.initial?, VariableDecl.initial?,
        real, Declarator.rename, Tree.rename, Tree.renameUnder, Preset.entry, Wrapping.call]
  | function => rfl
  | @list l ps each =>
      have requests : (requested l ps).filterMap Item.initial? = [] := by
        refine List.filterMap_eq_nil_iff.mpr fun j requests => ?_
        obtain ⟨ss, path, rfl⟩ := requested_imports l ps j requests
        rfl
      have constants : (ps.flatMap (·.constant route)).filterMap Item.initial? =
          (ps.filterMap (SpecifierPlan.wrapping preset)).map
            fun w => (w.entry.name, w.call route) := by
        rw [List.filterMap_flatMap, List.map_filterMap, List.filterMap_eq_flatMap_toList]
        refine List.flatMap_congr fun q _ => ?_
        cases q <;> rfl
      rw [image, List.filterMap_append, List.filterMap_append, requests, constants]
      rfl

theorem For.names_sublist (fits : For preset surface i p) (σ : Renaming) :
    ((p.wrappings preset σ).map (·.entry.name)).Sublist i.exportedValues := by
  cases fits with
  | keep | drop => exact List.nil_sublist _
  | initial callee only target valued recognized =>
      simp [wrappings, target, Tree.patternNames, Item.exportedValues, Declaration.boundNames, only,
        Preset.entry]
  | function callee named bodied real recognized =>
      simp [wrappings, Item.exportedValues, named, bodied, Preset.entry]
  | @list l ps each =>
      obtain ⟨origins, -⟩ := SpecifierPlan.for_origins each
      rw [Item.exportedValues, ← origins, List.map_map, wrappings, List.map_filterMap,
        List.filterMap_eq_flatMap_toList, List.map_eq_flatMap]
      refine List.Sublist.flatMap_right _ fun q _ => ?_
      cases q with
      | keep => exact List.nil_sublist _
      | reExport | moved | aliased => exact List.Sublist.refl _

end Plan

/-- The name begins as the names do that a supply generates. -/
def isMarked (n : String) : Bool := n.toList.head? == some '_'

theorem isMarked_candidate (stem : String) (k : Nat) :
    isMarked (FreshNames.candidate stem k) = true := by
  obtain ⟨digits, text, -⟩ := FreshNames.toList_candidate stem k
  rw [isMarked, text]
  rfl

namespace Module

/-- The constants that a module exports, each with its value. -/
def initials (m : Module) : List (String × Tree) := m.items.filterMap Item.initial?

def exportedValues (m : Module) : List String := m.items.flatMap Item.exportedValues

/-- No name that a supply could not generate is exported twice. -/
def ExportsOnce (m : Module) : Prop := (m.exportedValues.filter (!isMarked ·)).Nodup

def rewrapped (m : Module) (preset : Preset) (routeId : String) (n : String) (value : Tree) :
    Tree :=
  if preset.recognizes n then
    wrapperCall (m.localOf preset n) (value.rename (m.references preset)) (.ofString routeId)
  else value.rename (m.references preset)

variable {m : Module} {preset : Preset} {routeId : String}

theorem exists_skips {p : Plan} (planned : p ∈ (m.plans preset).1) :
    ∃ entries, p.Skips preset entries := by
  obtain ⟨each, related, -⟩ := m.skips_plans preset ""
  obtain ⟨entries, -, skips⟩ := exists_of_forall₂_left related planned
  exact ⟨entries, skips⟩

theorem block_of_initial {p : Plan} (planned : p ∈ (m.plans preset).1) {n : String} {value : Tree}
    (found : p.origin.initial? = some (n, value)) :
    (m.block preset routeId p).2.filterMap Item.initial? =
        [(n, m.rewrapped preset routeId n value)] ∧
      (m.block preset routeId p).1 =
        if preset.recognizes n then
          [⟨preset.entry n .variableDeclaration (m.localOf preset n),
            value.rename (m.references preset)⟩]
        else [] := by
  obtain ⟨entries, skips⟩ := exists_skips planned
  have fits := m.for_of_mem_plans planned
  generalize p.origin = i at fits found
  have image (changed : p ≠ .keep i) :=
    fits.initials_image skips changed (m.references preset) (m.moves preset) (.ofString routeId)
  cases fits with
  | keep i =>
      have unrecognized : preset.recognizes n = false := skips.1 _ found
      rw [block, Plan.initials_keep, found, rewrapped, unrecognized]
      exact ⟨rfl, rfl⟩
  | drop | function | list => cases found
  | @initial span inner binder name d first v callee only target valued recognized =>
      obtain ⟨-, first', s, b, only', target', valued'⟩ := VariableDecl.initial?_eq_some.mp found
      obtain rfl : first = first' := List.singleton_inj.mp (only.symm.trans only')
      obtain ⟨-, -, rfl⟩ := Tree.bind.inj (target.symm.trans target')
      obtain rfl : v = value := Option.some.inj (valued.symm.trans valued')
      -- The plan's callee is what the module calls the wrapper of the name, as it is reported.
      have reported : preset.entry name .variableDeclaration callee ∈
          (m.rewriteExports preset routeId).2.wrapped :=
        reported_of_planned planned (by simp [Plan.entries, target, Tree.patternNames])
      obtain rfl : callee = m.localOf preset name :=
        congrArg WrappedExport.wrapperLocal (entry_of_mem_wrapped reported)
      rw [block, image (by simp), Plan.wrappings_initial target, rewrapped, if_pos recognized,
        if_pos recognized]
      exact ⟨rfl, rfl⟩

theorem block_of_none {p : Plan} (planned : p ∈ (m.plans preset).1)
    (unvalued : p.origin.initial? = none) :
    (m.block preset routeId p).2.filterMap Item.initial? =
      (m.block preset routeId p).1.map fun w => (w.entry.name, w.call (.ofString routeId)) := by
  obtain ⟨entries, skips⟩ := exists_skips planned
  by_cases kept : p = .keep p.origin
  · rw [kept, block, Plan.initials_keep, unvalued]
    rfl
  · exact (m.for_of_mem_plans planned).initials_image skips kept _ _ _

variable (m preset) in
theorem initials_eq :
    m.initials = (m.plans preset).1.flatMap fun p => p.origin.initial?.toList := by
  rw [initials, ← m.origins_plans preset, List.filterMap_map, List.filterMap_eq_flatMap_toList]
  rfl

variable (m preset routeId) in
theorem initials_rewriteExports :
    (m.rewriteExports preset routeId).1.initials =
      (m.plans preset).1.flatMap fun p =>
        (m.block preset routeId p).2.filterMap Item.initial? := by
  simp only [initials, List.filterMap_eq_flatMap_toList]
  exact m.flatMap_rewriteExports preset routeId fun _ _ => rfl

variable (m preset routeId) in
theorem names_wrapped :
    (m.rewriteExports preset routeId).2.wrapped.map (·.name) =
      (m.plans preset).1.flatMap fun p =>
        (m.block preset routeId p).1.map (·.entry.name) := by
  rw [wrapped_rewriteExports, blocks, List.flatMap_map, List.map_map, List.map_flatMap]
  rfl

variable (preset routeId) in
theorem mem_initials_rewriteExports {n : String} {value : Tree} (listed : (n, value) ∈ m.initials) :
    (n, m.rewrapped preset routeId n value) ∈ (m.rewriteExports preset routeId).1.initials ∧
      (preset.recognizes n →
        preset.entry n .variableDeclaration (m.localOf preset n) ∈
          (m.rewriteExports preset routeId).2.wrapped) := by
  rw [m.initials_eq preset] at listed
  obtain ⟨p, planned, found⟩ := List.mem_flatMap.mp listed
  obtain ⟨initials, wraps⟩ := block_of_initial planned (Option.mem_toList.mp found)
  refine ⟨?_, fun recognized => ?_⟩
  · rw [initials_rewriteExports]
    exact List.mem_flatMap.mpr ⟨p, planned, by rw [initials]; exact List.mem_singleton_self _⟩
  · rw [if_pos recognized] at wraps
    rw [wrapped_rewriteExports, blocks, List.flatMap_map, List.map_flatMap]
    refine List.mem_flatMap.mpr ⟨p, planned, ?_⟩
    rw [wraps]
    exact List.mem_singleton_self _

theorem call_mem_initials {w : Wrapping}
    (wraps : w ∈ (m.blocks preset routeId).flatMap Prod.fst) :
    (w.entry.name, w.call (.ofString routeId)) ∈
      (m.rewriteExports preset routeId).1.initials := by
  rw [blocks, List.flatMap_map] at wraps
  obtain ⟨p, planned, wraps⟩ := List.mem_flatMap.mp wraps
  rw [initials_rewriteExports]
  refine List.mem_flatMap.mpr ⟨p, planned, ?_⟩
  cases found : p.origin.initial? with
  | none =>
      rw [block_of_none planned found]
      exact List.mem_map_of_mem wraps
  | some c =>
      obtain ⟨n, value⟩ := c
      obtain ⟨initials, wrapped⟩ := block_of_initial planned found
      rw [wrapped] at wraps
      split at wraps
      · next recognized =>
        rw [List.mem_singleton.mp wraps, initials, rewrapped, if_pos recognized]
        exact List.mem_singleton_self _
      · exact absurd wraps List.not_mem_nil

variable (m preset routeId) in
/-- Constants keep their order, and what is wrapped takes its place among them. -/
theorem sublist_initials :
    (m.initials.map Prod.fst).Sublist
        ((m.rewriteExports preset routeId).1.initials.map Prod.fst) ∧
      ((m.rewriteExports preset routeId).2.wrapped.map (·.name)).Sublist
        ((m.rewriteExports preset routeId).1.initials.map Prod.fst) := by
  rw [names_wrapped, initials_rewriteExports, m.initials_eq preset, List.map_flatMap,
    List.map_flatMap]
  constructor
  · refine List.Sublist.flatMap_right _ fun p planned => ?_
    cases found : p.origin.initial? with
    | none => exact List.nil_sublist _
    | some c =>
        rw [(block_of_initial planned found).1]
        exact List.Sublist.refl _
  · refine List.Sublist.flatMap_right _ fun p planned => ?_
    cases found : p.origin.initial? with
    | none =>
        rw [block_of_none planned found, List.map_map]
        exact List.Sublist.refl _
    | some c =>
        obtain ⟨initials, wrapped⟩ := block_of_initial planned found
        rw [initials, wrapped]
        split
        · exact List.Sublist.refl _
        · exact List.nil_sublist _

/-! What is exported once -/

theorem ExportsOnce.item_unique (once : m.ExportsOnce) {n : String} (unmarked : isMarked n = false)
    {i j : Item} (listedI : i ∈ m.items) (listedJ : j ∈ m.items) (exportsI : n ∈ i.exportedValues)
    (exportsJ : n ∈ j.exportedValues) : i = j := by
  have count := List.nodup_iff_count_le_one.mp once n
  rw [List.count_filter (by simp [unmarked])] at count
  exact eq_of_count_flatMap_le_one count listedI listedJ exportsI exportsJ

theorem ExportsOnce.nodup_initials (once : m.ExportsOnce) :
    ((m.initials.map Prod.fst).filter (!isMarked ·)).Nodup := by
  have exported : (m.initials.map Prod.fst).Sublist m.exportedValues := by
    rw [initials, exportedValues, List.filterMap_eq_flatMap_toList, List.map_flatMap]
    refine List.Sublist.flatMap_right _ fun i _ => ?_
    cases found : i.initial? with
    | none => exact List.nil_sublist _
    | some c => exact List.singleton_sublist.mpr (Item.mem_exportedValues_of_initial? found)
  exact once.sublist (exported.filter _)

theorem ExportsOnce.initial_unique (once : m.ExportsOnce) {n : String}
    (unmarked : isMarked n = false) {value value' : Tree} (listed : (n, value) ∈ m.initials)
    (listed' : (n, value') ∈ m.initials) : value = value' := by
  obtain ⟨i, listedI, found⟩ := List.mem_filterMap.mp listed
  obtain ⟨j, listedJ, found'⟩ := List.mem_filterMap.mp listed'
  have same := once.item_unique unmarked listedI listedJ (Item.mem_exportedValues_of_initial? found)
    (Item.mem_exportedValues_of_initial? found')
  rw [same, found'] at found
  exact (Prod.mk.inj (Option.some.inj found)).2.symm

variable (m preset routeId) in
theorem exportedValues_rewriteExports :
    (m.rewriteExports preset routeId).1.exportedValues.Perm
      (m.aliases preset ++ m.exportedValues) := by
  have origins : m.exportedValues =
      (m.plans preset).1.flatMap fun p => p.origin.exportedValues := by
    rw [exportedValues, ← m.origins_plans preset, List.flatMap_map]
  rw [exportedValues, m.flatMap_rewriteExports preset routeId fun _ _ => rfl, origins]
  refine (List.Perm.flatMap_left _ fun p planned => ?_).trans
    (List.flatMap_append_perm _ _ _).symm
  exact (m.for_of_mem_plans planned).exportedValues_image

theorem isMarked_of_mem_aliases {a : String} (given : a ∈ m.aliases preset) :
    isMarked a = true := by
  obtain ⟨e, -, k, rfl⟩ := exists_of_forall₂_right (m.aliases_candidates preset "") given
  exact isMarked_candidate _ k

/-- Aliases are marked, so a rewrite repeats no other export. -/
theorem ExportsOnce.rewriteExports (once : m.ExportsOnce) (preset : Preset) (routeId : String) :
    (m.rewriteExports preset routeId).1.ExportsOnce := by
  have marked : (m.aliases preset).filter (!isMarked ·) = [] := by
    refine List.filter_eq_nil_iff.mpr fun a given => ?_
    simp [isMarked_of_mem_aliases given]
  have same := (m.exportedValues_rewriteExports preset routeId).filter (!isMarked ·)
  rw [List.filter_append, marked, List.nil_append] at same
  exact same.nodup_iff.mpr once

theorem recognizes_of_mem_wrapped {n : String}
    (wrapped : n ∈ (m.rewriteExports preset routeId).2.wrapped.map (·.name)) :
    preset.recognizes n := by
  obtain ⟨e, reported, rfl⟩ := List.mem_map.mp wrapped
  obtain ⟨i, -, grouped⟩ := mem_wrappers_of_mem_names (mem_names_of_mem_wrapped reported)
  exact Preset.recognizes_of_groupIndex grouped

variable (given : ∀ n, preset.recognizes n → isMarked n = false)

include given

theorem ExportsOnce.nodup_wrapped (once : m.ExportsOnce) :
    ((m.rewriteExports preset routeId).2.wrapped.map (·.name)).Nodup := by
  have unmarked : ((m.rewriteExports preset routeId).2.wrapped.map (·.name)).filter
      (!isMarked ·) = (m.rewriteExports preset routeId).2.wrapped.map (·.name) := by
    refine List.filter_eq_self.mpr fun n wrapped => ?_
    rw [given n (recognizes_of_mem_wrapped wrapped)]
    rfl
  have exported : ((m.rewriteExports preset routeId).2.wrapped.map (·.name)).Sublist
      m.exportedValues := by
    rw [names_wrapped, exportedValues, ← m.origins_plans preset, List.flatMap_map]
    refine List.Sublist.flatMap_right _ fun p planned => ?_
    exact (m.for_of_mem_plans planned).names_sublist _
  rw [← unmarked]
  exact once.sublist (exported.filter _)

/-- Of the constants, a rewrite wraps those that the preset recognizes, in order. -/
theorem ExportsOnce.filter_wrapped (once : m.ExportsOnce) :
    ((m.rewriteExports preset routeId).2.wrapped.map (·.name)).filter
        (· ∈ m.initials.map Prod.fst) =
      (m.initials.map Prod.fst).filter preset.recognizes := by
  have constants : (m.initials.map Prod.fst).filter preset.recognizes =
      (m.plans preset).1.flatMap fun p =>
        (p.origin.initial?.toList.map Prod.fst).filter preset.recognizes := by
    rw [m.initials_eq preset, List.map_flatMap, List.filter_flatMap]
  rw [constants, names_wrapped, List.filter_flatMap]
  refine List.flatMap_congr fun p planned => ?_
  cases found : p.origin.initial? with
  | some c =>
      obtain ⟨n, value⟩ := c
      have constant : n ∈ m.initials.map Prod.fst :=
        List.mem_map.mpr ⟨_, List.mem_filterMap.mpr ⟨_, origin_mem_items planned, found⟩, rfl⟩
      rw [(block_of_initial planned found).2]
      split
      · next recognized => simpa [Preset.entry, recognized] using constant
      · next unrecognized => simp [unrecognized]
  | none =>
      -- Whatever this item wraps, no other item exports, so it is no constant of the module.
      refine List.filter_eq_nil_iff.mpr fun n wrapped constant => ?_
      obtain ⟨c, exported, rfl⟩ := List.mem_map.mp (of_decide_eq_true constant)
      obtain ⟨i, listedI, foundI⟩ := List.mem_filterMap.mp exported
      have reported : c.1 ∈ (m.rewriteExports preset routeId).2.wrapped.map (·.name) := by
        rw [names_wrapped]
        exact List.mem_flatMap.mpr ⟨p, planned, wrapped⟩
      have same : p.origin = i :=
        once.item_unique (given _ (recognizes_of_mem_wrapped reported))
          (origin_mem_items planned) listedI
          ((m.for_of_mem_plans planned).names_sublist _ |>.subset wrapped)
          (Item.mem_exportedValues_of_initial? foundI)
      rw [same, foundI] at found
      cases found

end Module

end RouteWrap
