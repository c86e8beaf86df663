import RouteWrap.Proofs.EvaluationOrder

/-!
Calls by name. A tree that uses none of the names holds no call to them, and renaming brings in no
call but to the new names. So the only calls to the wrappers in a rewritten module are the inserted
ones, and they stand in the order in which their exports are reported.
-/

namespace RouteWrap

namespace Tree

/-- The name that is called, where a name is. -/
def callee? : Tree → Option String
  | .expr _ (.call ..) (.ref _ _ n :: _) => some n
  | _ => none

mutual

/-- The calls in a tree that call one of the names, in the order of the text. -/
def callsTo (names : List String) : Tree → List Tree
  | .node s f ps =>
      (if (node s f ps).callee?.any names.contains then [node s f ps] else [])
        ++ callsToList names ps
  | _ => []

def callsToList (names : List String) : List Tree → List Tree
  | [] => []
  | t :: ts => t.callsTo names ++ callsToList names ts

end

theorem mem_names_of_callee? {t : Tree} {n : String} (called : t.callee? = some n) :
    n ∈ t.names := by
  unfold callee? at called
  split at called
  · obtain rfl := Option.some.inj called
    exact List.mem_append_left _ (List.mem_singleton_self _)
  · cases called

variable {names : List String}

theorem callsToList_eq_flatMap (ts : List Tree) :
    callsToList names ts = ts.flatMap (callsTo names) := by
  induction ts with
  | nil => rfl
  | cons t ts ih => rw [callsToList, ih, List.flatMap_cons]

theorem callsTo_node {s : Span} {f : Form} {ps : List Tree}
    (uncalled : (node s f ps).callee? = none) :
    (node s f ps).callsTo names = ps.flatMap (callsTo names) := by
  rw [callsTo, uncalled, callsToList_eq_flatMap]
  rfl

mutual

theorem callsTo_eq_nil {t : Tree} (apart : ∀ n ∈ t.names, n ∉ names) : t.callsTo names = [] := by
  cases t with
  | absent | ref | bind | label => rfl
  | node s f ps =>
      rw [callsTo, callsToList_eq_nil apart, List.append_nil, if_neg]
      intro called
      obtain ⟨n, calls, listed⟩ := (Option.any_eq_true ..).mp called
      exact apart n (mem_names_of_callee? calls) (List.contains_iff_mem.mp listed)

theorem callsToList_eq_nil {ts : List Tree} (apart : ∀ n ∈ Tree.namesList ts, n ∉ names) :
    callsToList names ts = [] := by
  cases ts with
  | nil => rfl
  | cons t ts =>
      rw [callsToList, callsTo_eq_nil fun n named => apart n (List.mem_append_left _ named),
        callsToList_eq_nil fun n named => apart n (List.mem_append_right _ named)]
      rfl

end

theorem callsTo_wrapperCall {callee : String} {target : Tree} {route : Points}
    (called : callee ∈ names) (apart : target.callsTo names = []) :
    (wrapperCall callee target route).callsTo names = [wrapperCall callee target route] := by
  simp [wrapperCall, callsTo, callsToList, callee?, called, apart]

theorem callee?_renameUnder {σ : Renaming} {hidden : List Binding} {t : Tree} {n : String}
    (called : (t.renameUnder σ hidden).callee? = some n) :
    t.callee? = some n ∨ n ∈ σ.map Prod.snd := by
  cases t with
  | absent | ref | bind | label => cases called
  | node s f ps =>
      rw [renameUnder] at called
      unfold callee? at called
      split at called
      · next inner optional pure s' u k later same =>
        obtain ⟨rfl, form, parts⟩ := Tree.node.inj same
        obtain rfl := Option.some.inj called
        obtain rfl : f = .expression (.call optional pure) := by
          rcases f.reformed_cases ps _ with kept | ⟨_, _, _, -, written⟩
          · exact kept.symm.trans form
          · cases written.symm.trans form
        cases ps with
        | nil => cases parts
        | cons first rest =>
            cases first with
            | ref s u m =>
                obtain ⟨-, -, rfl⟩ := Tree.ref.inj (List.cons.inj parts).1
                split
                · exact .inl rfl
                · by_cases moved : m ∈ σ.map Prod.fst
                  · exact .inr (List.mem_map_of_mem (Renaming.apply_mem moved))
                  · exact .inl (by rw [Renaming.apply_of_notMem moved]; rfl)
            | absent | bind | label | node => cases (List.cons.inj parts).1
      · cases called

mutual

/-- Renaming inserts no call to the names, where it renames nothing to them. -/
theorem callsTo_renameUnder {σ : Renaming} (unmoved : ∀ a ∈ σ.map Prod.snd, a ∉ names)
    {hidden : List Binding} {t : Tree} (uncalled : t.callsTo names = []) :
    (t.renameUnder σ hidden).callsTo names = [] := by
  cases t with
  | absent | ref | bind | label => rfl
  | node s f ps =>
      rw [callsTo, List.append_eq_nil_iff, ite_eq_right_iff] at uncalled
      have callee (n : String)
          (called : ((node s f ps).renameUnder σ hidden).callee? = some n) : n ∉ names := by
        rcases callee?_renameUnder called with before | new
        · intro listed
          have found : (node s f ps).callee?.any names.contains := by
            rw [before, Option.any_some, List.contains_iff_mem]
            exact listed
          cases uncalled.1 found
        · exact unmoved n new
      rw [renameUnder] at callee ⊢
      rw [callsTo, callsToList_renameListUnder unmoved uncalled.2, List.append_nil, if_neg]
      intro called
      obtain ⟨n, calls, listed⟩ := (Option.any_eq_true ..).mp called
      exact callee n calls (List.contains_iff_mem.mp listed)

theorem callsToList_renameListUnder {σ : Renaming}
    (unmoved : ∀ a ∈ σ.map Prod.snd, a ∉ names) {hidden : List Binding} {ts : List Tree}
    (uncalled : callsToList names ts = []) :
    callsToList names (renameListUnder σ hidden ts) = [] := by
  cases ts with
  | nil => rfl
  | cons t ts =>
      rw [callsToList, List.append_eq_nil_iff] at uncalled
      rw [renameListUnder, callsToList, callsTo_renameUnder unmoved uncalled.1,
        callsToList_renameListUnder unmoved uncalled.2]
      rfl

end

theorem callsTo_rename {σ : Renaming} {t : Tree} (uncalled : t.callsTo names = [])
    (unmoved : ∀ a ∈ σ.map Prod.snd, a ∉ names) : (t.rename σ).callsTo names = [] :=
  callsTo_renameUnder unmoved uncalled

end Tree

/-! Items -/

section Items

variable {names : List String}

theorem LinkName.callsTo_toTree (n : LinkName) : n.toTree.callsTo names = [] := by
  cases n <;> rfl

theorem ImportSpecifier.callsTo_toTree (typeOnly : Bool) (s : ImportSpecifier) :
    (s.toTree typeOnly).callsTo names = [] := by
  obtain ⟨span, typed, imported, localName⟩ := s
  cases imported with
  | name n => cases n <;> rfl
  | default => rfl
  | «namespace» => rfl

theorem ImportDecl.callsTo_toTree (d : ImportDecl) :
    d.toTree.callsTo names = d.request.attributes.callsTo names := by
  have specifiers : ((d.specifiers.getD []).map (·.toTree d.typeOnly)).flatMap
      (Tree.callsTo names) = [] := by
    rw [List.flatMap_map]
    exact List.flatMap_eq_nil_iff.mpr fun s _ => s.callsTo_toTree d.typeOnly
  rw [toTree, Tree.callsTo_node rfl, List.flatMap_append, specifiers, List.append_nil]
  exact List.append_nil _

theorem ExportSpecifier.callsTo_toTree (typeOnly isLocal : Bool) (s : ExportSpecifier) :
    (s.toTree typeOnly isLocal).callsTo names = [] := by
  obtain ⟨span, typed, localName, exported⟩ := s
  cases isLocal <;> cases localName <;> cases exported <;> rfl

theorem ExportList.callsTo_toTree (l : ExportList) :
    l.toTree.callsTo names = l.request.toList.flatMap (·.attributes.callsTo names) := by
  have specifiers : (l.specifiers.map (·.toTree l.typeOnly l.request.isNone)).flatMap
      (Tree.callsTo names) = [] := by
    rw [List.flatMap_map]
    exact List.flatMap_eq_nil_iff.mpr fun s _ => s.callsTo_toTree l.typeOnly l.request.isNone
  rw [toTree, Tree.callsTo_node rfl, List.flatMap_append, specifiers, List.append_nil]
  cases l.request with
  | none => rfl
  | some r => rfl

theorem Item.callsTo_exportDeclaration (span : Span) (d : Declaration) :
    (Item.exportDeclaration span d).toTree.callsTo names = d.toTree.callsTo names := by
  rw [toTree, Tree.callsTo_node rfl, List.flatMap_singleton]

theorem VariableDecl.callsTo_toTree {d : VariableDecl} {first : Declarator}
    (only : d.declarators = [first]) :
    d.toTree.callsTo names =
      first.target.callsTo names ++ first.ascription.callsTo names
        ++ (first.initial.getD .absent).callsTo names := by
  rw [toTree, only, Tree.callsTo_node rfl, List.map_singleton, List.flatMap_singleton,
    Declarator.toTree, Tree.callsTo_node rfl]
  simp

theorem Item.callsTo_exportConst {n callee : String} {target : Tree} {route : Points}
    (span : Span) (called : callee ∈ names) (apart : target.callsTo names = []) :
    (Item.exportDeclaration span
        (constDeclaration n (wrapperCall callee target route))).toTree.callsTo names =
      [wrapperCall callee target route] := by
  rw [callsTo_exportDeclaration, constDeclaration, Declaration.toTree,
    VariableDecl.callsTo_toTree rfl]
  exact Tree.callsTo_wrapperCall called apart

variable {σ : Renaming}

theorem Item.callsTo_kept {i : Item} (uncalled : i.toTree.callsTo names = [])
    (unmoved : ∀ a ∈ σ.map Prod.snd, a ∉ names) (τ : Renaming) :
    ((i.rename σ).renameImports τ).toTree.callsTo names = [] := by
  cases i with
  | imports d =>
      rw [← uncalled]
      exact (ImportDecl.callsTo_toTree _).trans d.callsTo_toTree.symm
  | exportList l =>
      have same : (l.rename σ).request = l.request := by
        unfold ExportList.rename
        split
        · rfl
        · rfl
      rw [← uncalled]
      refine (ExportList.callsTo_toTree _).trans ?_
      rw [same]
      exact l.callsTo_toTree.symm
  | exportAll e => exact uncalled
  | declaration | exportDeclaration | exportDefault | statement =>
      rw [Item.renameImports_rename_other (by simp),
        Item.toTree_rename (by simp) (by simp) (by simp)]
      exact Tree.callsTo_rename uncalled unmoved

theorem FunctionDecl.callsTo_toExpression (d : FunctionDecl) :
    d.toExpression.callsTo names = d.toTree.callsTo names := by
  rw [toExpression, toTree, Tree.callsTo_node rfl, Tree.callsTo_node rfl]

/-- A specifier that is wrapped has a constant of its own, which calls the wrapper. -/
theorem SpecifierPlan.callsTo_constant {preset : Preset} {q : SpecifierPlan}
    (called : ∀ e ∈ q.entries preset, e.wrapperLocal ∈ names) (route : Points) :
    (q.constant route).flatMap (·.toTree.callsTo names) =
      ((q.wrapping preset).map (Wrapping.call route)).toList := by
  cases q with
  | keep => rfl
  | reExport s freshName callee | moved s freshName callee | aliased s source _ callee =>
      have isCalled : callee ∈ names :=
        called (preset.entry s.exported.text _ callee) (List.mem_singleton_self _)
      rw [constant, List.flatMap_singleton, exportConst,
        Item.callsTo_exportConst _ isCalled (by simp [Tree.callsTo])]
      rfl

theorem Plan.callsTo_requested (l : ExportList) (ps : List SpecifierPlan) :
    (requested l ps).flatMap (·.toTree.callsTo names) = [] := by
  refine List.flatMap_eq_nil_iff.mpr fun i listed => ?_
  obtain ⟨ss, path, rfl⟩ := requested_imports l ps i listed
  exact ImportDecl.callsTo_toTree _

theorem Plan.For.callsTo_image {preset : Preset} {surface : Surface} {i : Item} {p : Plan}
    (fits : For preset surface i p) (uncalled : i.toTree.callsTo names = [])
    (unmoved : ∀ a ∈ σ.map Prod.snd, a ∉ names)
    (called : ∀ e ∈ p.entries preset, e.wrapperLocal ∈ names) (τ : Renaming) (route : Points) :
    (p.image σ τ route).flatMap (·.toTree.callsTo names) =
      (p.wrappings preset σ).map (Wrapping.call route) := by
  cases fits with
  | keep i unlisted kept =>
      rw [image, List.flatMap_singleton, Item.callsTo_kept uncalled unmoved]
      rfl
  | drop overload => rfl
  | @initial span inner binder name d first value callee only target valued recognized =>
      rw [Item.callsTo_exportDeclaration, Declaration.toTree, VariableDecl.callsTo_toTree only,
        valued, Option.getD_some, List.append_eq_nil_iff, List.append_eq_nil_iff] at uncalled
      obtain ⟨⟨target_, ascription⟩, value_⟩ := uncalled
      have isCalled : callee ∈ names :=
        called (preset.entry name .variableDeclaration callee)
          (by simp [entries, target, Tree.patternNames])
      rw [image, List.flatMap_singleton, Item.callsTo_exportDeclaration, Declaration.toTree,
        VariableDecl.callsTo_toTree rfl]
      simp only [Declarator.rename, Tree.callsTo_rename target_ unmoved,
        Tree.callsTo_rename ascription unmoved, Option.getD_some,
        Tree.callsTo_wrapperCall isCalled (Tree.callsTo_rename value_ unmoved)]
      simp [wrappings, target, Tree.patternNames, Wrapping.call, Preset.entry]
  | @function span d n callee named bodied real recognized =>
      have expression : (d.rename σ).toExpression.callsTo names = [] := by
        rw [FunctionDecl.callsTo_toExpression, d.toTree_rename]
        rw [Item.callsTo_exportDeclaration, Declaration.toTree] at uncalled
        exact Tree.callsTo_rename uncalled unmoved
      have isCalled : callee ∈ names :=
        called (preset.entry n.text .functionDeclaration callee) (List.mem_singleton_self _)
      rw [image, List.flatMap_singleton, Item.callsTo_exportConst span isCalled expression]
      rfl
  | @list l ps each =>
      have kept : (Item.exportList { l with
          specifiers := ps.map (·.specifier σ l.request.isNone) }).toTree.callsTo names = [] :=
        (ExportList.callsTo_toTree _).trans
          (l.callsTo_toTree.symm.trans uncalled)
      have constant (q : SpecifierPlan) (planned : q ∈ ps) :
          (q.constant route).flatMap (·.toTree.callsTo names) =
            ((q.wrapping preset).map (Wrapping.call route)).toList :=
        SpecifierPlan.callsTo_constant
          (fun e reported => called e (List.mem_flatMap.mpr ⟨q, planned, reported⟩)) route
      rw [image, List.flatMap_append, List.flatMap_append, callsTo_requested, List.flatMap_singleton, kept,
        List.flatMap_assoc, List.flatMap_congr constant, wrappings, List.map_filterMap,
        List.filterMap_eq_flatMap_toList]
      rfl

end Items

theorem wrapperImports_imports (preset : Preset) (p : Progress) :
    ∀ i ∈ wrapperImports preset p, ∃ ss path, i = importNamed ss path := by
  intro i wrapper
  obtain ⟨g, -, wrapper⟩ := List.mem_flatMap.mp wrapper
  unfold wrapperImport at wrapper
  split at wrapper
  · exact absurd wrapper List.not_mem_nil
  · exact ⟨_, _, List.mem_singleton.mp wrapper⟩

namespace Module

variable {m : Module} {preset : Preset} {routeId : String}

theorem localOf_notMem_aliases {n : String}
    (wrapped : n ∈ (m.rewriteExports preset routeId).2.names) :
    m.localOf preset n ∉ m.aliases preset := by
  obtain ⟨group, bound, -⟩ := mem_wrappers_of_mem_names wrapped
  have distinct := (m.accounts_plans preset).2.supplied.distinct
  intro given
  exact (List.nodup_append'.mp distinct).2.2 given (List.mem_map_of_mem (f := (·.2)) bound)

theorem exists_name_of_mem_wrapperLocals {c : String}
    (listed : c ∈ (m.rewriteExports preset routeId).2.wrapped.map (·.wrapperLocal)) :
    ∃ n ∈ (m.rewriteExports preset routeId).2.names, c = m.localOf preset n := by
  obtain ⟨e, reported, rfl⟩ := List.mem_map.mp listed
  exact ⟨e.name, mem_names_of_mem_wrapped reported,
    congrArg WrappedExport.wrapperLocal (entry_of_mem_wrapped reported)⟩

theorem targets_subset_aliases :
    (m.references preset).map Prod.snd ⊆ m.aliases preset := by
  intro a target
  rw [references, List.map_reverse, List.mem_reverse] at target
  exact (m.bound_subperm_aliases preset).subset (List.mem_append_right _ target)

variable (m preset routeId)

/-- What a listing finds in the rewritten module stands in the blocks, if it finds nothing in
imports. -/
theorem flatMap_rewriteExports {f : Item → List β}
    (imports : ∀ ss path, f (importNamed ss path) = []) :
    (m.rewriteExports preset routeId).1.items.flatMap f =
      (m.plans preset).1.flatMap fun p => (m.block preset routeId p).2.flatMap f := by
  have wrappers : (RouteWrap.wrapperImports preset (m.plans preset).2).flatMap f = [] := by
    refine List.flatMap_eq_nil_iff.mpr fun i wrapper => ?_
    obtain ⟨ss, path, rfl⟩ := wrapperImports_imports preset _ i wrapper
    exact imports ss path
  rw [items_rewriteExports, List.flatMap_append, wrappers, List.nil_append, blocks,
    List.flatMap_map, List.flatMap_assoc]

/-- The calls to the wrappers are those that are inserted. -/
theorem callsTo_rewriteExports :
    (m.rewriteExports preset routeId).1.trees.flatMap
        (Tree.callsTo ((m.rewriteExports preset routeId).2.wrapped.map (·.wrapperLocal))) =
      ((m.blocks preset routeId).flatMap Prod.fst).map (Wrapping.call (.ofString routeId)) := by
  let locals := (m.rewriteExports preset routeId).2.wrapped.map (·.wrapperLocal)
  have unused (n : String) (named : n ∈ m.names) : n ∉ locals := by
    intro listed
    obtain ⟨k, wrapped, rfl⟩ := exists_name_of_mem_wrapperLocals listed
    exact localOf_notMem_names wrapped named
  have unmoved (a : String) (target : a ∈ (m.references preset).map Prod.snd) : a ∉ locals := by
    intro listed
    obtain ⟨k, wrapped, rfl⟩ := exists_name_of_mem_wrapperLocals listed
    exact localOf_notMem_aliases wrapped (targets_subset_aliases target)
  have each (p : Plan) (planned : p ∈ (m.plans preset).1) :
      (m.block preset routeId p).2.flatMap (·.toTree.callsTo locals) =
        (m.block preset routeId p).1.map (Wrapping.call (.ofString routeId)) := by
    refine (m.for_of_mem_plans planned).callsTo_image
      (Tree.callsTo_eq_nil fun n named => unused n ?_) unmoved
      (fun e reported => List.mem_map_of_mem (reported_of_planned planned reported)) _ _
    exact Tree.mem_namesList.mpr ⟨_, List.mem_map_of_mem (origin_mem_items planned), named⟩
  rw [trees, List.flatMap_map,
    m.flatMap_rewriteExports preset routeId fun _ _ => ImportDecl.callsTo_toTree _,
    List.flatMap_congr each, blocks, List.flatMap_map, List.map_flatMap]

end Module

end RouteWrap
