import RouteWrap.Scope.Rename

/-!
Renaming keeps bindings: what a phrase binds outside itself is the same before and after. Every
name so bound is among the names of the phrase, and declarations are renamed as their trees are.
-/

namespace RouteWrap

@[simp] theorem Form.keeps_reformed (f : Form) (before after : List Tree) :
    (f.reformed before after).keeps = f.keeps := by
  unfold Form.reformed
  split
  · rfl
  · rfl

mutual

@[simp] theorem Tree.escaping_renameUnder (σ : Renaming) (hidden : List Binding) (t : Tree) :
    (t.renameUnder σ hidden).escaping = t.escaping := by
  cases t with
  | absent | ref | bind | label => rfl
  | node s f ps =>
      simp only [Tree.renameUnder, Tree.escaping, Form.keeps_reformed,
        Tree.escapingList_renameListUnder]

@[simp] theorem Tree.escapingList_renameListUnder (σ : Renaming) (hidden : List Binding)
    (ts : List Tree) :
    Tree.escapingList (Tree.renameListUnder σ hidden ts) = Tree.escapingList ts := by
  cases ts with
  | nil => rfl
  | cons t ts =>
      simp only [Tree.renameListUnder, Tree.escapingList, Tree.escaping_renameUnder,
        Tree.escapingList_renameListUnder]

end

@[simp] theorem Tree.escaping_rename (σ : Renaming) (t : Tree) :
    (t.rename σ).escaping = t.escaping :=
  t.escaping_renameUnder σ []

theorem Tree.mem_namesList {ts : List Tree} {n : String} :
    n ∈ Tree.namesList ts ↔ ∃ t ∈ ts, n ∈ t.names := by
  induction ts with
  | nil => simp [Tree.namesList]
  | cons t ts ih => simp [Tree.namesList, ih]

theorem Tree.mem_escapingList {ts : List Tree} {b : Binding} :
    b ∈ Tree.escapingList ts ↔ ∃ t ∈ ts, b ∈ t.escaping := by
  induction ts with
  | nil => simp [Tree.escapingList]
  | cons t ts ih => simp [Tree.escapingList, ih]

mutual

theorem Tree.escaping_mem_names {t : Tree} {b : Binding} (binds : b ∈ t.escaping) :
    b.2 ∈ t.names := by
  cases t with
  | absent | ref | label => simp [Tree.escaping] at binds
  | bind s as n =>
      simp only [Tree.escaping, List.mem_singleton] at binds
      simp [Tree.names, binds]
  | node s f ps =>
      simp only [Tree.escaping, List.mem_filter] at binds
      exact Tree.escapingList_mem_names binds.1

theorem Tree.escapingList_mem_names {ts : List Tree} {b : Binding}
    (binds : b ∈ Tree.escapingList ts) : b.2 ∈ Tree.namesList ts := by
  cases ts with
  | nil => simp [Tree.escapingList] at binds
  | cons t ts =>
      rw [Tree.escapingList, List.mem_append] at binds
      rw [Tree.namesList, List.mem_append]
      exact binds.imp Tree.escaping_mem_names Tree.escapingList_mem_names

end

/-! Declarations and items are renamed as their trees are -/

theorem Tree.renameUnder_open {f : Form} (unscoped : f.scope = none)
    (plain : ∀ ps qs, f.reformed ps qs = f) (σ : Renaming) (hidden : List Binding) (s : Span)
    (ps : List Tree) :
    (Tree.node s f ps).renameUnder σ hidden = .node s f (Tree.renameListUnder σ hidden ps) := by
  have kept : f.kept ps = [] := by simp [Form.kept, Form.keeps, unscoped]
  rw [Tree.renameUnder, kept, plain]
  rfl

theorem Declarator.toTree_rename (σ : Renaming) (d : Declarator) :
    (d.rename σ).toTree = d.toTree.rename σ := by
  have initial : (d.initial.map (·.rename σ)).getD .absent = (d.initial.getD .absent).rename σ := by
    cases d.initial <;> rfl
  rw [Tree.rename, toTree, toTree, Tree.renameUnder_open rfl (fun _ _ => rfl), rename, initial]
  rfl

theorem VariableDecl.toTree_rename (σ : Renaming) (d : VariableDecl) :
    (d.rename σ).toTree = d.toTree.rename σ := by
  have each (ds : List Declarator) :
      (ds.map (·.rename σ)).map Declarator.toTree =
        Tree.renameListUnder σ [] (ds.map Declarator.toTree) := by
    induction ds with
    | nil => rfl
    | cons d ds ih =>
        rw [List.map_cons, List.map_cons, ih, d.toTree_rename]
        rfl
  rw [Tree.rename, toTree, toTree, Tree.renameUnder_open rfl (fun _ _ => rfl), ← each]
  rfl

theorem FunctionDecl.callable_rename (σ : Renaming) (d : FunctionDecl) :
    (d.rename σ).callable = d.callable.rename σ := by
  cases bodied : d.body <;>
    simp [FunctionDecl.rename, FunctionDecl.callable, FunctionDecl.inner, Tree.rename,
      Tree.renameUnder, Tree.renameListUnder, Form.reformed, bodied]

theorem FunctionDecl.toTree_rename (σ : Renaming) (d : FunctionDecl) :
    (d.rename σ).toTree = d.toTree.rename σ := by
  have binding : d.binding.renameUnder σ [] = d.binding := by
    cases named : d.name <;> simp [FunctionDecl.binding, named, Tree.renameUnder]
  rw [Tree.rename, toTree, toTree, Tree.renameUnder_open rfl (fun _ _ => rfl), d.callable_rename]
  simp only [Tree.renameListUnder, binding]
  rfl

theorem ClassDecl.toTree_rename (σ : Renaming) (d : ClassDecl) :
    (d.rename σ).toTree = d.toTree.rename σ := by
  have binding : d.binding.renameUnder σ [] = d.binding := by
    cases named : d.name <;> simp [ClassDecl.binding, named, Tree.renameUnder]
  rw [Tree.rename, toTree, toTree, Tree.renameUnder_open rfl (fun _ _ => rfl)]
  simp only [Tree.renameListUnder, binding]
  rfl

theorem Declaration.toTree_rename (σ : Renaming) (d : Declaration) :
    (d.rename σ).toTree = d.toTree.rename σ := by
  cases d with
  | «variable» d => exact d.toTree_rename σ
  | function d => exact d.toTree_rename σ
  | classes d => exact d.toTree_rename σ
  | other t => rfl

theorem DefaultValue.toTree_rename (σ : Renaming) (v : DefaultValue) :
    (v.rename σ).toTree = v.toTree.rename σ := by
  cases v with
  | declaration d => exact d.toTree_rename σ
  | expression t => rfl

end RouteWrap
