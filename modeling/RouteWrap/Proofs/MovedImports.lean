import RouteWrap.Proofs.ImportReexports
import RouteWrap.Proofs.Scope.Resolution

/-!
Imports that move to an alias. The import is bound under the alias, every reference that belonged
to it is spelled so, and the rest of the module keeps its spelling, in whatever item takes its
place.
-/

namespace RouteWrap

section

variable (top : List Binding) (moves : Renaming)

inductive ImportSpecifier.Moves : ImportSpecifier → ImportSpecifier → Prop
  | moved {s : ImportSpecifier} {a : String} (moves : (s.localName.text, a) ∈ moves) :
      ImportSpecifier.Moves s { s with localName := ⟨s.localName.span, a⟩ }
  | kept {s : ImportSpecifier} (unmoved : s.localName.text ∉ moves.map Prod.fst) :
      ImportSpecifier.Moves s s

/-- What a list exports is a reference unless another module is asked for it; the name under which
it is exported may become an alias. -/
inductive ExportSpecifier.Respelled (l : ExportList) : ExportSpecifier → ExportSpecifier → Prop
  | requested {s : ExportSpecifier} {exported : LinkName} (request : l.request.isSome) :
      ExportSpecifier.Respelled l s { s with exported }
  | string {s : ExportSpecifier} {exported : LinkName} {span : Span} {points : Points}
      (own : s.localName = .string span points) :
      ExportSpecifier.Respelled l s { s with exported }
  | reference {s : ExportSpecifier} {exported : LinkName} {span span' : Span} {n n' : String}
      (request : l.request = none) (own : s.localName = .name span n)
      (spelled : ∀ use, Respells top moves [] use n n') :
      ExportSpecifier.Respelled l s { s with localName := .name span' n', exported }

/-- What takes the place of an item whose module's imports move. -/
inductive Item.Respelled : Item → List Item → Prop
  | imports {d : ImportDecl} {specifiers : Option (List ImportSpecifier)}
      (each : Option.Rel (List.Forall₂ (ImportSpecifier.Moves moves)) d.specifiers specifiers) :
      Item.Respelled (.imports d) [.imports { d with specifiers }]
  | exportAll {e : ExportAll} : Item.Respelled (.exportAll e) [.exportAll e]
  | tree {i i' : Item} (other : ∀ d, i ≠ .imports d)
      (tree : i.toTree.Respelled top moves [] i'.toTree) : Item.Respelled i [i']
  | overload {span : Span} {d : FunctionDecl} (bodiless : d.body = none) :
      Item.Respelled (.exportDeclaration span (.function d)) []
  | initial {span : Span} {d : VariableDecl} {first first' : Declarator} {value' : Tree}
      (callee : String) (route : Points) (only : d.declarators = [first])
      (valued : first'.initial = some value')
      (tree : first.toTree.Respelled top moves [] first'.toTree) :
      Item.Respelled (.exportDeclaration span (.variable d))
        [.exportDeclaration span (.variable { d with
          declarators := [{ first' with initial := some (wrapperCall callee value' route) }] })]
  | function {span : Span} {d d' : FunctionDecl} {n : Name} (callee : String) (route : Points)
      (named : d.name = some n) (tree : d.toTree.Respelled top moves [] d'.toTree) :
      Item.Respelled (.exportDeclaration span (.function d))
        [.exportDeclaration span
          (constDeclaration n.text (wrapperCall callee d'.toExpression route))]
  | list {l : ExportList} {specifiers : List ExportSpecifier} {requested constants : List Item}
      (imports : ∀ i ∈ requested, ∃ ss path, i = importNamed ss path)
      (exports : ∀ i ∈ constants, ∃ n value, i = exportConst n value)
      (each : List.Forall₂ (ExportSpecifier.Respelled top moves l) l.specifiers specifiers) :
      Item.Respelled (.exportList l)
        (requested ++ [.exportList { l with specifiers }] ++ constants)

end

variable {top : List Binding} {moves σ : Renaming}

theorem Follows.respells_top (follows : Follows top moves σ) (use : Use) (n : String) :
    Respells top moves [] use n (σ.apply n) := by
  simpa [answers] using follows.respells [] use n

theorem Follows.respelled_rename (follows : Follows top moves σ) (t : Tree) :
    t.Respelled top moves [] (t.rename σ) :=
  Tree.respelled_renameUnder follows [] t

theorem Item.toTree_rename {i : Item} (imports : ∀ d, i ≠ .imports d)
    (lists : ∀ l, i ≠ .exportList l) (alls : ∀ e, i ≠ .exportAll e) (σ : Renaming) :
    (i.rename σ).toTree = i.toTree.rename σ := by
  cases i with
  | imports d => exact absurd rfl (imports d)
  | exportList l => exact absurd rfl (lists l)
  | exportAll e => exact absurd rfl (alls e)
  | declaration d => exact d.toTree_rename σ
  | statement t => rfl
  | exportDeclaration s d =>
      rw [Tree.rename, toTree, Tree.renameUnder_open rfl fun _ _ => rfl]
      simp only [rename, toTree, d.toTree_rename]
      rfl
  | exportDefault s v =>
      rw [Tree.rename, toTree, Tree.renameUnder_open rfl fun _ _ => rfl]
      simp only [rename, toTree, v.toTree_rename]
      rfl

theorem Item.renameImports_rename_other {i : Item} (imports : ∀ d, i ≠ .imports d)
    (σ τ : Renaming) : (i.rename σ).renameImports τ = i.rename σ := by
  cases i with
  | imports d => exact absurd rfl (imports d)
  | _ => rfl

theorem ImportSpecifier.moves_renameImports (s : ImportSpecifier) :
    s.Moves moves { s with localName := ⟨s.localName.span, moves.apply s.localName.text⟩ } := by
  by_cases moved : s.localName.text ∈ moves.map Prod.fst
  · exact .moved (Renaming.apply_mem moved)
  · rw [Renaming.apply_of_notMem moved]
    exact .kept moved

theorem Item.respelled_renameImports (d : ImportDecl) :
    (Item.imports d).Respelled top moves [(Item.imports d).renameImports moves] := by
  refine .imports ?_
  cases d.specifiers with
  | none => exact .none
  | some ss =>
      refine .some ?_
      rw [List.forall₂_map_right_iff, List.forall₂_same]
      exact fun s _ => s.moves_renameImports

variable {preset : Preset} {surface : Surface}

theorem ExportSpecifier.respelled_rename (follows : Follows top moves σ) {l : ExportList}
    {s : ExportSpecifier} (own : l.request = none) (exported : LinkName) :
    ExportSpecifier.Respelled top moves l s
      { s with localName := s.localName.rename σ, exported } := by
  obtain ⟨span, typeOnly, localName, _⟩ := s
  cases localName with
  | name inner n => exact .reference own rfl fun use => follows.respells_top use n
  | string inner points => exact .string rfl

theorem Follows.respells_moved (follows : Follows top moves σ) {n a : String}
    (moved : (n, a) ∈ moves) (use : Use) : Respells top moves [] use n a := by
  have source : n ∈ moves.map Prod.fst := List.mem_map_of_mem (f := Prod.fst) moved
  exact .moved (Scopes.resolvesToTop_iff.mpr ⟨rfl, follows.answered n source use⟩) moved

theorem SpecifierPlan.For.respelled {l : ExportList} {s : ExportSpecifier} {p : SpecifierPlan}
    (fits : For preset surface l s p) (follows : Follows top moves σ)
    (planned : ∀ move ∈ p.moves, move ∈ moves) :
    ExportSpecifier.Respelled top moves l s (p.specifier σ l.request.isNone) := by
  cases fits with
  | keep =>
      cases request : l.request with
      | none => exact ExportSpecifier.respelled_rename follows request s.exported
      | some r => exact .requested (by simp [request])
  | reExport k callee exported recognized valued requested => exact .requested requested
  | moved k callee exported recognized valued own named imported =>
      refine .reference own named fun use => follows.respells_moved ?_ use
      exact planned _ (by simp [SpecifierPlan.moves, named, LinkName.text])
  | aliased k callee exported recognized valued own named imported renamed free =>
      exact ExportSpecifier.respelled_rename follows own _

theorem Plan.requested_imports (l : ExportList) (ps : List SpecifierPlan) :
    ∀ i ∈ Plan.requested l ps, ∃ ss path, i = importNamed ss path := by
  intro i requested
  unfold Plan.requested at requested
  split at requested
  · exact ⟨_, _, List.mem_singleton.mp requested⟩
  · exact absurd requested List.not_mem_nil

theorem SpecifierPlan.constant_exports (p : SpecifierPlan) (route : Points) :
    ∀ i ∈ p.constant route, ∃ n value, i = exportConst n value := by
  intro i constant
  cases p with
  | keep => exact absurd constant List.not_mem_nil
  | reExport | moved | aliased => exact ⟨_, _, List.mem_singleton.mp constant⟩

theorem Plan.mem_image_list {l : ExportList} {ps : List SpecifierPlan} {σ τ : Renaming}
    {route : Points} {i : Item} (image : i ∈ (Plan.list l ps).image σ τ route) :
    (∃ ss path, i = importNamed ss path) ∨
      i = .exportList { l with specifiers := ps.map (·.specifier σ l.request.isNone) } ∨
      ∃ n value, i = exportConst n value := by
  rw [Plan.image, List.append_assoc, List.mem_append, List.mem_append, List.mem_singleton] at image
  refine image.imp (Plan.requested_imports l ps i) (.imp_right fun constant => ?_)
  obtain ⟨q, -, constant⟩ := List.mem_flatMap.mp constant
  exact q.constant_exports route i constant

theorem Plan.For.respelled {i : Item} {p : Plan} (fits : For preset surface i p)
    (follows : Follows top moves σ) (planned : ∀ move ∈ p.moves, move ∈ moves) (route : Points) :
    i.Respelled top moves (p.image σ moves route) := by
  cases fits with
  | keep i unlisted kept =>
      by_cases imports : ∃ d, i = .imports d
      · obtain ⟨d, rfl⟩ := imports
        exact Item.respelled_renameImports d
      by_cases alls : ∃ e, i = .exportAll e
      · obtain ⟨e, rfl⟩ := alls
        exact .exportAll
      have notImports (d : ImportDecl) : i ≠ .imports d := fun same => imports ⟨d, same⟩
      have notAlls (e : ExportAll) : i ≠ .exportAll e := fun same => alls ⟨e, same⟩
      rw [Plan.image, Item.renameImports_rename_other notImports]
      refine .tree notImports ?_
      rw [Item.toTree_rename notImports unlisted notAlls]
      exact follows.respelled_rename _
  | drop overload =>
      refine .overload ?_
      simp only [Planning.isOverload, Bool.and_eq_true, Option.isNone_iff_eq_none] at overload
      exact overload.1.1
  | @initial span inner binder name d first value callee only target valued recognized =>
      have renamed : (first.rename σ).initial = some (value.rename σ) := by
        rw [Declarator.rename, valued]
        rfl
      refine .initial callee route only renamed ?_
      rw [first.toTree_rename]
      exact follows.respelled_rename _
  | @function span d n callee named bodied real recognized =>
      refine .function callee route named ?_
      rw [d.toTree_rename]
      exact follows.respelled_rename _
  | @list l ps each =>
      refine .list (Plan.requested_imports l ps) ?_ ?_
      · intro i constant
        obtain ⟨q, -, constant⟩ := List.mem_flatMap.mp constant
        exact q.constant_exports route i constant
      · obtain ⟨origins, fits⟩ := SpecifierPlan.for_origins each
        rw [List.forall₂_map_right_iff, ← origins, List.forall₂_map_left_iff, List.forall₂_same]
        intro q listed
        refine (fits q listed).respelled follows fun move moved => ?_
        exact planned move (List.mem_flatMap.mpr ⟨q, listed, moved⟩)

theorem ImportDecl.binds_of_mem_specifiers {d : ImportDecl} {s : ImportSpecifier}
    (specified : s ∈ d.specifiers.getD []) (valued : d.typeOnly = false)
    (valuedS : s.typeOnly = false) :
    (Binder.importValue, s.localName.text) ∈ d.toTree.escaping := by
  have own : (Binder.importValue, s.localName.text) ∈ (s.toTree d.typeOnly).escaping := by
    cases imported : s.imported <;>
      simp [ImportSpecifier.toTree, imported, valued, valuedS, Tree.escaping, Tree.escapingList,
        Form.keeps, Form.scope]
  have among : (Binder.importValue, s.localName.text) ∈
      Tree.escapingList ((d.specifiers.getD []).map (·.toTree d.typeOnly)) :=
    Tree.mem_escapingList.mpr ⟨_, List.mem_map_of_mem specified, own⟩
  simp [toTree, Tree.escaping, Form.keeps, Form.scope, among]

namespace Module

variable (m : Module) (preset : Preset) (routeId : String)

theorem answers_imported {n : String} (imported : n ∈ (Surface.ofItems m.items).imported)
    (use : Use) : answers m.bindings use n = true := by
  obtain ⟨request, what, d, s, listed, specified, valued, valuedS, -, -, named⟩ :=
    bindsImport_of_imported imported
  have bound : (Binder.importValue, n) ∈ m.bindings := by
    rw [← named]
    exact Tree.mem_escapingList.mpr ⟨d.toTree, List.mem_map_of_mem listed,
      ImportDecl.binds_of_mem_specifiers specified valued valuedS⟩
  refine List.any_eq_true.mpr ⟨_, bound, ?_⟩
  cases use <;> simp [Binder.answers, Binder.isValue, Binder.isType]

theorem follows_references :
    Follows m.bindings (m.moves preset) (m.plans preset).2.references := by
  rw [references_plans]
  have sources (n : String) : n ∈ (m.moves preset).reverse.map Prod.fst ↔
      n ∈ (m.moves preset).map Prod.fst := by
    rw [List.map_reverse, List.mem_reverse]
  refine ⟨fun n moved => ?_, fun n unmoved => ?_, fun n moved use => ?_⟩
  · exact List.mem_reverse.mp (Renaming.apply_mem ((sources n).mpr moved))
  · exact Renaming.apply_of_notMem fun moved => unmoved ((sources n).mp moved)
  · exact m.answers_imported (of_mem_moves moved).1 use

/-- The rewritten module is imports of wrappers and the module's items, respelled. -/
theorem rewriteExports_respelled :
    ∃ wrappers blocks,
      (m.rewriteExports preset routeId).1.items = wrappers ++ blocks.flatten ∧
        (∀ i ∈ wrappers, ∃ ss path, i = importNamed ss path) ∧
        List.Forall₂ (Item.Respelled m.bindings (m.moves preset)) m.items blocks := by
  refine ⟨wrapperImports preset (m.plans preset).2, (m.plans preset).1.map
    (Plan.image (m.plans preset).2.references (m.plans preset).2.imports (.ofString routeId)),
    rfl, ?_, ?_⟩
  · intro i wrapper
    obtain ⟨g, -, wrapper⟩ := List.mem_flatMap.mp wrapper
    unfold wrapperImport at wrapper
    split at wrapper
    · exact absurd wrapper List.not_mem_nil
    · exact ⟨_, _, List.mem_singleton.mp wrapper⟩
  · have fits (p : Plan) (planned : p ∈ (m.plans preset).1) := m.for_of_mem_plans planned
    rw [← m.origins_plans preset, List.forall₂_map_right_iff, List.forall₂_map_left_iff,
      List.forall₂_same, imports_plans]
    refine fun p planned => (fits p planned).respelled (m.follows_references preset) ?_ _
    exact fun move moved => List.mem_flatMap.mpr ⟨p, planned, moved⟩

variable {m preset}

/-- A name of the module becomes the alias just where it referred to the import that moved there,
and becomes another name only where it referred to an import that moved. -/
theorem respells_iff (exportedOnce : m.exportNames.Nodup) {source target : String}
    (moved : (source, target) ∈ m.moves preset) {scopes : Scopes} {use : Use} {n n' : String}
    (used : n ∈ m.names) (spelled : Respells m.bindings (m.moves preset) scopes use n n') :
    (n' = target ↔ n = source ∧ scopes.ResolvesToTop m.bindings use n) ∧
      (n' ≠ n → (n, n') ∈ m.moves preset ∧ scopes.ResolvesToTop m.bindings use n) := by
  have isSource : source ∈ (m.moves preset).map Prod.fst :=
    List.mem_map_of_mem (f := Prod.fst) moved
  have fresh : target ∉ m.names := by
    rw [← apply_moves_of_mem exportedOnce moved]
    exact apply_moves_fresh isSource
  cases spelled with
  | moved resolves moves =>
      refine ⟨⟨?_, ?_⟩, fun _ => ⟨moves, resolves⟩⟩
      · rintro rfl
        exact ⟨Renaming.eq_of_mem (m.nodup_targets_moves preset) moves moved, resolves⟩
      · rintro ⟨rfl, -⟩
        exact alias_unique exportedOnce moves moved
  | kept unmoved =>
      refine ⟨⟨?_, ?_⟩, fun other => absurd rfl other⟩
      · rintro rfl
        exact absurd used fresh
      · rintro ⟨rfl, resolves⟩
        exact absurd isSource (unmoved resolves)

/-- `function f(loader) { return loader }` -/
def shadowed : Item :=
  .declaration (.function
    { span := .none, traits := default, name := some ⟨.none, "f"⟩, typeParameters := .absent
      parameters := .pat .none .parameters [.bind .none .parameter "loader"], result := .absent
      body := some (.expr .none .body
        [.stmt .none .returnValue [.ref .none .value "loader"]]) })

/-- `function g(a = n) { const loader = null }` for a name `n` -/
def defaulting (n : String) : Item :=
  .declaration (.function
    { span := .none, traits := default, name := some ⟨.none, "g"⟩, typeParameters := .absent
      parameters := .pat .none .parameters
        [.pat .none .defaulted [.bind .none .parameter "a", .ref .none .value n]]
      result := .absent
      body := some (.expr .none .body
        [(constDeclaration "loader" (.expr .none .null [])).toTree]) })

/-- `import { loader } from "./x"; export { loader }; const x = { loader }`, a function with a
parameter of that name, and one that declares the name beside a parameter whose default it is. -/
def exportingShadowed : Module :=
  .ofItems
    [importNamed [(.name .none "loader", "loader")] (.ofString "./x"),
     exportNamed [("loader", "loader")] none,
     .declaration (constDeclaration "x" (.expr .none .object
       [.expr .none (.property true false)
         [.expr .none (.keyName "loader") [], .ref .none .value "loader"]])),
     shadowed,
     defaulting "loader"]

example : (exportingShadowed.rewriteExports .dataFunctions "r").1.items.drop 4 =
    [.declaration (constDeclaration "x" (.expr .none .object
      [.expr .none (.property false false)
        [.expr .none (.keyName "loader") [], .ref .none .value "_loader"]])),
     shadowed,
     defaulting "_loader"] := rfl

end Module

end RouteWrap
