import RouteWrap.Proofs.ImportReexports

/-!
What a rewrite leaves of a module. Behind the imports of the wrappers, every item of the module has
a block of its own: the item with its imports renamed, or what its wrapped exports ask for. The
blocks stand in the order of the items, and the report lists what they wrap in their order.
-/

namespace RouteWrap

/-- A wrapped export: its entry in the report, and what the wrapper is given. -/
structure Wrapping where
  entry : WrappedExport
  target : Tree

namespace Wrapping

def call (route : Points) (w : Wrapping) : Tree :=
  wrapperCall w.entry.wrapperLocal w.target route

def constant (route : Points) (w : Wrapping) : Item :=
  exportConst w.entry.name (w.call route)

end Wrapping

/-- A specifier of a list, what stands in its place, and what is wrapped for it. -/
structure SpecifierChange where
  before : ExportSpecifier
  after : ExportSpecifier
  wrapping : Option Wrapping

namespace SpecifierChange

inductive Fits (σ : Renaming) (l : ExportList) : SpecifierChange → Prop
  | kept (s : ExportSpecifier) :
      Fits σ l ⟨s, if l.request.isNone then { s with localName := s.localName.rename σ } else s,
        none⟩
  | reExport {s : ExportSpecifier} {span : Span} {e : WrappedExport} (freshName : String)
      (requested : l.request.isSome) (exported : s.exported = .name span e.name)
      (shape : e.shape = .reExport) :
      Fits σ l ⟨s, { s with exported := .name .none freshName },
        some ⟨e, .ref .none .value freshName⟩⟩
  | moved {s : ExportSpecifier} {span inner : Span} {e : WrappedExport} (freshName : String)
      (own : l.request = none) (exported : s.exported = .name span e.name)
      (named : s.localName = .name inner e.name) (moves : (e.name, freshName) ∈ σ)
      (shape : e.shape = .importReExport) :
      Fits σ l
        ⟨s, { s with localName := .name .none freshName, exported := .name .none freshName },
          some ⟨e, .ref .none .value freshName⟩⟩
  | aliased {s : ExportSpecifier} {span inner : Span} {e : WrappedExport}
      (source freshName : String) (own : l.request = none)
      (exported : s.exported = .name span e.name) (named : s.localName = .name inner source)
      (renamed : source ≠ e.name) (shape : e.shape = .importReExport) :
      Fits σ l
        ⟨s, { s with localName := s.localName.rename σ, exported := .name .none freshName },
          some ⟨e, .ref .none .value source⟩⟩

/-- What a wrapped specifier takes from the module that its list names, and under which name. -/
def imported (c : SpecifierChange) : Option (LinkName × String) :=
  c.wrapping.map fun _ => (c.before.localName, c.after.exported.text)

end SpecifierChange

namespace ExportList

/-- The import of what is wrapped of another module. -/
def requestedFor (l : ExportList) (changes : List SpecifierChange) : List Item :=
  match l.request, changes.filterMap SpecifierChange.imported with
  | some r, s :: ss => [importNamed (s :: ss) r.specifier.unescaped]
  | _, _ => []

/-- The list with its specifiers changed, and the constants for what is wrapped. -/
def block (route : Points) (l : ExportList) (changes : List SpecifierChange) : List Item :=
  l.requestedFor changes
    ++ [.exportList { l with specifiers := changes.map SpecifierChange.after }]
    ++ (changes.filterMap SpecifierChange.wrapping).map (Wrapping.constant route)

end ExportList

/-- The item is a signature of a function that the preset recognizes and whose implementation the
module exports. -/
def Module.Overloads (m : Module) (preset : Preset) (i : Item) : Prop :=
  ∃ span d n, i = .exportDeclaration span (.function d) ∧ d.name = some n ∧ d.body = none ∧
    d.traits.declare = false ∧ preset.recognizes n.text ∧
    ∃ span' d' n', .exportDeclaration span' (.function d') ∈ m.items ∧ d'.name = some n' ∧
      n'.text = n.text ∧ d'.body.isSome

/-- The block that takes the place of an item, with what it wraps. References are renamed by `σ`
and imports by `τ`. -/
inductive Item.Rebuilt (m : Module) (preset : Preset) (σ τ : Renaming) (route : Points) :
    Item → List Wrapping → List Item → Prop
  | kept {i : Item} (stays : ¬ m.Overloads preset i) :
      Item.Rebuilt m preset σ τ route i [] [(i.rename σ).renameImports τ]
  | overload {i : Item} (overloads : m.Overloads preset i) :
      Item.Rebuilt m preset σ τ route i [] []
  | initial {span inner : Span} {binder : Binder} {d : VariableDecl} {first : Declarator}
      {value : Tree} {w : Wrapping} (only : d.declarators = [first])
      (target : first.target = .bind inner binder w.entry.name)
      (valued : first.initial = some value) (shape : w.entry.shape = .variableDeclaration)
      (wraps : w.target = value.rename σ) :
      Item.Rebuilt m preset σ τ route (.exportDeclaration span (.variable d)) [w]
        [.exportDeclaration span (.variable { d with
          declarators := [{ first with
            ascription := first.ascription.rename σ, initial := some (w.call route) }] })]
  | function {span : Span} {d : FunctionDecl} {n : Name} {w : Wrapping}
      (named : d.name = some n) (bodied : d.body.isSome) (real : d.traits.declare = false)
      (name : w.entry.name = n.text) (shape : w.entry.shape = .functionDeclaration)
      (wraps : w.target = (d.rename σ).toExpression) :
      Item.Rebuilt m preset σ τ route (.exportDeclaration span (.function d)) [w]
        [.exportDeclaration span (constDeclaration n.text (w.call route))]
  | list {l : ExportList} {changes : List SpecifierChange}
      (specifiers : changes.map SpecifierChange.before = l.specifiers)
      (fits : ∀ c ∈ changes, c.Fits σ l)
      (wrapped : changes.filterMap SpecifierChange.wrapping ≠ []) :
      Item.Rebuilt m preset σ τ route (.exportList l)
        (changes.filterMap SpecifierChange.wrapping) (l.block route changes)

theorem Module.overloads_iff {m : Module} {preset : Preset} {i : Item} :
    m.Overloads preset i ↔ i.isOverload preset (Surface.ofItems m.items) = true := by
  have implements (n : String) : (Surface.ofItems m.items).implements n = true ↔
      ∃ span d n', .exportDeclaration span (.function d) ∈ m.items ∧ d.name = some n' ∧
        n'.text = n ∧ d.body.isSome := by
    rw [Surface.implements, List.contains_iff_mem]
    constructor
    · intro implemented
      obtain ⟨i, listed, implemented⟩ := List.mem_flatMap.mp implemented
      unfold Item.implementedNames at implemented
      split at implemented
      · next span d =>
        split at implemented
        · next bodied =>
          rw [Option.mem_toList, Option.map_eq_some_iff] at implemented
          obtain ⟨n', named, text⟩ := implemented
          exact ⟨span, d, n', listed, named, text, bodied⟩
        · exact absurd implemented List.not_mem_nil
      · exact absurd implemented List.not_mem_nil
    · rintro ⟨span, d, n', listed, named, rfl, bodied⟩
      refine List.mem_flatMap.mpr ⟨_, listed, ?_⟩
      simp [Item.implementedNames, bodied, named]
  constructor
  · rintro ⟨span, d, n, rfl, named, bodiless, real, recognized, implemented⟩
    simp only [Item.isOverload, Planning.isOverload, bodiless, real, named, Option.any_some,
      recognized, (implements n.text).mpr implemented]
    rfl
  · intro overload
    unfold Item.isOverload at overload
    split at overload
    · next span d =>
      simp only [Planning.isOverload, Bool.and_eq_true, Option.isNone_iff_eq_none,
        Bool.not_eq_true', Option.any_eq_true] at overload
      obtain ⟨⟨bodiless, real⟩, n, named, recognized, implemented⟩ := overload
      exact ⟨span, d, n, rfl, named, bodiless, real, recognized, (implements n.text).mp implemented⟩
    · cases overload

variable {preset : Preset}

namespace SpecifierPlan

def wrapping (preset : Preset) : SpecifierPlan → Option Wrapping
  | keep _ => none
  | reExport s freshName callee =>
      some ⟨preset.entry s.exported.text .reExport callee, .ref .none .value freshName⟩
  | moved s freshName callee =>
      some ⟨preset.entry s.exported.text .importReExport callee, .ref .none .value freshName⟩
  | aliased s source _ callee =>
      some ⟨preset.entry s.exported.text .importReExport callee, .ref .none .value source⟩

def change (preset : Preset) (σ : Renaming) (isOwn : Bool) (p : SpecifierPlan) :
    SpecifierChange :=
  ⟨p.origin, p.specifier σ isOwn, p.wrapping preset⟩

theorem entries_eq (p : SpecifierPlan) :
    p.entries preset = ((p.wrapping preset).map Wrapping.entry).toList := by
  cases p <;> rfl

theorem constant_eq (preset : Preset) (route : Points) (p : SpecifierPlan) :
    p.constant route = ((p.wrapping preset).map (Wrapping.constant route)).toList := by
  cases p <;> rfl

theorem eq_keep_of_wrapping {p : SpecifierPlan} (unwrapped : p.wrapping preset = none) :
    p = .keep p.origin := by
  cases p with
  | keep s => rfl
  | reExport | moved | aliased => cases unwrapped

variable {surface : Surface} {l : ExportList} {s : ExportSpecifier} {p : SpecifierPlan}

theorem For.fits_change (fits : For preset surface l s p) {σ : Renaming}
    (planned : ∀ move ∈ p.moves, move ∈ σ) : (p.change preset σ l.request.isNone).Fits σ l := by
  cases fits with
  | keep => exact .kept s
  | @reExport span e k callee exported recognized valued requested =>
      have text : e = s.exported.text := by rw [exported]; rfl
      exact .reExport _ requested (exported.trans (congrArg _ text)) rfl
  | @moved span inner e k callee exported recognized valued own named imported =>
      have text : e = s.exported.text := by rw [exported]; rfl
      refine .moved _ own (exported.trans (congrArg _ text)) (named.trans (congrArg _ text)) ?_ rfl
      exact planned _ (by simp [moves, named, exported, Preset.entry, LinkName.text])
  | @aliased span inner e source k callee exported recognized valued own named imported renamed
      free =>
      have text : e = s.exported.text := by rw [exported]; rfl
      exact .aliased _ _ own (exported.trans (congrArg _ text)) named (text ▸ renamed) rfl

theorem For.imported_eq (fits : For preset surface l s p) (requested : l.request.isSome)
    (σ : Renaming) (isOwn : Bool) :
    p.imported = (p.change preset σ isOwn).imported.toList := by
  cases fits with
  | keep | reExport => rfl
  | moved k callee exported recognized valued own named imported => simp [own] at requested
  | aliased k callee exported recognized valued own named imported renamed free =>
      simp [own] at requested

end SpecifierPlan

namespace Plan

/-- What a plan wraps, with references renamed by `σ`. -/
def wrappings (preset : Preset) (σ : Renaming) : Plan → List Wrapping
  | initial _ _ first value callee =>
      first.target.patternNames.map fun n =>
        ⟨preset.entry n.text .variableDeclaration callee, value.rename σ⟩
  | function _ d name callee =>
      [⟨preset.entry name .functionDeclaration callee, (d.rename σ).toExpression⟩]
  | list _ ps => ps.filterMap (SpecifierPlan.wrapping preset)
  | _ => []

theorem wrappings_initial {first : Declarator} {inner : Span} {binder : Binder} {name : String}
    (target : first.target = .bind inner binder name) (preset : Preset) (σ : Renaming)
    (span : Span) (d : VariableDecl) (value : Tree) (callee : String) :
    (initial span d first value callee).wrappings preset σ =
      [⟨preset.entry name .variableDeclaration callee, value.rename σ⟩] := by
  simp [wrappings, target, Tree.patternNames]

theorem entries_eq (σ : Renaming) (p : Plan) :
    p.entries preset = (p.wrappings preset σ).map Wrapping.entry := by
  cases p with
  | initial span d first value callee => simp [entries, wrappings]
  | list l ps =>
      rw [entries, wrappings, List.map_filterMap, List.filterMap_eq_flatMap_toList]
      exact List.flatMap_congr fun p _ => p.entries_eq
  | _ => rfl

variable {m : Module} {surface : Surface} {l : ExportList} {ps : List SpecifierPlan}

theorem wrappings_list (preset : Preset) (l : ExportList) (ps : List SpecifierPlan)
    (σ : Renaming) (isOwn : Bool) :
    (list l ps).wrappings preset σ =
      (ps.map (SpecifierPlan.change preset σ isOwn)).filterMap SpecifierChange.wrapping := by
  rw [List.filterMap_map]
  rfl

theorem imported_eq (each : List.Forall₂ (SpecifierPlan.For preset surface l) l.specifiers ps)
    (requested : l.request.isSome) (σ : Renaming) :
    ps.flatMap SpecifierPlan.imported =
      (ps.map (SpecifierPlan.change preset σ l.request.isNone)).filterMap
        SpecifierChange.imported := by
  rw [List.filterMap_map, List.filterMap_eq_flatMap_toList]
  refine List.flatMap_congr fun p planned => ?_
  exact ((SpecifierPlan.for_origins each).2 p planned).imported_eq requested _ _

/-- A list of which nothing is wrapped is the list with its references renamed. -/
theorem image_list_unwrapped (each : ∀ p ∈ ps, p = .keep p.origin)
    (origins : ps.map SpecifierPlan.origin = l.specifiers) (σ τ : Renaming) (route : Points) :
    (list l ps).image σ τ route = [((Item.exportList l).rename σ).renameImports τ] := by
  have imported : ps.flatMap SpecifierPlan.imported = [] :=
    List.flatMap_eq_nil_iff.mpr fun p planned => by rw [each p planned]; rfl
  have constants : ps.flatMap (·.constant route) = [] :=
    List.flatMap_eq_nil_iff.mpr fun p planned => by rw [each p planned]; rfl
  have requested : requested l ps = [] := by
    unfold Plan.requested
    split
    · next some => rw [imported] at some; cases some
    · rfl
  have kept : { l with specifiers := ps.map (·.specifier σ l.request.isNone) } = l.rename σ := by
    obtain ⟨span, typeOnly, specifiers, request⟩ := l
    subst origins
    cases request with
    | none =>
        simp only [ExportList.rename, List.map_map, ExportList.mk.injEq, true_and, and_true]
        exact List.map_congr_left fun p planned => by rw [each p planned]; rfl
    | some r =>
        simp only [ExportList.rename, ExportList.mk.injEq, true_and, and_true]
        exact List.map_congr_left fun p planned => by rw [each p planned]; rfl
  rw [image, requested, constants, kept]
  rfl

/-- The image of a list is its block. -/
theorem image_list (each : List.Forall₂ (SpecifierPlan.For preset surface l) l.specifiers ps)
    (σ τ : Renaming) (route : Points) :
    (list l ps).image σ τ route =
      l.block route (ps.map (SpecifierPlan.change preset σ l.request.isNone)) := by
  have constants : ps.flatMap (·.constant route) =
      ((ps.map (SpecifierPlan.change preset σ l.request.isNone)).filterMap
        SpecifierChange.wrapping).map (Wrapping.constant route) := by
    rw [List.map_filterMap, List.filterMap_map, List.filterMap_eq_flatMap_toList]
    exact List.flatMap_congr fun p _ => p.constant_eq preset route
  have requested : requested l ps =
      l.requestedFor (ps.map (SpecifierPlan.change preset σ l.request.isNone)) := by
    unfold Plan.requested ExportList.requestedFor
    cases request : l.request with
    | none => rfl
    | some r =>
        have imported := imported_eq each (by simp [request]) σ
        rw [request] at imported
        generalize ps.flatMap SpecifierPlan.imported = taken at imported ⊢
        subst imported
        rfl
  rw [image, requested, constants, ExportList.block, List.map_map]
  rfl

theorem For.rebuilt {i : Item} {p : Plan} (fits : For preset (Surface.ofItems m.items) i p)
    {σ : Renaming} (planned : ∀ move ∈ p.moves, move ∈ σ) (τ : Renaming) (route : Points) :
    i.Rebuilt m preset σ τ route (p.wrappings preset σ) (p.image σ τ route) := by
  cases fits with
  | keep i unlisted kept =>
      refine .kept ?_
      rw [Module.overloads_iff, (For.keep i unlisted kept).isOverload_kept]
      exact Bool.false_ne_true
  | drop overload => exact .overload (Module.overloads_iff.mpr overload)
  | @initial span inner binder name d first value callee only target valued recognized =>
      have kept : first.target.rename σ = first.target := by rw [target]; rfl
      rw [wrappings_initial target, image, Declarator.rename, kept]
      exact .initial only target valued rfl rfl
  | function callee named bodied real recognized =>
      exact .function named bodied real rfl rfl rfl
  | @list l ps each =>
      obtain ⟨origins, fits⟩ := SpecifierPlan.for_origins each
      -- A list of which nothing is wrapped is kept, though its plan is that of a list.
      by_cases wrapped : ps.filterMap (SpecifierPlan.wrapping preset) = []
      · rw [wrappings, wrapped, image_list_unwrapped ?_ origins]
        · exact .kept (by rw [Module.overloads_iff]; exact Bool.false_ne_true)
        · intro q listed
          exact SpecifierPlan.eq_keep_of_wrapping (List.filterMap_eq_nil_iff.mp wrapped q listed)
      · have same := wrappings_list preset l ps σ l.request.isNone
        rw [image_list each, same]
        refine .list ?_ ?_ (same ▸ wrapped)
        · rw [List.map_map, ← origins]
          rfl
        · intro c changed
          obtain ⟨q, listed, rfl⟩ := List.mem_map.mp changed
          refine (fits q listed).fits_change fun move moved => ?_
          exact planned move (List.mem_flatMap.mpr ⟨q, listed, moved⟩)

end Plan

namespace Module

variable (m : Module) (preset : Preset) (routeId : String)

/-- References follow the last alias that their import moved to. -/
def references : Renaming := (m.moves preset).reverse

/-- The block that a plan makes, with what it wraps. -/
def block (p : Plan) : List Wrapping × List Item :=
  (p.wrappings preset (m.references preset),
    p.image (m.references preset) (m.moves preset) (.ofString routeId))

/-- The block of each item, in order. -/
def blocks : List (List Wrapping × List Item) := (m.plans preset).1.map (m.block preset routeId)

def Rebuilds (i : Item) (block : List Wrapping × List Item) : Prop :=
  i.Rebuilt m preset (m.references preset) (m.moves preset) (.ofString routeId) block.1 block.2

theorem items_rewriteExports :
    (m.rewriteExports preset routeId).1.items =
      RouteWrap.wrapperImports preset (m.plans preset).2 ++
        (m.blocks preset routeId).flatMap Prod.snd := by
  rw [blocks, List.flatMap_map]
  simp only [block, references, ← imports_plans]
  rfl

theorem wrapped_rewriteExports :
    (m.rewriteExports preset routeId).2.wrapped =
      ((m.blocks preset routeId).flatMap Prod.fst).map Wrapping.entry := by
  change (m.plans preset).2.report.wrapped = _
  rw [(m.accounts_plans preset).2.entries, blocks, List.flatMap_map, List.map_flatMap]
  exact List.flatMap_congr fun p _ => p.entries_eq _

theorem rebuilds_map {ps : List Plan} (planned : ps ⊆ (m.plans preset).1) :
    List.Forall₂ (m.Rebuilds preset routeId) (ps.map Plan.origin)
      (ps.map (m.block preset routeId)) := by
  rw [List.forall₂_map_right_iff, List.forall₂_map_left_iff, List.forall₂_same]
  intro p listed
  refine (m.for_of_mem_plans (planned listed)).rebuilt (fun move moved => ?_) _ _
  exact List.mem_reverse.mpr (List.mem_flatMap.mpr ⟨p, planned listed, moved⟩)

theorem rebuilds_blocks :
    List.Forall₂ (m.Rebuilds preset routeId) m.items (m.blocks preset routeId) := by
  have rebuilds := m.rebuilds_map preset routeId (List.Subset.refl (m.plans preset).1)
  rwa [origins_plans] at rebuilds

variable {m} in
/-- Where the items are split, the plans are. -/
theorem exists_plans_split {before after : List Item} {i : Item}
    (listed : m.items = before ++ i :: after) :
    ∃ front p back, (m.plans preset).1 = front ++ p :: back ∧
      front.map Plan.origin = before ∧ p.origin = i ∧ back.map Plan.origin = after := by
  have origins := (m.origins_plans preset).trans listed
  obtain ⟨front, rest, split, first, last⟩ := List.map_eq_append_iff.mp origins
  obtain ⟨p, back, rfl, origin, last⟩ := List.map_eq_cons_iff.mp last
  exact ⟨front, p, back, split, first, origin, last⟩

variable {m preset} in
theorem apply_references (exportedOnce : m.exportNames.Nodup) (n : String) :
    (m.references preset).apply n = (m.moves preset).apply n := by
  have sources : n ∈ (m.references preset).map Prod.fst ↔ n ∈ (m.moves preset).map Prod.fst := by
    rw [references, List.map_reverse, List.mem_reverse]
  by_cases moved : n ∈ (m.moves preset).map Prod.fst
  · refine alias_unique exportedOnce (List.mem_reverse.mp ?_) (Renaming.apply_mem moved)
    exact Renaming.apply_mem (sources.mpr moved)
  · rw [Renaming.apply_of_notMem moved, Renaming.apply_of_notMem (sources.not.mpr moved)]

/-- Nothing but the items of a module changes. Behind the imports of the wrappers stand the blocks
of its items, in order, and the report lists what they wrap. What is renamed is imported by the
module, and gets a name that the module does not use. -/
theorem rewriteExports_frame :
    (∃ wrappers blocks,
      (m.rewriteExports preset routeId).1 =
          { m with items := wrappers ++ blocks.flatMap Prod.snd } ∧
        (m.rewriteExports preset routeId).2.wrapped =
          (blocks.flatMap Prod.fst).map Wrapping.entry ∧
        (∀ i ∈ wrappers, ∃ g ∈ preset.groups, ∃ ss, i = importNamed ss (.ofString g.runtimePath)) ∧
        List.Forall₂ (m.Rebuilds preset routeId) m.items blocks) ∧
      (∀ n a, (n, a) ∈ m.moves preset →
        (∃ request what, m.BindsImport n request what) ∧ a ∉ m.names) ∧
      (m.exportNames.Nodup → ∀ n, (m.references preset).apply n = (m.moves preset).apply n) := by
  refine ⟨⟨RouteWrap.wrapperImports preset (m.plans preset).2, m.blocks preset routeId, ?_,
    m.wrapped_rewriteExports preset routeId, ?_, m.rebuilds_blocks preset routeId⟩,
    fun n a moved => ⟨?_, ?_⟩, apply_references⟩
  · rw [← items_rewriteExports]
    rfl
  · intro i wrapper
    obtain ⟨g, grouped, wrapper⟩ := List.mem_flatMap.mp wrapper
    refine ⟨g.1, List.fst_mem_of_mem_zipIdx grouped, ?_⟩
    unfold wrapperImport at wrapper
    split at wrapper
    · exact absurd wrapper List.not_mem_nil
    · exact ⟨_, List.mem_singleton.mp wrapper⟩
  · have source := List.mem_map_of_mem (f := Prod.fst) moved
    exact bindsImport_of_imported (of_mem_moves source).1
  · refine (m.bound_fresh preset).2 a ?_
    have target := List.mem_map_of_mem (f := Prod.snd) moved
    exact List.mem_append_right _ (List.mem_append_right _ target)

end Module

end RouteWrap
