import RouteWrap.Proofs.Planning
import RouteWrap.Proofs.Tally

/-!
What the images of a module's items declare and export, against the items themselves. An image
declares the imports its list requests and a constant for each wrapped specifier; it exports an
alias for each of these, and a wrapped function is no function any more.
-/

namespace RouteWrap

namespace Report

/-- Names of the exports that a constant behind their list took over. -/
def constants (r : Report) : List String :=
  (r.wrapped.filter fun w => w.shape == .reExport || w.shape == .importReExport).map (·.name)

/-- Names of the functions that became constants. -/
def functions (r : Report) : List String :=
  (r.wrapped.filter fun w => w.shape == .functionDeclaration).map (·.name)

end Report

theorem forall₂_flatMap {R : β → γ → Prop} {f : α → List β} {g : α → List γ}
    {as : List α} (each : ∀ a ∈ as, List.Forall₂ R (f a) (g a)) :
    List.Forall₂ R (as.flatMap f) (as.flatMap g) := by
  induction as with
  | nil => exact .nil
  | cons a as ih =>
      rw [List.forall_mem_cons] at each
      exact List.rel_append each.1 (ih each.2)

/-- Where the second part determines the first, the list of the first parts is determined. -/
theorem forall₂_origins {R : α → β → Prop} {origin : β → α} {as : List α} {bs : List β}
    (determined : ∀ a b, R a b → origin b = a) (related : List.Forall₂ R as bs) :
    bs.map origin = as ∧ ∀ b ∈ bs, R (origin b) b := by
  induction related with
  | nil => simp
  | cons related _ ih =>
      rw [List.map_cons, List.forall_mem_cons, determined _ _ related, ih.1]
      exact ⟨rfl, related, ih.2⟩

namespace SpecifierPlan

def origin : SpecifierPlan → ExportSpecifier
  | keep s | reExport s _ _ | moved s _ _ | aliased s _ _ _ => s

def constants : SpecifierPlan → List String
  | keep _ => []
  | reExport s _ _ | moved s _ _ | aliased s _ _ _ => [s.exported.text]

variable {preset : Preset} {surface : Surface}

theorem For.origin_eq {l : ExportList} {s : ExportSpecifier} {p : SpecifierPlan}
    (fits : For preset surface l s p) : p.origin = s := by
  cases fits <;> rfl

theorem for_origins {l : ExportList} {ss : List ExportSpecifier} {ps : List SpecifierPlan}
    (fits : List.Forall₂ (For preset surface l) ss ps) :
    ps.map origin = ss ∧ ∀ p ∈ ps, For preset surface l p.origin p :=
  forall₂_origins (fun _ _ fits => fits.origin_eq) fits

/-- Each constant takes over its name from one alias that is built on it. -/
theorem For.aliases_candidates {l : ExportList} {s : ExportSpecifier} {p : SpecifierPlan}
    (fits : For preset surface l s p) :
    List.Forall₂ (fun e a => ∃ k, a = FreshNames.candidate (FreshNames.stem e) k) p.constants
      p.aliases := by
  cases fits with
  | keep => exact .nil
  | reExport k callee exported | moved k callee exported | aliased k callee exported =>
      simp only [constants, aliases, exported, LinkName.text]
      exact .cons ⟨k, rfl⟩ .nil

/-- An alias names what its list requests or what an import moves to, or nothing in the module. -/
theorem bound_sublist_aliases (p : SpecifierPlan) :
    (p.imported.map (·.2) ++ p.moves.map (·.2)).Sublist p.aliases := by
  cases p with
  | keep | reExport | moved => exact List.Sublist.refl _
  | aliased => exact List.nil_sublist _

theorem name_of_mem_entries {p : SpecifierPlan} {e : WrappedExport}
    (reported : e ∈ p.entries preset) : e.name = p.origin.exported.text := by
  cases p with
  | keep => exact absurd reported List.not_mem_nil
  | reExport | moved | aliased =>
      rw [List.mem_singleton.mp reported]
      rfl

theorem For.exported_of_moved {l : ExportList} {s s' : ExportSpecifier}
    {freshName callee : String} (fits : For preset surface l s (.moved s' freshName callee)) :
    s'.exported.text = s'.localName.text := by
  cases fits with
  | moved k callee exported recognized valued own named imported => rw [exported, named]; rfl

theorem For.of_mem_moves {l : ExportList} {s : ExportSpecifier} {p : SpecifierPlan}
    (fits : For preset surface l s p) :
    ∀ move ∈ p.moves, move.1 ∈ surface.imported ∧ move.1 ∈ p.constants := by
  cases fits with
  | moved k callee exported recognized valued own named imported =>
      simpa [moves, constants, exported, named, LinkName.text, Surface.imports] using imported
  | _ => simp [moves]

theorem exportConst_mem_constant {p : SpecifierPlan} {n : String} (constant : n ∈ p.constants)
    (route : Points) :
    ∃ callee target,
      exportConst n (wrapperCall callee (.ref .none .value target) route) ∈ p.constant route := by
  cases p with
  | keep => exact absurd constant List.not_mem_nil
  | reExport | moved | aliased =>
      rw [constants, List.mem_singleton] at constant
      subst constant
      exact ⟨_, _, List.mem_singleton_self _⟩

/-- An import that is exported again is wrapped under its alias if it moves, else as it was. -/
theorem For.constant_of_mem_entries {l : ExportList} {s : ExportSpecifier} {p : SpecifierPlan}
    {e : WrappedExport} (fits : For preset surface l s p) (reported : e ∈ p.entries preset)
    (shape : e.shape = .importReExport) (route : Points) :
    s.localName.text ∈ surface.imported ∧
      ∃ target,
        exportConst e.name (wrapperCall e.wrapperLocal (.ref .none .value target) route) ∈
            p.constant route ∧
          if s.localName.text = e.name then (e.name, target) ∈ p.moves
          else target = s.localName.text := by
  cases fits with
  | keep => exact absurd reported List.not_mem_nil
  | reExport k callee exported =>
      rw [List.mem_singleton.mp reported] at shape
      cases shape
  | @moved span inner n k callee exported recognized valued own named imported =>
      rw [List.mem_singleton.mp reported]
      simp only [Preset.entry, exported, named, LinkName.text, if_pos]
      refine ⟨List.contains_iff_mem.mp imported, FreshNames.candidate (FreshNames.stem n) k, ?_, ?_⟩
      · simp only [constant, exported, LinkName.text, List.mem_singleton]
      · simp only [moves, named, LinkName.text, List.mem_singleton]
  | @aliased span inner n source k callee exported recognized valued own named imported renamed
      free =>
      rw [List.mem_singleton.mp reported]
      simp only [Preset.entry, exported, named, LinkName.text, if_neg renamed]
      refine ⟨List.contains_iff_mem.mp imported, source, ?_, rfl⟩
      simp only [constant, exported, LinkName.text, List.mem_singleton]

end SpecifierPlan

namespace Plan

def origin : Plan → Item
  | keep i | drop i => i
  | initial span d _ _ _ => .exportDeclaration span (.variable d)
  | function span d _ _ => .exportDeclaration span (.function d)
  | list l _ => .exportList l

/-- Local names of what a list requests from the module it names. -/
def imported (p : Plan) : List String :=
  (p.specifiers.flatMap SpecifierPlan.imported).map (·.2)

def constants (p : Plan) : List String := p.specifiers.flatMap SpecifierPlan.constants

def functions : Plan → List String
  | function _ _ name _ => [name]
  | _ => []

variable {preset : Preset} {surface : Surface}

theorem For.origin_eq {i : Item} {p : Plan} (fits : For preset surface i p) : p.origin = i := by
  cases fits <;> rfl

theorem for_origins {is : List Item} {ps : List Plan}
    (fits : List.Forall₂ (For preset surface) is ps) :
    ps.map origin = is ∧ ∀ p ∈ ps, For preset surface p.origin p :=
  forall₂_origins (fun _ _ fits => fits.origin_eq) fits

theorem For.aliases_candidates {i : Item} {p : Plan} (fits : For preset surface i p) :
    List.Forall₂ (fun e a => ∃ k, a = FreshNames.candidate (FreshNames.stem e) k) p.constants
      p.aliases := by
  cases fits with
  | list each =>
      exact forall₂_flatMap fun p planned =>
        ((SpecifierPlan.for_origins each).2 p planned).aliases_candidates
  | _ => exact .nil

theorem For.for_of_mem_specifiers {i : Item} {p : Plan} (fits : For preset surface i p)
    {q : SpecifierPlan} (planned : q ∈ p.specifiers) :
    ∃ l, SpecifierPlan.For preset surface l q.origin q := by
  cases fits with
  | list each => exact ⟨_, (SpecifierPlan.for_origins each).2 q planned⟩
  | _ => exact absurd planned List.not_mem_nil

theorem For.of_mem_moves {i : Item} {p : Plan} (fits : For preset surface i p) :
    ∀ move ∈ p.moves, move.1 ∈ surface.imported ∧ move.1 ∈ p.constants := by
  intro move moved
  obtain ⟨q, planned, moved⟩ := List.mem_flatMap.mp moved
  obtain ⟨l, fits⟩ := fits.for_of_mem_specifiers planned
  exact (fits.of_mem_moves move moved).imp_right fun constant =>
    List.mem_flatMap.mpr ⟨q, planned, constant⟩

theorem constant_subset_image {p : Plan} {q : SpecifierPlan} (planned : q ∈ p.specifiers)
    (σ τ : Renaming) (route : Points) : q.constant route ⊆ p.image σ τ route := by
  cases p with
  | list l ps =>
      intro i constant
      exact List.mem_append_right _ (List.mem_flatMap.mpr ⟨q, planned, constant⟩)
  | _ => exact absurd planned List.not_mem_nil

theorem For.exported_sublist {i : Item} {p : Plan} (fits : For preset surface i p) :
    (p.specifiers.map (·.origin.exported.text)).Sublist i.exports.definite := by
  cases fits with
  | list each =>
      obtain ⟨origins, -⟩ := SpecifierPlan.for_origins each
      change List.Sublist _ (List.map _ _)
      rw [← origins, List.map_map]
      exact List.Sublist.refl _
  | _ => exact List.nil_sublist _

theorem exists_specifier_of_mem_entries {p : Plan} {e : WrappedExport}
    (reported : e ∈ p.entries preset) (shape : e.shape = .importReExport) :
    ∃ q ∈ p.specifiers, e ∈ q.entries preset := by
  cases p with
  | keep | drop => exact absurd reported List.not_mem_nil
  | initial span d first value callee =>
      obtain ⟨n, -, rfl⟩ := List.mem_map.mp reported
      cases shape
  | function span d name callee =>
      rw [entries, List.mem_singleton] at reported
      subst reported
      cases shape
  | list l ps => exact List.mem_flatMap.mp reported

theorem constants_entries (preset : Preset) (p : Plan) :
    (Report.constants ⟨p.entries preset, []⟩) = p.constants := by
  have each (s : SpecifierPlan) :
      Report.constants ⟨s.entries preset, []⟩ = s.constants := by
    cases s <;> rfl
  cases p with
  | initial span d first value callee =>
      simp [Report.constants, entries, constants, specifiers, List.filter_map, Function.comp_def,
        Preset.entry]
  | list l ps =>
      simp only [Report.constants, entries, constants, specifiers] at each ⊢
      simp only [List.filter_flatMap, List.map_flatMap, each]
  | _ => rfl

theorem functions_entries (preset : Preset) (p : Plan) :
    Report.functions ⟨p.entries preset, []⟩ = p.functions := by
  have each (s : SpecifierPlan) : Report.functions ⟨s.entries preset, []⟩ = [] := by
    cases s <;> rfl
  cases p with
  | initial span d first value callee =>
      simp [Report.functions, entries, functions, List.filter_map, Function.comp_def,
        Preset.entry]
  | list l ps =>
      simp only [Report.functions, entries, functions] at each ⊢
      simp only [List.filter_flatMap, List.map_flatMap, each, List.flatMap_eq_nil_iff,
        implies_true]
  | _ => rfl

end Plan

/-- A signature that is dropped because its function is exported, too. -/
def Item.isOverload (preset : Preset) (surface : Surface) : Item → Bool
  | .exportDeclaration _ (.function d) => Planning.isOverload preset surface d
  | _ => false

/-! What images declare and export -/

theorem Tree.escaping_wrapperCall (callee : String) (target : Tree) (route : Points) :
    (wrapperCall callee target route).escaping = target.escaping := by
  simp [wrapperCall, Tree.escaping, Tree.escapingList, Form.keeps, Form.scope]

theorem Tree.escaping_constDeclaration (name : String) (value : Tree) :
    (constDeclaration name value).toTree.escaping = (.lexical, name) :: value.escaping := by
  simp [constDeclaration, Declaration.toTree, VariableDecl.toTree, Declarator.toTree,
    Tree.escaping, Tree.escapingList, Form.keeps, Form.scope]

/-- Nothing that a function binds inside is visible outside, except what its types infer. -/
theorem FunctionDecl.escaping_toExpression (d : FunctionDecl) :
    ∀ b ∈ d.toExpression.escaping, b.1 = .inferred := by
  rintro ⟨kind, name⟩ escapes
  simp only [toExpression, Tree.escaping, Tree.escapingList, Form.keeps, Form.scope,
    List.append_nil, List.mem_filter, Bool.not_eq_true', List.mem_append] at escapes
  obtain ⟨inside, passes⟩ := escapes
  rcases inside with own | called
  · cases named : d.name with
    | none => simp [binding, named, Tree.escaping] at own
    | some n =>
        simp only [binding, named, Tree.escaping, List.mem_singleton, Prod.mk.injEq] at own
        rw [own.1] at passes
        cases passes
  · have open_ : Scope.function.keeps kind = false := by
      simp only [callable, Tree.escaping, Form.keeps, Form.scope, List.mem_filter] at called
      simpa using called.2
    cases kind <;> first | rfl | cases open_

theorem Declaration.tally_constDeclaration {kinds : Binder → Bool} {name : String} {value : Tree}
    (lexical : kinds .lexical) (hidden : ∀ b ∈ value.escaping, kinds b.1 = false) :
    (constDeclaration name value).tally kinds = .definitely [name] := by
  have none : value.escaping.filter (fun b => kinds b.1) = [] := by
    simpa [List.filter_eq_nil_iff] using hidden
  change Tally.definitely (Tree.bound kinds (constDeclaration name value).toTree) = _
  rw [Tree.bound, Tree.escaping_constDeclaration, List.filter_cons_of_pos (by simpa using lexical),
    none]
  rfl

/-- A way to tally items in which exported declarations count in full, renaming counts only where
it is of imports, and imports and lists sign nothing. -/
structure Item.Reading (tally : Item → Tally) (kinds : Binder → Bool) : Prop where
  exported : ∀ span d, tally (.exportDeclaration span d) = d.tally kinds
  renamed : ∀ σ τ (i : Item), tally ((i.rename σ).renameImports τ) = tally (i.renameImports τ)
  signed : ∀ τ (i : Item), (tally (i.renameImports τ)).signatures = (tally i).signatures
  imports : ∀ d, (tally (.imports d)).signatures = []
  lists : ∀ l, (tally (.exportList l)).signatures = []
  lexical : kinds .lexical
  inferred : kinds .inferred = false

theorem Item.reading_values : Item.Reading Item.values Binder.declaresValue where
  exported := fun _ _ => rfl
  renamed := fun σ τ i => i.values_rename_renameImports σ τ
  signed := fun τ i => by cases i <;> rfl
  imports := fun _ => rfl
  lists := fun _ => rfl
  lexical := rfl
  inferred := rfl

theorem Item.reading_exports : Item.Reading Item.exports (· != .inferred) where
  exported := fun _ _ => rfl
  renamed := fun σ τ i => by simp only [Item.exports_renameImports, Item.exports_rename]
  signed := fun τ i => congrArg Tally.signatures (i.exports_renameImports τ)
  imports := fun _ => rfl
  lists := fun _ => rfl
  lexical := rfl
  inferred := rfl

theorem Item.Reading.exportConst {tally : Item → Tally} {kinds : Binder → Bool}
    (reading : Item.Reading tally kinds) (route : Points) (name callee target : String) :
    tally (exportConst name (wrapperCall callee (.ref .none .value target) route)) =
      .definitely [name] :=
  (reading.exported _ _).trans (Declaration.tally_constDeclaration reading.lexical
    (by simp [Tree.escaping_wrapperCall, Tree.escaping]))

theorem Item.values_importNamed (specifiers : List (LinkName × String)) (path : Points) :
    (importNamed specifiers path).values = .definitely (specifiers.map (·.2)) := by
  simp [importNamed, Item.values, ImportDecl.valueNames, List.filter_map, Function.comp_def]

theorem SpecifierPlan.total_constant {tally : Item → Tally} {kinds : Binder → Bool}
    (reading : Item.Reading tally kinds) (route : Points) (ps : List SpecifierPlan) :
    Tally.total tally (ps.flatMap (·.constant route)) =
      .definitely (ps.flatMap SpecifierPlan.constants) := by
  have one (p : SpecifierPlan) :
      Tally.total tally (p.constant route) = .definitely p.constants := by
    cases p <;> simp [Tally.total, constant, constants, reading.exportConst, Tally.definitely]
  rw [Tally.total_flatMap, funext one, Tally.total_definitely]

namespace Plan

variable {preset : Preset} {surface : Surface}

theorem total_values_requested {l : ExportList} {ps : List SpecifierPlan}
    (each : List.Forall₂ (SpecifierPlan.For preset surface l) l.specifiers ps) :
    Tally.total Item.values (requested l ps) =
      .definitely ((ps.flatMap SpecifierPlan.imported).map (·.2)) := by
  unfold requested
  split
  · simp [Tally.total, Item.values_importNamed, Tally.definitely, *]
  · next unrequested =>
    have nothing : ps.flatMap SpecifierPlan.imported = [] := by
      rw [List.flatMap_eq_nil_iff]
      intro p planned
      have fits := (SpecifierPlan.for_origins each).2 p planned
      generalize p.origin = s at fits
      cases request : l.request with
      | none =>
          cases fits with
          | reExport k callee exported recognized valued requested =>
              simp [request] at requested
          | _ => rfl
      | some r =>
          cases wanted : ps.flatMap SpecifierPlan.imported with
          | nil => exact List.flatMap_eq_nil_iff.mp wanted p planned
          | cons s ss => exact absurd wanted (unrequested r s ss request)
    rw [nothing]
    rfl

theorem total_exports_requested (l : ExportList) (ps : List SpecifierPlan) :
    Tally.total Item.exports (requested l ps) = .empty := by
  unfold requested
  split <;> rfl

theorem tally_initial {kinds : Binder → Bool} {d : VariableDecl} {first : Declarator}
    {value : Tree} (σ : Renaming) (route : Points) (callee : String)
    (only : d.declarators = [first]) (valued : first.initial = some value) :
    (Declaration.variable { d with
        declarators := [{ first.rename σ with
          initial := some (wrapperCall callee (value.rename σ) route) }] }).tally kinds =
      (Declaration.variable d).tally kinds := by
  simp [Declaration.tally, Tree.bound, Declaration.toTree, VariableDecl.toTree, only, valued,
    Declarator.toTree, Declarator.rename, Tree.escaping, Tree.escapingList,
    Tree.escaping_wrapperCall]

variable {kinds : Binder → Bool}

theorem gains_drop (kinds : Binder → Bool) {d : FunctionDecl}
    (overload : Planning.isOverload preset surface d) :
    Tally.Gains surface.implemented ((Declaration.function d).tally kinds) .empty [] [] := by
  have bodiless : d.body = none := by
    simp only [Planning.isOverload, Bool.and_eq_true, Option.isNone_iff_eq_none] at overload
    exact overload.1.1
  have implemented : ∀ n ∈ (d.name.map Name.text).toList, n ∈ surface.implemented := by
    intro n named
    simp only [Option.mem_toList, Option.map_eq_some_iff] at named
    obtain ⟨name, named, rfl⟩ := named
    simp only [Planning.isOverload, named, Option.any_some, Bool.and_eq_true,
      Surface.implements, List.contains_iff_mem] at overload
    exact overload.2.2
  have signature : (Declaration.function d).tally kinds =
      ⟨[], (d.name.map Name.text).toList, []⟩ := by
    simp [Declaration.tally, FunctionDecl.tally, Tally.function, bodiless]
  rw [signature]
  exact ⟨List.Perm.refl _, List.nil_subset _, fun n signed => .inr (implemented n signed),
    List.Perm.refl _⟩

theorem gains_function {d : FunctionDecl} {n : Name} (σ : Renaming) (route : Points)
    (callee : String) (lexical : kinds .lexical) (inferred : kinds .inferred = false)
    (named : d.name = some n) (bodied : d.body.isSome) :
    Tally.Gains surface.implemented ((Declaration.function d).tally kinds)
      ((constDeclaration n.text (wrapperCall callee (d.rename σ).toExpression route)).tally kinds)
      [] [n.text] := by
  have implementation : (Declaration.function d).tally kinds = ⟨[n.text], [], [n.text]⟩ := by
    simp [Declaration.tally, FunctionDecl.tally, Tally.function, named, bodied]
  have hidden (b : Binding)
      (escapes : b ∈ (wrapperCall callee (d.rename σ).toExpression route).escaping) :
      kinds b.1 = false := by
    rw [Tree.escaping_wrapperCall] at escapes
    rw [FunctionDecl.escaping_toExpression _ b escapes]
    exact inferred
  rw [implementation, Declaration.tally_constDeclaration lexical hidden]
  exact ⟨List.Perm.refl _, List.Subset.refl _, by simp, List.Perm.refl _⟩

section Reading

variable {tally : Item → Tally} {i : Item} {p : Plan} {σ τ : Renaming} {route : Points}

/-- A declaration is tallied in its image as it was, but for functions that become constants.
What a list gains is for its reading to say. -/
theorem For.gains (fits : For preset surface i p) (reading : Item.Reading tally kinds)
    (added : Plan → List String) (unlisted : ∀ p, p.specifiers = [] → added p = [])
    (listed : ∀ l ps, List.Forall₂ (SpecifierPlan.For preset surface l) l.specifiers ps →
      Tally.Gains surface.implemented (tally (.exportList l))
        (Tally.total tally ((Plan.list l ps).image σ τ route)) (added (.list l ps)) []) :
    Tally.Gains surface.implemented (tally (i.renameImports τ))
      (Tally.total tally (p.image σ τ route)) (added p) p.functions := by
  have before (span : Span) (d : Declaration) :
      tally ((Item.exportDeclaration span d).renameImports τ) = d.tally kinds :=
    reading.exported span d
  cases fits with
  | keep i _ kept =>
      rw [unlisted _ rfl, image, Tally.total_singleton, reading.renamed]
      exact .refl _
  | drop overload =>
      rw [unlisted _ rfl, before]
      exact gains_drop kinds overload
  | @initial span inner binder name d first value callee only target valued recognized =>
      rw [unlisted _ rfl, before, image, Tally.total_singleton, reading.exported,
        tally_initial σ route callee only valued]
      exact .refl _
  | function callee named bodied real recognized =>
      rw [unlisted _ rfl, before, image, Tally.total_singleton, reading.exported]
      exact gains_function σ route callee reading.lexical reading.inferred named bodied
  | @list l ps each => exact listed l ps each

end Reading

theorem For.gains_values {i : Item} {p : Plan} (fits : For preset surface i p) (σ τ : Renaming)
    (route : Points) :
    Tally.Gains surface.implemented (i.renameImports τ).values
      (Tally.total Item.values (p.image σ τ route)) (p.imported ++ p.constants) p.functions := by
  refine fits.gains Item.reading_values (fun p => p.imported ++ p.constants)
    (fun p none => by simp [imported, constants, none]) fun l ps each => ?_
  rw [image, Tally.total_append, Tally.total_append, total_values_requested each,
    SpecifierPlan.total_constant Item.reading_values]
  refine ⟨?_, List.nil_subset _, fun _ signed => absurd signed List.not_mem_nil,
    List.Perm.refl _⟩
  exact List.Perm.of_eq (by
    simp [imported, constants, specifiers, Tally.definitely, Tally.empty, Tally.total,
      Item.values])

theorem For.gains_exports {i : Item} {p : Plan} (fits : For preset surface i p) (σ τ : Renaming)
    (route : Points) :
    Tally.Gains surface.implemented i.exports (Tally.total Item.exports (p.image σ τ route))
      p.aliases p.functions := by
  rw [← Item.exports_renameImports τ]
  refine fits.gains Item.reading_exports aliases (fun p none => by simp [aliases, none])
    fun l ps each => ?_
  obtain ⟨origins, -⟩ := SpecifierPlan.for_origins each
  rw [image, Tally.total_append, Tally.total_append, total_exports_requested,
    SpecifierPlan.total_constant Item.reading_exports, Tally.total_singleton]
  refine ⟨?_, List.nil_subset _, fun _ signed => absurd signed List.not_mem_nil,
    List.Perm.refl _⟩
  let exported (p : SpecifierPlan) : String := (p.specifier σ l.request.isNone).exported.text
  -- The alias takes the name's place in the list, and the constant behind it has the name.
  have one (p : SpecifierPlan) :
      [exported p] ++ p.constants = p.aliases ++ [p.origin.exported.text] := by
    cases p with
    | keep s =>
        cases own : l.request.isNone <;>
          simp [exported, SpecifierPlan.specifier, own, SpecifierPlan.constants,
            SpecifierPlan.aliases, SpecifierPlan.origin]
    | _ => rfl
  have listed := List.flatMap_append_perm ps (fun p => [exported p]) SpecifierPlan.constants
  rw [List.flatMap_congr fun p _ => one p] at listed
  have added := List.flatMap_append_perm ps SpecifierPlan.aliases
    fun p => [p.origin.exported.text]
  rw [← List.map_eq_flatMap] at listed added
  simpa [exported, aliases, specifiers, Tally.definitely, Tally.empty, Item.exports, ← origins,
    Function.comp_def] using listed.trans added.symm

/-! Signatures -/

theorem isOverload_of_body {d : FunctionDecl} (bodied : d.body.isSome) :
    Planning.isOverload preset surface d = false := by
  simp [Planning.isOverload, Option.isNone_eq_false_iff.mpr bodied]

theorem For.isOverload_kept {i : Item} (fits : For preset surface i (.keep i)) :
    i.isOverload preset surface = false := by
  cases fits with
  | keep _ unlisted kept =>
      unfold Item.isOverload
      split
      · exact kept _ _ rfl
      · rfl

theorem For.signatures_image {tally : Item → Tally} {i : Item} {p : Plan}
    (fits : For preset surface i p) (reading : Item.Reading tally kinds) (σ τ : Renaming)
    (route : Points) :
    (Tally.total tally (p.image σ τ route)).signatures =
      if i.isOverload preset surface then [] else (tally i).signatures := by
  cases fits with
  | keep i unlisted kept =>
      rw [(For.keep i unlisted kept).isOverload_kept, image, Tally.total_singleton,
        reading.renamed, reading.signed]
      rfl
  | drop overload =>
      rw [Item.isOverload, if_pos overload]
      rfl
  | initial callee only target valued recognized =>
      rw [image, Tally.total_singleton, reading.exported, reading.exported]
      rfl
  | @function span d n callee named bodied real recognized =>
      rw [Item.isOverload, isOverload_of_body bodied, image, Tally.total_singleton,
        reading.exported, reading.exported]
      simp [Declaration.tally, FunctionDecl.tally, Tally.function, bodied, constDeclaration,
        Tally.definitely]
  | @list l ps each =>
      have requested : (Tally.total tally (requested l ps)).signatures = [] := by
        unfold requested
        split
        · rw [Tally.total_singleton, importNamed, reading.imports]
        · rfl
      rw [image, Tally.total_append, Tally.total_append, SpecifierPlan.total_constant reading,
        Tally.total_singleton, Tally.signatures_append, Tally.signatures_append, requested,
        reading.lists, reading.lists, ite_self]
      rfl

end Plan

end RouteWrap
