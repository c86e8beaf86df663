import RouteWrap.Proofs.Unwrapped

/-!
A module in which exports are wrapped, with its route id left open. Its parts are items as they are,
and constants inside the calls of their wrappers. A pass reads nothing of a part that the route id
fills in, so that what it makes of the parts does not depend on the route id either.
-/

namespace RouteWrap

/-- An exported constant, whose value is inside the calls of its wrappers. -/
structure Constant where
  span : Span
  declaration : Span
  kind : VariableKind
  declare : Bool
  declarator : Span
  definite : Bool
  binding : Span
  binder : Binder
  name : String
  ascription : Tree
  /-- From the inside out. -/
  callees : List String
  value : Tree

namespace Constant

def toDeclarator (route : Points) (c : Constant) : Declarator :=
  { span := c.declarator, definite := c.definite, target := .bind c.binding c.binder c.name
    ascription := c.ascription, initial := some (nest route c.callees c.value) }

def toVariable (route : Points) (c : Constant) : VariableDecl :=
  { span := c.declaration, kind := c.kind, declare := c.declare
    declarators := [c.toDeclarator route] }

def item (route : Points) (c : Constant) : Item :=
  .exportDeclaration c.span (.variable (c.toVariable route))

/-- The item that `exportConst` builds around the call of a wrapper, exported at `span`. -/
def plain (span : Span) (name callee : String) (value : Tree) : Constant :=
  { span, declaration := .none, kind := .const, declare := false, declarator := .none
    definite := false, binding := .none, binder := .lexical, name, ascription := .absent
    callees := [callee], value }

def rename (σ : Renaming) (c : Constant) : Constant :=
  { c with ascription := c.ascription.rename σ, value := c.value.rename σ }

def wrap (callee : String) (c : Constant) : Constant :=
  { c with callees := c.callees ++ [callee] }

theorem item_rename {σ : Renaming} {c : Constant} (unmoved : ∀ n ∈ c.callees, n ∉ σ.map Prod.fst)
    (route : Points) : (c.item route).rename σ = (c.rename σ).item route := by
  simp only [item, Item.rename, Declaration.rename, toVariable, VariableDecl.rename, toDeclarator,
    List.map_singleton, Declarator.rename, Option.map_some, Tree.rename_nest unmoved]
  rfl

end Constant

inductive Part
  | plain (i : Item)
  | constant (c : Constant)

namespace Part

def item (route : Points) : Part → Item
  | plain i => i
  | constant c => c.item route

def callees : Part → List String
  | plain _ => []
  | constant c => c.callees

/-- Outside the calls of its wrappers, the part holds no call to `n`. -/
def Uncalled (n : String) : Part → Prop
  | plain i => i.toTree.callsTo [n] = []
  | constant c => c.ascription.callsTo [n] = [] ∧ c.value.callsTo [n] = []

end Part

/-! The parts that take an item's place -/

def SpecifierPlan.parts : SpecifierPlan → List Part
  | keep _ => []
  | reExport s freshName callee | moved s freshName callee =>
      [.constant (.plain .none s.exported.text callee (.ref .none .value freshName))]
  | aliased s source _ callee =>
      [.constant (.plain .none s.exported.text callee (.ref .none .value source))]

def Plan.parts (σ τ : Renaming) : Plan → List Part
  | keep i => [.plain ((i.rename σ).renameImports τ)]
  | drop _ => []
  | initial span d first value callee =>
      match first.target with
      | .bind binding binder name =>
          [.constant
            { span, declaration := d.span, kind := d.kind, declare := d.declare
              declarator := first.span, definite := first.definite, binding, binder, name
              ascription := first.ascription.rename σ, callees := [callee]
              value := value.rename σ }]
      | _ => []
  | function span d name callee =>
      [.constant (.plain span name callee (d.rename σ).toExpression)]
  | list l ps =>
      (requested l ps).map .plain
        ++ [.plain (.exportList { l with specifiers := ps.map (·.specifier σ l.request.isNone) })]
        ++ ps.flatMap SpecifierPlan.parts

theorem SpecifierPlan.constant_parts (route : Points) (p : SpecifierPlan) :
    p.constant route = p.parts.map (Part.item route) := by
  cases p <;> rfl

theorem Plan.For.image_parts {preset : Preset} {surface : Surface} {i : Item} {p : Plan}
    (fits : For preset surface i p) (σ τ : Renaming) (route : Points) :
    p.image σ τ route = (p.parts σ τ).map (Part.item route) := by
  cases fits with
  | keep | drop | function => rfl
  | initial callee only target valued recognized =>
      simp only [image, parts, target]
      rw [List.map_singleton]
      simp [Part.item, Constant.item, Constant.toVariable, Constant.toDeclarator, nest,
        Declarator.rename, target, Tree.rename, Tree.renameUnder]
  | @list l ps each =>
      simp only [image, parts, List.map_append, List.map_map, List.map_singleton, List.map_flatMap]
      congr 1
      · simp [Function.comp_def, Part.item]
      · exact List.flatMap_congr fun q _ => q.constant_parts route

theorem SpecifierPlan.callees_parts (preset : Preset) (p : SpecifierPlan) :
    p.parts.flatMap Part.callees = (p.entries preset).map (·.wrapperLocal) := by
  cases p <;> rfl

section

variable {preset : Preset} {surface : Surface} {i : Item} {p : Plan}

theorem Plan.For.callees_parts (fits : For preset surface i p) (σ τ : Renaming) :
    (p.parts σ τ).flatMap Part.callees = (p.entries preset).map (·.wrapperLocal) := by
  cases fits with
  | keep | drop | function => rfl
  | initial callee only target valued recognized =>
      simp [parts, entries, target, Tree.patternNames, Part.callees, Preset.entry]
  | @list l ps each =>
      have items : ((requested l ps).map Part.plain).flatMap Part.callees = [] :=
        List.flatMap_eq_nil_iff.mpr fun r listed => by
          obtain ⟨i, -, rfl⟩ := List.mem_map.mp listed
          rfl
      rw [parts, List.flatMap_append, List.flatMap_append, items, List.flatMap_singleton,
        List.flatMap_assoc, entries, List.map_flatMap]
      exact List.flatMap_congr fun q _ => q.callees_parts preset

theorem Plan.For.uncalled_parts (fits : For preset surface i p) {n : String}
    (uncalled : i.toTree.callsTo [n] = []) {σ : Renaming}
    (unmoved : ∀ a ∈ σ.map Prod.snd, a ∉ [n]) (τ : Renaming) :
    ∀ r ∈ p.parts σ τ, r.Uncalled n := by
  intro r listed
  cases fits with
  | keep i unlisted kept =>
      obtain rfl := List.mem_singleton.mp listed
      exact Item.callsTo_kept uncalled unmoved τ
  | drop => cases listed
  | initial callee only target valued recognized =>
      rw [Item.callsTo_exportDeclaration, Declaration.toTree, VariableDecl.callsTo_toTree only,
        valued, Option.getD_some, List.append_eq_nil_iff, List.append_eq_nil_iff] at uncalled
      simp only [parts, target, List.mem_singleton] at listed
      obtain rfl := listed
      exact ⟨Tree.callsTo_rename uncalled.1.2 unmoved, Tree.callsTo_rename uncalled.2 unmoved⟩
  | @function span d name callee named bodied real recognized =>
      obtain rfl := List.mem_singleton.mp listed
      refine ⟨rfl, ?_⟩
      change (d.rename σ).toExpression.callsTo [n] = []
      rw [Item.callsTo_exportDeclaration, Declaration.toTree] at uncalled
      rw [FunctionDecl.callsTo_toExpression, d.toTree_rename]
      exact Tree.callsTo_rename uncalled unmoved
  | @list l ps each =>
      rw [parts, List.append_assoc, List.mem_append, List.mem_append, List.mem_singleton] at listed
      rcases listed with requests | rfl | constant
      · obtain ⟨j, requested, rfl⟩ := List.mem_map.mp requests
        obtain ⟨ss, path, rfl⟩ := requested_imports l ps j requested
        exact ImportDecl.callsTo_toTree _
      · exact (ExportList.callsTo_toTree _).trans (l.callsTo_toTree.symm.trans uncalled)
      · obtain ⟨q, -, constant⟩ := List.mem_flatMap.mp constant
        cases q with
        | keep => cases constant
        | reExport | moved | aliased =>
            obtain rfl := List.mem_singleton.mp constant
            exact ⟨rfl, rfl⟩

end

/-! Plans of parts -/

/-- What becomes of a part: a plan for its item, or a constant that is kept or wrapped again. -/
inductive PartPlan
  | plain (p : Plan)
  | kept (c : Constant)
  | wrapped (c : Constant) (callee : String)

namespace PartPlan

def plan (route : Points) : PartPlan → Plan
  | plain p => p
  | kept c => .keep (c.item route)
  | wrapped c callee =>
      .initial c.span (c.toVariable route) (c.toDeclarator route) (nest route c.callees c.value)
        callee

/-- The calls that the part had before. -/
def callees : PartPlan → List String
  | plain _ => []
  | kept c | wrapped c _ => c.callees

def parts (σ τ : Renaming) : PartPlan → List Part
  | plain p => p.parts σ τ
  | kept c => [.constant (c.rename σ)]
  | wrapped c callee => [.constant ((c.rename σ).wrap callee)]

/-- How the walk takes up a part. -/
inductive Of : Part → PartPlan → Prop
  | plain (i : Item) (p : Plan) : Of (.plain i) (.plain p)
  | kept (c : Constant) : Of (.constant c) (.kept c)
  | wrapped (c : Constant) (callee : String) : Of (.constant c) (.wrapped c callee)

theorem Of.callees_eq {p : Part} {q : PartPlan} (of : Of p q) : q.callees = p.callees := by
  cases of <;> rfl

section

variable {preset : Preset} {surface : Surface} {route : Points} {p : Part} {q : PartPlan}
  {σ : Renaming} {n : String}

theorem Of.image_plan (of : Of p q) (fits : Plan.For preset surface (p.item route) (q.plan route))
    (unmoved : ∀ n ∈ p.callees, n ∉ σ.map Prod.fst) (τ : Renaming) :
    (q.plan route).image σ τ route = (q.parts σ τ).map (Part.item route) := by
  cases of with
  | plain i p => exact fits.image_parts σ τ route
  | kept c =>
      change [((c.item route).rename σ).renameImports τ] = [(c.rename σ).item route]
      rw [c.item_rename unmoved]
      rfl
  | wrapped c callee =>
      have value : nest route (c.callees ++ [callee]) (c.value.rename σ) =
          wrapperCall callee ((nest route c.callees c.value).rename σ) route := by
        rw [nest_concat, Tree.rename_nest (show ∀ n ∈ c.callees, _ from unmoved)]
      simp only [parts, List.map_singleton, Part.item, Constant.item, Constant.toVariable,
        Constant.toDeclarator, Constant.wrap, Constant.rename, value]
      rfl

/-- The calls that a walk adds to a part are those that it reports. -/
theorem Of.callees_parts (of : Of p q)
    (fits : Plan.For preset surface (p.item route) (q.plan route)) (σ τ : Renaming) :
    (q.parts σ τ).flatMap Part.callees =
      q.callees ++ ((q.plan route).entries preset).map (·.wrapperLocal) := by
  cases of with
  | plain i p => exact fits.callees_parts σ τ
  | kept c => simp [parts, Part.callees, Constant.rename, callees, plan, Plan.entries]
  | wrapped c callee =>
      simp [parts, Part.callees, Constant.rename, Constant.wrap, callees, plan, Plan.entries,
        Constant.toDeclarator, Tree.patternNames, Preset.entry]

theorem Of.uncalled_parts (of : Of p q)
    (fits : Plan.For preset surface (p.item route) (q.plan route)) (uncalled : p.Uncalled n)
    (unmoved : n ∉ σ.map Prod.snd) (τ : Renaming) : ∀ r ∈ q.parts σ τ, r.Uncalled n := by
  have unmoved' : ∀ a ∈ σ.map Prod.snd, a ∉ [n] := fun a target listed =>
    unmoved (List.mem_singleton.mp listed ▸ target)
  cases of with
  | plain i p => exact fits.uncalled_parts uncalled unmoved' τ
  | kept c | wrapped c callee =>
      intro r listed
      obtain rfl := List.mem_singleton.mp listed
      exact ⟨Tree.callsTo_rename uncalled.1 unmoved', Tree.callsTo_rename uncalled.2 unmoved'⟩

end

end PartPlan

namespace Part

variable (preset : Preset) (surface : Surface)

/-- The walk over an item that fills in a part, with the route id left open. -/
def plan : Part → Planning PartPlan
  | plain i => PartPlan.plain <$> Planning.item preset surface i
  | constant c =>
      if c.declare then do
        Planning.skipVariables preset (c.toVariable []) .missingInitializer
        return .kept c
      else
        match preset.groupIndex c.name with
        | none => return .kept c
        | some group => do
            let callee ← Planning.wrap preset group c.name .variableDeclaration
            return .wrapped c callee

theorem item_eq_plan (route : Points) (p : Part) :
    Planning.item preset surface (p.item route) =
      PartPlan.plan route <$> p.plan preset surface := by
  cases p with
  | plain i => simp [item, plan, PartPlan.plan]
  | constant c =>
      have walk : Planning.item preset surface (item route (constant c)) =
          if c.declare then do
            Planning.skipVariables preset (c.toVariable route) .missingInitializer
            return .keep (c.item route)
          else
            match preset.groupIndex c.name with
            | none => return .keep (c.item route)
            | some group => do
                let callee ← Planning.wrap preset group c.name .variableDeclaration
                return .initial c.span (c.toVariable route) (c.toDeclarator route)
                  (nest route c.callees c.value) callee := rfl
      have names : Planning.skipVariables preset (c.toVariable route) .missingInitializer =
          Planning.skipVariables preset (c.toVariable []) .missingInitializer := rfl
      rw [walk, plan, names]
      split
      · rw [map_bind]
        rfl
      · split
        · rfl
        · rw [map_bind]
          rfl

theorem mapM_item (route : Points) (ps : List Part) :
    (ps.map (item route)).mapM (Planning.item preset surface) =
      List.map (PartPlan.plan route) <$> ps.mapM (plan preset surface) := by
  induction ps with
  | nil => simp
  | cons p ps ih => simp [item_eq_plan, ih]

end Part

/-! What of a part does not depend on its route id -/

theorem names_nest (route : Points) (callees : List String) (value : Tree) :
    (nest route callees value).names = callees.reverse ++ value.names := by
  induction callees generalizing value with
  | nil => rfl
  | cons c cs ih =>
      change (nest route cs (wrapperCall c value route)).names = _
      rw [ih]
      simp [wrapperCall, Tree.names, Tree.namesList]

namespace Part

theorem surface_items (route : Points) (ps : List Part) :
    Surface.ofItems (ps.map (item route)) = Surface.ofItems (ps.map (item [])) := by
  simp only [Surface.ofItems, List.flatMap_map, Surface.mk.injEq]
  refine ⟨List.flatMap_congr fun p _ => ?_, List.flatMap_congr fun p _ => ?_,
    List.flatMap_congr fun p _ => ?_⟩ <;> cases p <;> rfl

theorem names_item (route : Points) (p : Part) :
    (p.item route).toTree.names = (p.item []).toTree.names := by
  cases p with
  | plain i => rfl
  | constant c =>
      simp [item, Constant.item, Item.toTree, Declaration.toTree, Constant.toVariable,
        VariableDecl.toTree, Constant.toDeclarator, Declarator.toTree, Tree.names, Tree.namesList,
        names_nest]

end Part

theorem Tree.namesList_eq_flatMap (ts : List Tree) : namesList ts = ts.flatMap names := by
  induction ts with
  | nil => rfl
  | cons t ts ih => rw [namesList, ih, List.flatMap_cons]

namespace Module

/-- The module with the items that fill in the parts. -/
def ofParts (m : Module) (parts : List Part) (route : Points) : Module :=
  { m with items := parts.map (Part.item route) }

theorem names_ofParts (m : Module) (parts : List Part) (route : Points) :
    (m.ofParts parts route).names = (m.ofParts parts []).names := by
  simp only [Module.names, trees, ofParts, Tree.namesList_eq_flatMap, List.flatMap_map]
  exact List.flatMap_congr fun p _ => p.names_item route

section

variable (m : Module) (parts : List Part) (preset : Preset)

/-- The walk over a module of these parts. -/
def partPlans : List PartPlan × Progress :=
  (parts.mapM (Part.plan preset (Surface.ofItems (m.ofParts parts []).items))).run
    (Progress.initial (m.ofParts parts []))

theorem plans_ofParts (route : Points) :
    (m.ofParts parts route).plans preset =
      ((m.partPlans parts preset).1.map (PartPlan.plan route), (m.partPlans parts preset).2) := by
  have initial : Progress.initial (m.ofParts parts route) = Progress.initial (m.ofParts parts []) := by
    rw [Progress.initial, names_ofParts]
    rfl
  have surface : Surface.ofItems (m.ofParts parts route).items =
      Surface.ofItems (m.ofParts parts []).items := Part.surface_items route parts
  have items : (m.ofParts parts route).items = parts.map (Part.item route) := rfl
  rw [plans, surface, initial, items, Part.mapM_item]
  rfl

/-- The parts that a pass makes of these. -/
def partsAfter : List Part :=
  (RouteWrap.wrapperImports preset (m.partPlans parts preset).2).map .plain
    ++ (m.partPlans parts preset).1.flatMap
      (PartPlan.parts (m.partPlans parts preset).2.references
        (m.partPlans parts preset).2.imports)

end

theorem ensures_plan (preset : Preset) (surface : Surface) (p : Part) :
    Planning.Ensures (fun _ => True) (p.plan preset surface) fun q _ => PartPlan.Of p q := by
  cases p with
  | plain i => exact fun _ _ => .plain i _
  | constant c =>
      rw [Part.plan]
      split
      · exact .bind (.always _) fun _ => .pure fun _ _ => .kept c
      · split
        · exact .pure fun _ _ => .kept c
        · exact .bind (.always _) fun callee => .pure fun _ _ => .wrapped c callee

theorem flatMap_eq_of_forall₂ {f : α → List γ} {g : β → List γ} {as : List α} {bs : List β}
    (each : List.Forall₂ (fun a b => g b = f a) as bs) : bs.flatMap g = as.flatMap f := by
  induction each with
  | nil => rfl
  | cons same _ ih => rw [List.flatMap_cons, List.flatMap_cons, same, ih]

/-- Each part is taken up for itself, whatever the route id. -/
theorem partPlans_of (m : Module) (parts : List Part) (preset : Preset) :
    List.Forall₂ PartPlan.Of parts (m.partPlans parts preset).1 := by
  have step (p : Part) (_ : List PartPlan) :
      Planning.Ensures (fun _ => True)
        (p.plan preset (Surface.ofItems (m.ofParts parts []).items))
        fun q _ => PartPlan.Of p q ∧ True :=
    fun progress _ => ⟨ensures_plan _ _ p progress trivial, trivial⟩
  exact (Planning.Ensures.mapM step parts [] (Progress.initial (m.ofParts parts [])) trivial).1

variable {m : Module} {parts : List Part} {preset : Preset}

theorem exists_part {q : PartPlan} (planned : q ∈ (m.partPlans parts preset).1) (route : Points) :
    ∃ p ∈ parts, PartPlan.Of p q ∧
      Plan.For preset (Surface.ofItems (m.ofParts parts route).items) (p.item route)
        (q.plan route) := by
  have fits := ((m.ofParts parts route).accounts_plans preset).1
  rw [plans_ofParts] at fits
  obtain ⟨length, fits⟩ := List.forall₂_iff_zip.mp
    (List.forall₂_map_right_iff.mp (List.forall₂_map_left_iff.mp fits))
  obtain ⟨-, of⟩ := List.forall₂_iff_zip.mp (m.partPlans_of parts preset)
  have both : List.Forall₂ (fun p q => PartPlan.Of p q ∧
      Plan.For preset (Surface.ofItems (m.ofParts parts route).items) (p.item route)
        (q.plan route)) parts (m.partPlans parts preset).1 :=
    List.forall₂_iff_zip.mpr ⟨length, fun zipped => ⟨of zipped, fits zipped⟩⟩
  exact exists_of_forall₂_right both planned

theorem references_ofParts (m : Module) (parts : List Part) (preset : Preset) (route : Points) :
    (m.ofParts parts route).references preset = (m.partPlans parts preset).2.references := by
  rw [references, ← references_plans, plans_ofParts]

theorem rewriteExports_ofParts {routeId : String}
    (unmoved : ∀ p ∈ parts, ∀ n ∈ p.callees,
      n ∉ (m.partPlans parts preset).2.references.map Prod.fst) :
    (m.ofParts parts (.ofString routeId)).rewriteExports preset routeId =
      (m.ofParts (m.partsAfter parts preset) (.ofString routeId),
        (m.partPlans parts preset).2.report) := by
  let progress := (m.partPlans parts preset).2
  have image (q : PartPlan) (planned : q ∈ (m.partPlans parts preset).1) :
      (q.plan (.ofString routeId)).image progress.references progress.imports (.ofString routeId) =
        (q.parts progress.references progress.imports).map (Part.item (.ofString routeId)) := by
    obtain ⟨p, listed, of, fits⟩ := exists_part planned (.ofString routeId)
    exact of.image_plan fits (unmoved p listed) _
  have items : RouteWrap.wrapperImports preset progress ++
      ((m.partPlans parts preset).1.map (PartPlan.plan (.ofString routeId))).flatMap
        (Plan.image progress.references progress.imports (.ofString routeId)) =
      (m.partsAfter parts preset).map (Part.item (.ofString routeId)) := by
    rw [List.flatMap_map, List.flatMap_congr image, partsAfter, List.map_append, List.map_map,
      List.map_flatMap]
    congr 1
    exact (List.map_id _).symm
  rw [rewriteExports, plans_ofParts]
  exact congrArg (fun items => ({ m with items }, progress.report)) items

end Module

end RouteWrap
