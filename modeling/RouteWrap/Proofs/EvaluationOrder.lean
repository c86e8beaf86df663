import RouteWrap.Proofs.CarriedSteps
import RouteWrap.Proofs.WrapperImports

/-!
Evaluation order. A module is evaluated in order if all that it reads was declared before or is
hoisted. The rewritten module is, as far as the module was, but for two kinds of names: functions
that become constants are not hoisted any more, and a constant may take over a name that is read as
something else.
-/

namespace RouteWrap

theorem forall_split_iff {as : List α} (P : List α → α → Prop) :
    (∀ before a after, as = before ++ a :: after → P before a) ↔
      ∀ i ∈ List.range as.length, ∀ a ∈ as[i]?, P (as.take i) a := by
  constructor
  · intro each i _ a found
    obtain ⟨bounded, rfl⟩ := List.getElem?_eq_some_iff.mp found
    refine each _ _ (as.drop (i + 1)) ?_
    rw [← List.drop_eq_getElem_cons bounded, List.take_append_drop]
  · intro each before a after split
    have found : as[before.length]? = some a := by simp [split]
    have taken : as.take before.length = before := by simp [split]
    rw [← taken]
    refine each _ (List.mem_range.mpr ?_) a found
    simp [split]

namespace Step

def declared (steps : List Step) : List Binding := steps.filterMap binding

/-- Behind `before`, a step reads nothing of what all steps declare that is not declared yet. -/
def InOrder (all before : List Step) : Step → Prop
  | reads u n =>
      answers (declared all) u n →
        answers (declared before ++ (declared all).filter (·.1.isHoisted)) u n
  | declares .. => True
  | early _ => False

instance (all before : List Step) : DecidablePred (InOrder all before)
  | reads _ _ => inferInstanceAs (Decidable (_ → _))
  | declares .. => inferInstanceAs (Decidable True)
  | early _ => inferInstanceAs (Decidable False)

/-- Behind `before`, a read of the name follows a declaration of it, hoisted or not. -/
def Late (n : String) (before : List Step) : Step → Prop
  | reads u k => k = n → answers (declared before) u n
  | _ => True

instance (n : String) (before : List Step) : DecidablePred (Late n before)
  | reads _ _ => inferInstanceAs (Decidable (_ → _))
  | declares .. => inferInstanceAs (Decidable True)
  | early _ => inferInstanceAs (Decidable True)

theorem mem_declared {steps : List Step} {b : Binder} {n : String} :
    (b, n) ∈ declared steps ↔ declares b n ∈ steps := by
  rw [declared, List.mem_filterMap]
  constructor
  · rintro ⟨s, listed, bound⟩
    cases s with
    | declares b' n' =>
        cases bound
        exact listed
    | reads | early => cases bound
  · exact fun listed => ⟨_, listed, rfl⟩

theorem answers_declared {steps : List Step} {b : Binder} {u : Use} {n : String}
    (listed : declares b n ∈ steps) (answered : b.answers u) : answers (declared steps) u n :=
  answers_of_mem (mem_declared.mpr listed) answered

theorem inOrder_of_declared {all before : List Step} {u : Use} {n : String}
    (answered : answers (declared before) u n) : InOrder all before (reads u n) := by
  intro _
  rw [answers_append, answered, Bool.true_or]

theorem inOrder_of_hoisted {all before : List Step} {b : Binder} {u : Use} {n : String}
    (listed : declares b n ∈ all) (hoisted : b.isHoisted) (answered : b.answers u) :
    InOrder all before (reads u n) := by
  intro _
  rw [answers_append, Bool.or_eq_true]
  exact .inr (answers_of_mem (List.mem_filter.mpr ⟨mem_declared.mpr listed, hoisted⟩) answered)

end Step

/-- `export function name() {}` -/
def exportedFunction (name : String) : Item :=
  .exportDeclaration .none (.function
    { span := .none, traits := default, name := some ⟨.none, name⟩, typeParameters := .absent
      parameters := .pat .none .parameters [], result := .absent
      body := some (.expr .none .body []) })

theorem Binder.importValue_answers (u : Use) : Binder.importValue.answers u = true := by
  cases u <;> rfl

namespace Module

def steps (m : Module) : List Step := m.items.flatMap Item.steps

def EvaluatesInOrder (m : Module) : Prop :=
  ∀ before s after, m.steps = before ++ s :: after → s.InOrder m.steps before

def ReadsLate (m : Module) (n : String) : Prop :=
  ∀ before s after, m.steps = before ++ s :: after → s.Late n before

/-- A constant takes over a name that is read as something else: by the module, in which no import
of that name moved, or to be wrapped as another export. -/
def Overlays (m : Module) (preset : Preset) (r : Report) (n : String) : Prop :=
  n ∈ r.constants ∧
    ((n ∉ (m.moves preset).map Prod.fst ∧ ∃ u, .reads u n ∈ m.steps) ∨
      ∃ l s e, .exportList l ∈ m.items ∧ s ∈ l.specifiers ∧ l.request = none ∧
        s.localName.text = n ∧ e ∈ r.wrapped ∧ e.shape = .importReExport ∧
        e.name = s.exported.text ∧ e.name ≠ n)

instance (m : Module) : Decidable m.EvaluatesInOrder :=
  decidable_of_iff _ (forall_split_iff _).symm

instance (m : Module) (n : String) : Decidable (m.ReadsLate n) :=
  decidable_of_iff _ (forall_split_iff _).symm

variable {m : Module} {preset : Preset} {routeId : String}

theorem mem_names_of_reads {u : Use} {n : String} (read : .reads u n ∈ m.steps) : n ∈ m.names := by
  obtain ⟨i, listed, read⟩ := List.mem_flatMap.mp read
  exact Tree.mem_namesList.mpr ⟨i.toTree, List.mem_map_of_mem listed, Tree.mem_names_of_reads read⟩

theorem declares_of_bindsImport {n : String} {request : Request} {what : Imported}
    (binds : m.BindsImport n request what) : .declares .importValue n ∈ m.steps := by
  obtain ⟨d, s, listed, specified, valued, valuedS, -, -, rfl⟩ := binds
  refine List.mem_flatMap.mpr ⟨.imports d, listed, ?_⟩
  rw [Item.steps, Item.toTree, d.steps_toTree]
  exact List.mem_map.mpr ⟨s, specified, by simp [valued, valuedS]⟩

variable (m preset) in
/-- The steps of what is inserted into the module. -/
def Inserts (s : Step) : Prop :=
  (∃ p ∈ (m.plans preset).1, p.Inserts preset s) ∨
    ∃ a ∈ m.wrapperLocals preset, s = .declares .importValue a

theorem inserts_wrapperImports :
    ∀ s ∈ (RouteWrap.wrapperImports preset (m.plans preset).2).flatMap Item.steps,
      m.Inserts preset s := by
  intro s inserted
  rw [RouteWrap.wrapperImports, List.flatMap_assoc] at inserted
  obtain ⟨g, grouped, inserted⟩ := List.mem_flatMap.mp inserted
  unfold wrapperImport at inserted
  split at inserted
  · exact absurd inserted List.not_mem_nil
  · next same =>
    rw [List.flatMap_singleton, Item.steps_importNamed, ← same, List.map_map] at inserted
    obtain ⟨w, bound, rfl⟩ := List.mem_map.mp inserted
    refine .inr ⟨w.2, List.mem_flatMap.mpr ⟨g, grouped, ?_⟩, rfl⟩
    exact List.mem_map_of_mem (f := (·.2)) bound

variable (m preset) in
theorem references_follow : Follows m.bindings (m.moves preset) (m.references preset) := by
  have follows := m.follows_references preset
  rw [references_plans] at follows
  exact follows

theorem avoids_references {names : List String} (named : names ⊆ m.names) :
    (m.references preset).Avoids names := by
  intro n
  by_cases moved : n ∈ (m.moves preset).map Prod.fst
  · refine .inr fun listed => ?_
    have target := List.mem_map_of_mem (f := Prod.snd) ((m.references_follow preset).moved n moved)
    exact (m.bound_fresh preset).2 _
      (List.mem_append_right _ (List.mem_append_right _ target)) (named listed)
  · exact .inl ((m.references_follow preset).kept n moved)

variable (m preset routeId) in
/-- The module's steps are carried over into those of the rewritten module. -/
theorem interleaved_steps :
    Interleaved (Step.Carried (m.moves preset) (m.rewriteExports preset routeId).2.functions)
      (m.Inserts preset) m.steps (m.rewriteExports preset routeId).1.steps := by
  have fits (p : Plan) (planned : p ∈ (m.plans preset).1) := m.for_of_mem_plans planned
  have before : m.steps = (m.plans preset).1.flatMap fun p => p.origin.steps := by
    rw [steps, ← m.origins_plans preset, List.flatMap_map]
  have after : (m.rewriteExports preset routeId).1.steps =
      (RouteWrap.wrapperImports preset (m.plans preset).2).flatMap Item.steps ++
        (m.plans preset).1.flatMap fun p =>
          (p.image (m.references preset) (m.moves preset) (.ofString routeId)).flatMap
            Item.steps := by
    rw [steps, items_rewriteExports, List.flatMap_append, blocks, List.flatMap_map,
      List.flatMap_assoc]
    rfl
  rw [before, after, ← List.nil_append (List.flatMap _ _)]
  refine .append (.of_inserted inserts_wrapperImports) (.flatMap ?_)
  intro p planned
  have named : p.origin.toTree.names ⊆ m.names := by
    intro n named
    exact Tree.mem_namesList.mpr
      ⟨p.origin.toTree, List.mem_map_of_mem (origin_mem_items planned), named⟩
  refine ((fits p planned).interleaved (m.references_follow preset)
    (avoids_references named)).mono ?_ fun s inserted => .inl ⟨p, planned, inserted⟩
  intro s s' carried
  refine carried.mono fun n function => ?_
  rw [functions_rewriteExports]
  exact List.mem_flatMap.mpr ⟨p, planned, function⟩

/-! Whatever is inserted reads imports -/

theorem reported_of_planned {p : Plan} (planned : p ∈ (m.plans preset).1) {e : WrappedExport}
    (reported : e ∈ p.entries preset) : e ∈ (m.rewriteExports preset routeId).2.wrapped := by
  change e ∈ (m.plans preset).2.report.wrapped
  rw [(m.accounts_plans preset).2.entries]
  exact List.mem_flatMap.mpr ⟨p, planned, reported⟩

theorem exists_list_of_planned {p : Plan} (planned : p ∈ (m.plans preset).1) {q : SpecifierPlan}
    (specified : q ∈ p.specifiers) :
    ∃ l, .exportList l ∈ m.items ∧ q.origin ∈ l.specifiers ∧
      SpecifierPlan.For preset (Surface.ofItems m.items) l q.origin q ∧
      q.entries preset ⊆ p.entries preset := by
  have listed := origin_mem_items planned
  have fits := m.for_of_mem_plans planned
  cases p with
  | keep | drop | initial | function => exact absurd specified List.not_mem_nil
  | list l ps =>
      cases fits with
      | list each =>
          obtain ⟨origins, fits⟩ := SpecifierPlan.for_origins each
          refine ⟨l, listed, ?_, fits q specified, fun e reported => ?_⟩
          · rw [← origins]
            exact List.mem_map_of_mem specified
          · exact List.mem_flatMap.mpr ⟨q, specified, reported⟩

theorem declares_wrapperLocal {e : WrappedExport}
    (reported : e ∈ (m.rewriteExports preset routeId).2.wrapped) :
    .declares .importValue e.wrapperLocal ∈ (m.rewriteExports preset routeId).1.steps := by
  obtain ⟨g, i, listed, -, named, entry⟩ := group_of_mem_wrapped reported
  rw [steps, items_rewriteExports, wrapperImports_eq m preset routeId, List.flatMap_append]
  refine List.mem_append_left _ (List.mem_flatMap.mpr ⟨_, List.mem_map.mpr ⟨(g, i), ?_, rfl⟩, ?_⟩)
  · exact List.mem_filter.mpr ⟨listed, by simpa using List.ne_nil_of_mem named⟩
  · rw [Item.steps_importNamed, List.map_map, entry]
    exact List.mem_map.mpr ⟨e.name, named, rfl⟩

theorem declares_requested {p : Plan} (planned : p ∈ (m.plans preset).1) {a : String}
    (imported : a ∈ p.imported) :
    .declares .importValue a ∈ (m.rewriteExports preset routeId).1.steps := by
  have declared := (m.for_of_mem_plans planned).declares_imported imported
    (m.plans preset).2.references (m.plans preset).2.imports (.ofString routeId)
  obtain ⟨i, image, declared⟩ := List.mem_flatMap.mp declared
  exact List.mem_flatMap.mpr ⟨i, image_subset_rewriteExports routeId planned image, declared⟩

theorem declares_of_unmoved {n : String} (imported : n ∈ (Surface.ofItems m.items).imported)
    (unmoved : n ∉ (m.moves preset).map Prod.fst) :
    .declares .importValue n ∈ (m.rewriteExports preset routeId).1.steps := by
  obtain ⟨request, what, binds⟩ := bindsImport_of_imported imported
  have bindsAfter : (m.rewriteExports preset routeId).1.BindsImport _ request what :=
    bindsImport_rewriteExports binds
  rw [Renaming.apply_of_notMem unmoved] at bindsAfter
  exact declares_of_bindsImport bindsAfter

theorem declares_of_moved (exportedOnce : m.exportNames.Nodup) {n a : String}
    (moved : (n, a) ∈ m.moves preset) :
    .declares .importValue a ∈ (m.rewriteExports preset routeId).1.steps := by
  have source := List.mem_map_of_mem (f := Prod.fst) moved
  obtain ⟨request, what, binds⟩ := bindsImport_of_imported (of_mem_moves source).1
  have bindsAfter : (m.rewriteExports preset routeId).1.BindsImport _ request what :=
    bindsImport_rewriteExports binds
  rw [apply_moves_of_mem exportedOnce moved] at bindsAfter
  exact declares_of_bindsImport bindsAfter

theorem inOrder_of_imported {before : List Step} {n : String} (u : Use)
    (imported : .declares .importValue n ∈ m.steps) : Step.InOrder m.steps before (.reads u n) :=
  Step.inOrder_of_hoisted imported rfl (Binder.importValue_answers u)

/-- Reads of what is inserted are of imports. -/
theorem inOrder_of_inserts (exportedOnce : m.exportNames.Nodup) {before : List Step} {s : Step}
    (inserted : m.Inserts preset s)
    (apart : ∀ u n, s = .reads u n → ¬ m.Overlays preset (m.rewriteExports preset routeId).2 n) :
    s.InOrder (m.rewriteExports preset routeId).1.steps before := by
  rcases inserted with ⟨p, planned, inserted⟩ | ⟨a, -, rfl⟩
  · have fits := m.for_of_mem_plans planned
    cases inserted with
    | callee reported =>
        exact inOrder_of_imported _ (declares_wrapperLocal (reported_of_planned planned reported))
    | requested imported => exact inOrder_of_imported _ (declares_requested planned imported)
    | moved move =>
        have moved := List.mem_flatMap.mpr ⟨p, planned, move⟩
        exact inOrder_of_imported _ (declares_of_moved exportedOnce moved)
    | @aliased s source freshName callee specified =>
        obtain ⟨l, listed, exported, fits, entries⟩ := exists_list_of_planned planned specified
        have reported : preset.entry s.exported.text .importReExport callee ∈
            (m.rewriteExports preset routeId).2.wrapped :=
          reported_of_planned planned (entries (List.mem_singleton_self _))
        cases fits with
        | aliased k _ exportedAs recognized valued own named imported renamed free =>
        have taken : source ∉ (m.rewriteExports preset routeId).2.constants := fun constant =>
          apart _ _ rfl ⟨constant, .inr ⟨l, s, _, listed, exported, own,
            congrArg LinkName.text named, reported, rfl, rfl,
            fun same => renamed (same.symm.trans (congrArg LinkName.text exportedAs))⟩⟩
        rw [constants_rewriteExports] at taken
        exact inOrder_of_imported _ (declares_of_unmoved (List.contains_iff_mem.mp imported)
          fun source => taken (of_mem_moves source).2)
    | imports | constant => trivial
  · trivial

/-- What declares a name that the module uses, but for a constant, did so before. -/
theorem declares_of_used {b : Binder} {n : String} (used : n ∈ m.names)
    (constant : n ∉ (m.rewriteExports preset routeId).2.constants)
    (function : n ∉ (m.rewriteExports preset routeId).2.functions)
    (declared : .declares b n ∈ (m.rewriteExports preset routeId).1.steps) :
    .declares b n ∈ m.steps := by
  have fresh (given : n ∈ m.wrapperLocals preset ++
      (m.requested preset ++ (m.moves preset).map Prod.snd)) : False :=
    (m.bound_fresh preset).2 n given used
  simp only [List.mem_append] at fresh
  rcases (m.interleaved_steps preset routeId).extra_or_carried declared with
    inserted | ⟨s, listed, carried⟩
  · rcases inserted with ⟨p, planned, inserted⟩ | ⟨a, bound, same⟩
    -- What is inserted declares aliases, which are fresh, and constants, which are excluded.
    · cases inserted with
      | imports imported =>
          exact (fresh (.inr (.inl (List.mem_flatMap.mpr ⟨p, planned, imported⟩)))).elim
      | constant built =>
          rw [constants_rewriteExports] at constant
          rw [functions_rewriteExports] at function
          rcases built with built | built
          · exact absurd (List.mem_flatMap.mpr ⟨p, planned, built⟩) constant
          · exact absurd (List.mem_flatMap.mpr ⟨p, planned, built⟩) function
    · cases same
      exact (fresh (.inl bound)).elim
  · rcases carried.of_carried_declares fun target => fresh (.inr (.inr target)) with rfl | wrapped
    · exact listed
    · exact absurd wrapped function

/-- An unmoved name that is declared in some steps is declared in those they are carried to. -/
theorem answers_declared_of_interleaved {functions : List String} {P : Step → Prop}
    {steps steps' : List Step} {u : Use} {n : String}
    (carried : Interleaved (Step.Carried (m.moves preset) functions) P steps steps')
    (unmoved : n ∉ (m.moves preset).map Prod.fst) (declared : answers (Step.declared steps) u n) :
    answers (Step.declared steps') u n := by
  obtain ⟨b, listed, answered⟩ := exists_of_answers declared
  obtain ⟨s, listed, carried⟩ := carried.exists_carried (Step.mem_declared.mp listed)
  rcases carried.of_declares unmoved with rfl | ⟨rfl, -, rfl⟩
  · exact Step.answers_declared listed answered
  · refine Step.answers_declared listed ?_
    cases u <;> first | rfl | exact answered

/-- Where a module is evaluated in order, the rewritten one reads a name in order, too, unless the
name is that of a wrapped function that the module reads early, or a constant overlays it. -/
theorem rewriteExports_evaluatesInOrder (exportedOnce : m.exportNames.Nodup)
    (ordered : m.EvaluatesInOrder) {before after : List Step} {s : Step}
    (split : (m.rewriteExports preset routeId).1.steps = before ++ s :: after)
    (late : ∀ u n, s = .reads u n →
      n ∈ (m.rewriteExports preset routeId).2.functions → m.ReadsLate n)
    (apart : ∀ u n, s = .reads u n → ¬ m.Overlays preset (m.rewriteExports preset routeId).2 n) :
    s.InOrder (m.rewriteExports preset routeId).1.steps before := by
  have carriedSteps := m.interleaved_steps preset routeId
  rcases carriedSteps.split split with inserted | ⟨before', s', after', splitM, carried, prior⟩
  · exact inOrder_of_inserts exportedOnce inserted apart
  have orderedHere := ordered before' s' after' splitM
  cases carried with
  | imported | constant => trivial
  | moved move => exact inOrder_of_imported _ (declares_of_moved exportedOnce move)
  | same unmoved =>
      cases s with
      | declares => trivial
      | early n => exact orderedHere
      | reads u n =>
          have unmovedName := unmoved u n rfl
          -- A wrapped function is hoisted no more, so only an earlier declaration answers.
          by_cases function : n ∈ (m.rewriteExports preset routeId).2.functions
          · refine Step.inOrder_of_declared (answers_declared_of_interleaved prior unmovedName ?_)
            exact late u n rfl function before' _ after' splitM rfl
          have read : .reads u n ∈ m.steps := by simp [splitM]
          have constant : n ∉ (m.rewriteExports preset routeId).2.constants := fun constant =>
            apart u n rfl ⟨constant, .inl ⟨unmovedName, u, read⟩⟩
          intro declared
          -- No inserted declaration has the name, so the module's order speaks of this read.
          obtain ⟨b, listed, answered⟩ := exists_of_answers declared
          have listedM := declares_of_used (mem_names_of_reads read) constant function
            (Step.mem_declared.mp listed)
          have found := orderedHere (Step.answers_declared listedM answered)
          rw [answers_append, Bool.or_eq_true] at found
          rcases found with earlier | hoisted
          · exact Step.inOrder_of_declared
              (answers_declared_of_interleaved prior unmovedName earlier) declared
          · obtain ⟨b', listedH, answeredH⟩ := exists_of_answers hoisted
            obtain ⟨listedH, isHoisted⟩ := List.mem_filter.mp listedH
            obtain ⟨s, listedOut, carried⟩ :=
              carriedSteps.exists_carried (Step.mem_declared.mp listedH)
            rcases carried.of_declares unmovedName with rfl | ⟨-, wrapped, -⟩
            · exact Step.inOrder_of_hoisted listedOut isHoisted answeredH declared
            · exact absurd wrapped function

/-- `import { loader } from "./x"; const early = loader; export { loader };
export function action() {} const late = action` -/
def readingExports : Module :=
  .ofItems
    [importNamed [(.name .none "loader", "loader")] (.ofString "./x"),
     .declaration (constDeclaration "early" (.ref .none .value "loader")),
     exportNamed [("loader", "loader")] none,
     exportedFunction "action",
     .declaration (constDeclaration "late" (.ref .none .value "action"))]

theorem readingExports_evaluatesInOrder :
    readingExports.exportNames.Nodup ∧ readingExports.EvaluatesInOrder ∧
      readingExports.ReadsLate "action" ∧
      (readingExports.rewriteExports .dataFunctions "r").1.EvaluatesInOrder := by
  have exportedOnce : readingExports.exportNames.Nodup := by decide
  have ordered : readingExports.EvaluatesInOrder := by decide
  have reads : readingExports.ReadsLate "action" := by decide
  refine ⟨exportedOnce, ordered, reads, fun before s after split => ?_⟩
  refine rewriteExports_evaluatesInOrder exportedOnce ordered split ?_ ?_
  · intro u n _ function
    have functions : (readingExports.rewriteExports .dataFunctions "r").2.functions =
        ["action"] := by decide
    rw [functions, List.mem_singleton] at function
    exact function ▸ reads
  · rintro u n - ⟨constant, overlaid⟩
    have constants : (readingExports.rewriteExports .dataFunctions "r").2.constants =
        ["loader"] := by decide
    rw [constants, List.mem_singleton] at constant
    subst constant
    rcases overlaid with ⟨unmoved, -⟩ | ⟨l, s, e, -, -, -, -, reported, shape, -, other⟩
    · exact unmoved (by decide)
    · have named : ∀ e ∈ (readingExports.rewriteExports .dataFunctions "r").2.wrapped,
          e.shape = .importReExport → e.name = "loader" := by decide
      exact other (named e reported shape)

/-- `const early = loader; export function loader() {}` -/
def readingHoisted : Module :=
  .ofItems
    [.declaration (constDeclaration "early" (.ref .none .value "loader")),
     exportedFunction "loader"]

theorem readingHoisted_not_evaluatesInOrder :
    Preset.dataFunctions.fault? = none ∧ readingHoisted.exportNames.Nodup ∧
      readingHoisted.EvaluatesInOrder ∧
      ¬ (readingHoisted.rewriteExports .dataFunctions "r").1.EvaluatesInOrder := by
  decide

end Module

end RouteWrap
