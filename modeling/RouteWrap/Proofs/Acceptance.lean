import Mathlib
import RouteWrap.Proofs.ExportFaults
import RouteWrap.Proofs.Unwrapped

/-!
Whether the text that a stack of presets prints is read again. A rewrite puts items together from
what the module holds and from names that can be bound anywhere, so that the grammar admits them.
It is taken as given that such a module, printed and read again, exports what it did, and that
nothing but what it exports twice is at fault. The presets add nothing to that but an alias that
is exported already.
-/

namespace RouteWrap

namespace Identifier

instance (first rest : Char → Bool) (name : String) : Decidable (Spells first rest name) :=
  decidable_of_iff (name.toList.head?.any first && name.toList.tail.all rest) <| by
    unfold Spells
    cases name.toList with
    | nil => simp
    | cons c cs => simp

instance (name : String) : Decidable (IsName name) :=
  inferInstanceAs (Decidable (Spells startsName continuesName name))

/-- A name that can be bound anywhere: it is no word of the language. -/
def Bindable (name : String) : Prop := IsName name ∧ Kind.ofName name = .identifier

instance (name : String) : Decidable (Bindable name) :=
  inferInstanceAs (Decidable (_ ∧ _))

theorem bindable_candidate (k : Nat) {base : String} (named : IsName base) :
    Bindable (FreshNames.candidate (FreshNames.stem base) k) :=
  ⟨FreshNames.isName_candidate k named, FreshNames.ofName_candidate _ k⟩

end Identifier

open Identifier (Bindable bindable_candidate)

namespace Preset

/-- Exports and wrappers can be bound, and no export is named as an alias. -/
def Binds (preset : Preset) : Prop :=
  ∀ g ∈ preset.groups, ∀ n ∈ g.exports,
    Bindable n ∧ Bindable (preset.wrapperName n) ∧ isMarked n = false

instance (preset : Preset) : Decidable preset.Binds :=
  inferInstanceAs (Decidable (∀ g ∈ _, ∀ n ∈ _, _))

theorem binds_standard {preset : Preset} (standard : preset ∈ [dataFunctions, context]) :
    preset.Binds := by
  have binds : ∀ preset ∈ [dataFunctions, context], preset.Binds := by decide +kernel
  exact binds preset standard

theorem Binds.of_recognizes {preset : Preset} (binds : preset.Binds) {n : String}
    (recognized : preset.recognizes n) :
    Bindable n ∧ Bindable (preset.wrapperName n) ∧ isMarked n = false := by
  obtain ⟨g, grouped, lists⟩ := exists_group_of_recognizes recognized
  exact binds g grouped n lists

end Preset

/-! What the grammar admits -/

/-- Another specifier of the same list, with names put for names. -/
def ExportSpecifier.Renamed (before after : ExportSpecifier) : Prop :=
  ∃ localName exported, after = { before with localName, exported } ∧
    (localName = before.localName ∨ ∃ span n, localName = .name span n ∧ Bindable n) ∧
    (exported = before.exported ∨ ∃ span n, exported = .name span n ∧ Bindable n)

/-- The items that the grammar admits where it admits the given ones. They are put together from
what those hold and from names that can be bound. -/
inductive Item.Admitted (given : List Item) : Item → Prop
  | given {i : Item} (listed : i ∈ given) : Item.Admitted given i
  | renamed {i : Item} {σ τ : Renaming} (admitted : Item.Admitted given i)
      (targets : ∀ r ∈ σ ++ τ, Bindable r.2) :
      Item.Admitted given ((i.rename σ).renameImports τ)
  | imports {ss : List (LinkName × String)} {path : Points}
      (names : ∀ s ∈ ss, (∃ n, s.1 = .name .none n ∧ Bindable n) ∧ Bindable s.2) :
      Item.Admitted given (importNamed ss path)
  /-- What a list exports of another module can be imported. -/
  | requested {l : ExportList} {ss : List (LinkName × String)} {path : Points}
      (admitted : Item.Admitted given (.exportList l)) (requests : l.request.isSome)
      (names : ∀ s ∈ ss, s.1 ∈ l.specifiers.map (·.localName) ∧ Bindable s.2) :
      Item.Admitted given (importNamed ss path)
  | relisted {l : ExportList} {ss : List ExportSpecifier}
      (admitted : Item.Admitted given (.exportList l))
      (each : List.Forall₂ ExportSpecifier.Renamed l.specifiers ss) :
      Item.Admitted given (.exportList { l with specifiers := ss })
  | initial {span : Span} {d : VariableDecl} {first : Declarator} {value : Tree} {callee : String}
      {route : Points} (admitted : Item.Admitted given (.exportDeclaration span (.variable d)))
      (only : d.declarators = [first]) (valued : first.initial = some value)
      (called : Bindable callee) :
      Item.Admitted given (.exportDeclaration span (.variable { d with
        declarators := [{ first with initial := some (wrapperCall callee value route) }] }))
  | function {span : Span} {d : FunctionDecl} {n callee : String} {route : Points}
      (admitted : Item.Admitted given (.exportDeclaration span (.function d)))
      (bodied : d.body.isSome) (named : Bindable n) (called : Bindable callee) :
      Item.Admitted given
        (.exportDeclaration span (constDeclaration n (wrapperCall callee d.toExpression route)))
  | constant {n callee target : String} {route : Points} (named : Bindable n)
      (called : Bindable callee) (bound : Bindable target) :
      Item.Admitted given (exportConst n (wrapperCall callee (.ref .none .value target) route))
  /-- What a list exports of the module itself can be referred to. -/
  | listed {l : ExportList} {s : ExportSpecifier} {span : Span} {n callee target : String}
      {route : Points} (admitted : Item.Admitted given (.exportList l)) (own : l.request = none)
      (specified : s ∈ l.specifiers) (source : s.localName = .name span target)
      (named : Bindable n) (called : Bindable callee) :
      Item.Admitted given (exportConst n (wrapperCall callee (.ref .none .value target) route))

theorem LinkName.rename_eq_or {σ : Renaming} (targets : ∀ r ∈ σ, Bindable r.2) (n : LinkName) :
    n.rename σ = n ∨ ∃ span k, n.rename σ = .name span k ∧ Bindable k := by
  cases n with
  | string => exact .inl rfl
  | name span k =>
      by_cases moved : k ∈ σ.map Prod.fst
      · exact .inr ⟨span, σ.apply k, rfl, targets _ (Renaming.apply_mem moved)⟩
      · exact .inl (by rw [LinkName.rename, Renaming.apply_of_notMem moved])

variable {preset : Preset} {surface : Surface} {given : List Item}

namespace SpecifierPlan

variable {l : ExportList} {s : ExportSpecifier} {p : SpecifierPlan}

theorem For.renamed_specifier (fits : For preset surface l s p)
    (fresh : ∀ a ∈ p.aliases, Bindable a) {σ : Renaming} (targets : ∀ r ∈ σ, Bindable r.2)
    (isOwn : Bool) : s.Renamed (p.specifier σ isOwn) := by
  cases fits with
  | keep =>
      cases isOwn with
      | true => exact ⟨_, _, rfl, LinkName.rename_eq_or targets _, .inl rfl⟩
      | false => exact ⟨_, _, rfl, .inl rfl, .inl rfl⟩
  | reExport k callee =>
      exact ⟨_, _, rfl, .inl rfl, .inr ⟨_, _, rfl, fresh _ (List.mem_singleton_self _)⟩⟩
  | moved k callee =>
      have bindable := fresh _ (List.mem_singleton_self _)
      exact ⟨_, _, rfl, .inr ⟨_, _, rfl, bindable⟩, .inr ⟨_, _, rfl, bindable⟩⟩
  | aliased k callee =>
      exact ⟨_, _, rfl, LinkName.rename_eq_or targets _, .inr ⟨_, _, rfl, fresh _ (List.mem_singleton_self _)⟩⟩

theorem For.admitted_constant (fits : For preset surface l s p) (binds : preset.Binds)
    (admitted : Item.Admitted given (.exportList l)) (specified : s ∈ l.specifiers)
    (fresh : ∀ a ∈ p.aliases, Bindable a) (called : ∀ e ∈ p.entries preset, Bindable e.wrapperLocal)
    (route : Points) : ∀ j ∈ p.constant route, j.Admitted given := by
  cases fits with
  | keep => simp [constant]
  | reExport k callee exported recognized | moved k callee exported recognized =>
      have named := (binds.of_recognizes recognized).1
      simp only [aliases, entries, List.forall_mem_singleton, constant, exported,
        LinkName.text, Preset.entry] at fresh called ⊢
      exact .constant named called fresh
  | aliased k callee exported recognized valued own source =>
      have named := (binds.of_recognizes recognized).1
      simp only [entries, List.forall_mem_singleton, constant, exported, LinkName.text,
        Preset.entry] at called ⊢
      exact .listed admitted own specified source named called

end SpecifierPlan

namespace Plan

variable {i : Item} {p : Plan}

/-- What a list with a source asks for besides is bound to names that are supplied. -/
theorem admitted_requested {l : ExportList} {ps : List SpecifierPlan}
    (admitted : Item.Admitted given (.exportList l))
    (specified : ∀ q ∈ ps, q.origin ∈ l.specifiers)
    (fresh : ∀ q ∈ ps, ∀ a ∈ q.aliases, Bindable a) :
    ∀ j ∈ requested l ps, j.Admitted given := by
  intro j requests
  unfold requested at requests
  split at requests
  · next r s ss request imported =>
    rw [List.mem_singleton.mp requests, ← imported]
    refine .requested admitted (by simp [request]) fun s taken => ?_
    obtain ⟨q, planned, taken⟩ := List.mem_flatMap.mp taken
    have origin := List.mem_map_of_mem (f := (·.localName)) (specified q planned)
    have bound := fresh q planned
    cases q with
    | keep | moved | aliased => exact absurd taken List.not_mem_nil
    | reExport =>
        rw [List.mem_singleton.mp taken]
        exact ⟨origin, bound _ (List.mem_singleton_self _)⟩
  · exact absurd requests List.not_mem_nil

theorem For.admitted_image (fits : For preset surface i p) (binds : preset.Binds)
    (admitted : i.Admitted given) (fresh : ∀ a ∈ p.aliases, Bindable a)
    (called : ∀ e ∈ p.entries preset, Bindable e.wrapperLocal) {σ τ : Renaming}
    (targets : ∀ r ∈ σ ++ τ, Bindable r.2) (route : Points) :
    ∀ j ∈ p.image σ τ route, j.Admitted given := by
  have renamed := Item.Admitted.renamed admitted targets
  cases fits with
  | keep =>
      rw [image, List.forall_mem_singleton]
      exact renamed
  | drop => simp [image]
  | @initial span inner binder name d first value callee only target valued recognized =>
      rw [image, List.forall_mem_singleton]
      refine .initial (d := d.rename σ) renamed ?_ ?_
        (called (preset.entry name .variableDeclaration callee) ?_)
      · simp [VariableDecl.rename, only]
      · simp [Declarator.rename, valued]
      · simp [entries, target, Tree.patternNames]
  | @function span d n callee named bodied real recognized =>
      rw [image, List.forall_mem_singleton]
      refine .function (d := d.rename σ) renamed ?_ (binds.of_recognizes recognized).1
        (called (preset.entry n.text .functionDeclaration callee) (List.mem_singleton_self _))
      simpa [FunctionDecl.rename] using bodied
  | @list l ps each =>
      obtain ⟨origins, fits⟩ := SpecifierPlan.for_origins each
      have freshFor (q : SpecifierPlan) (planned : q ∈ ps) : ∀ a ∈ q.aliases, Bindable a :=
        fun a supplied => fresh a (List.mem_flatMap.mpr ⟨q, planned, supplied⟩)
      have specified (q : SpecifierPlan) (planned : q ∈ ps) : q.origin ∈ l.specifiers := by
        rw [← origins]
        exact List.mem_map_of_mem planned
      intro j image
      rw [Plan.image, List.append_assoc, List.mem_append, List.mem_append,
        List.mem_singleton] at image
      rcases image with requests | rfl | constant
      · exact admitted_requested admitted specified freshFor j requests
      · refine .relisted admitted ?_
        rw [← origins, List.forall₂_map_left_iff, List.forall₂_map_right_iff, List.forall₂_same]
        intro q planned
        exact (fits q planned).renamed_specifier (freshFor q planned)
          (fun r renames => targets r (List.mem_append_left _ renames)) _
      · obtain ⟨q, planned, constant⟩ := List.mem_flatMap.mp constant
        exact (fits q planned).admitted_constant binds admitted (specified q planned)
          (freshFor q planned)
          (fun e reported => called e (List.mem_flatMap.mpr ⟨q, planned, reported⟩)) route j constant

end Plan

namespace Module

variable {m : Module} {routeId : String}

theorem bindable_of_mem_aliases (binds : preset.Binds) {a : String}
    (supplied : a ∈ m.aliases preset) : Bindable a := by
  obtain ⟨e, constant, k, rfl⟩ :=
    exists_of_forall₂_right (m.aliases_candidates preset "") supplied
  have wrapped : e ∈ (m.rewriteExports preset "").2.wrapped.map (·.name) := by
    obtain ⟨w, listed, rfl⟩ := List.mem_map.mp constant
    exact List.mem_map_of_mem (List.mem_filter.mp listed).1
  exact bindable_candidate k (binds.of_recognizes (recognizes_of_mem_wrapped wrapped)).1.1

theorem bindable_localOf (binds : preset.Binds) {n : String}
    (wrapped : n ∈ (m.rewriteExports preset routeId).2.names) :
    Bindable (m.localOf preset n) := by
  obtain ⟨i, -, grouped⟩ := mem_wrappers_of_mem_names wrapped
  have wrapper := (binds.of_recognizes (Preset.recognizes_of_groupIndex grouped)).2.1
  rcases calls_localOf wrapped with same | ⟨-, k, numbered⟩
  · rw [same]
    exact wrapper
  · rw [numbered]
    exact bindable_candidate k wrapper.1

theorem admitted_rewriteExports (binds : preset.Binds) (admitted : ∀ i ∈ m.items, i.Admitted given) :
    ∀ j ∈ (m.rewriteExports preset routeId).1.items, j.Admitted given := by
  have targets : ∀ r ∈ m.references preset ++ m.moves preset, Bindable r.2 := by
    intro r renames
    rw [references, List.mem_append, List.mem_reverse, or_self] at renames
    refine bindable_of_mem_aliases binds ((m.bound_subperm_aliases preset).subset ?_)
    exact List.mem_append_right _ (List.mem_map_of_mem renames)
  intro j listed
  rw [items_rewriteExports, List.mem_append] at listed
  rcases listed with wrapper | image
  · rw [m.wrapperImports_eq preset routeId] at wrapper
    obtain ⟨g, -, rfl⟩ := List.mem_map.mp wrapper
    refine .imports fun s specified => ?_
    obtain ⟨n, wrapped, rfl⟩ := List.mem_map.mp specified
    have wrapped := (List.mem_filter.mp wrapped).1
    obtain ⟨i, -, grouped⟩ := mem_wrappers_of_mem_names wrapped
    exact ⟨⟨_, rfl, (binds.of_recognizes (Preset.recognizes_of_groupIndex grouped)).2.1⟩,
      bindable_localOf binds wrapped⟩
  · rw [blocks, List.flatMap_map] at image
    obtain ⟨p, planned, image⟩ := List.mem_flatMap.mp image
    refine (m.for_of_mem_plans planned).admitted_image binds (admitted _ (origin_mem_items planned))
      (fun a supplied => ?_) (fun e reported => ?_) targets _ j image
    · exact bindable_of_mem_aliases binds (List.mem_flatMap.mpr ⟨p, planned, supplied⟩)
    · have reported : e ∈ (m.rewriteExports preset routeId).2.wrapped :=
        reported_of_planned planned reported
      rw [entry_of_mem_wrapped reported]
      exact bindable_localOf binds (mem_names_of_mem_wrapped reported)

theorem admitted_instrument {presets : List Preset} (binds : ∀ preset ∈ presets, preset.Binds)
    (admitted : ∀ i ∈ m.items, i.Admitted given) :
    ∀ j ∈ (m.instrument presets routeId).1.items, j.Admitted given := by
  induction presets generalizing m with
  | nil => exact admitted
  | cons preset presets ih =>
      obtain ⟨bindsFirst, binds⟩ := List.forall_mem_cons.mp binds
      exact ih binds (admitted_rewriteExports bindsFirst admitted)

theorem dialect_instrument (presets : List Preset) :
    (m.instrument presets routeId).1.dialect = m.dialect := by
  induction presets generalizing m with
  | nil => rfl
  | cons preset presets ih => exact ih

end Module

/-! Reading again -/

/-- The text is read as a module, and nothing in it is at fault. -/
def Dialect.Accepts (d : Dialect) (text : String) : Prop :=
  ∃ m, Module.ofSource text ⟨d, false⟩ = .ok (m, [])

/-- Printed and read again, the module exports what it did, and only what it exports twice can be
at fault. -/
def Module.Reprints (m : Module) (format : PrintFormat) : Prop :=
  ∃ m', (Reading.ofSource (m.printed format) m.dialect).module? = some m' ∧
    (Reading.ofSource (m.printed format) m.dialect).faults =
      (if m.dialect.typed then [] else exportFaults m'.items) ∧
    m'.exportTexts = m.exportTexts ∧ m'.defaultSpans.length = m.defaultSpans.length

theorem Module.ofSource_eq_ok_iff {source : String} {d : Dialect} {m : Module} :
    Module.ofSource source ⟨d, false⟩ = .ok (m, []) ↔
      (Reading.ofSource source d).module? = some m ∧ (Reading.ofSource source d).faults = [] := by
  unfold ofSource
  generalize Reading.ofSource source d = r
  obtain ⟨found, faults⟩ := r
  cases found <;> cases faults <;> simp

theorem Reading.dialect_ofSource {source : String} {d : Dialect} {m : Module}
    (found : (Reading.ofSource source d).module? = some m) : m.dialect = d := by
  unfold ofSource at found
  generalize readModule.run (Cursor.initial source d) = read at found
  obtain ⟨⟨hashbang, directives, items⟩, c⟩ := read
  dsimp only at found
  split at found
  · cases found
  · cases found
    rfl

theorem Cursor.exportFaults_eq_nil {c : Cursor} {d : Dialect} {items : List Item}
    (faultless : c.allFaults d items = []) (untyped : d.typed = false) (read : c.fatal = none) :
    exportFaults items = [] := by
  rw [allFaults, untyped, read] at faultless
  dsimp only at faultless
  split at faultless
  · cases faultless
  · exact (List.append_eq_nil_iff.mp faultless).2

/-- A module without types that is read without fault exports no name twice. -/
theorem Reading.exportFaults_ofSource {source : String} {d : Dialect} {m : Module}
    (found : (Reading.ofSource source d).module? = some m)
    (faultless : (Reading.ofSource source d).faults = []) (untyped : d.typed = false) :
    exportFaults m.items = [] := by
  unfold ofSource at found faultless
  generalize readModule.run (Cursor.initial source d) = read at found faultless
  obtain ⟨⟨hashbang, directives, items⟩, c⟩ := read
  dsimp only at found faultless
  split at found
  · cases found
  · next fatal =>
      cases found
      rw [if_neg fatal] at faultless
      exact Cursor.exportFaults_eq_nil faultless untyped (by simpa using fatal)

theorem Module.Reprints.accepts_iff {m : Module} {format : PrintFormat}
    (reprints : m.Reprints format) :
    m.dialect.Accepts (m.printed format) ↔ m.dialect.typed ∨ exportFaults m.items = [] := by
  obtain ⟨m', found, faults, texts, defaults⟩ := reprints
  have same : exportFaults m'.items = [] ↔ exportFaults m.items = [] := by
    rw [exportFaults_eq_nil_iff, exportFaults_eq_nil_iff, texts, defaults]
  simp only [Dialect.Accepts, Module.ofSource_eq_ok_iff, found, faults, Option.some.injEq,
    exists_eq_left', ← same]
  cases m.dialect.typed <;> simp

theorem Module.exportsFresh_of_unwrapped {m : Module} {presets : List Preset} {routeId : String}
    (unwrapped : (m.instrument presets routeId).2.wrapped = []) :
    ∀ p ∈ m.passes routeId presets, p.ExportsFresh := by
  rw [wrapped_instrument, List.flatMap_eq_nil_iff] at unwrapped
  intro p turn a supplied
  obtain ⟨e, constant, -⟩ :=
    exists_of_forall₂_right (p.before.aliases_candidates p.preset routeId) supplied
  have none : (p.before.rewriteExports p.preset routeId).2.wrapped = [] := unwrapped p turn
  rw [Report.constants, none] at constant
  exact absurd constant List.not_mem_nil

/-- What a stack of the standard presets prints is read again without fault just where a module may
export a name twice, or where no pass gives an alias that is exported already. -/
theorem Instrumenter.accepts_transform_iff {i : Instrumenter} {source routeId : String}
    {d : Dialect} {m : Module} (read : Module.ofSource source ⟨d, false⟩ = .ok (m, []))
    (stack : ∀ preset ∈ i.presets, preset ∈ [Preset.dataFunctions, .context])
    (reprints : (m.instrument i.presets routeId).2.modified →
      (∀ j ∈ (m.instrument i.presets routeId).1.items, j.Admitted m.items) →
      (m.instrument i.presets routeId).1.Reprints i.format) :
    ∃ t, i.transform source routeId ⟨d, false⟩ = .ok t ∧
      (d.Accepts t.code ↔
        d.typed ∨ ∀ p ∈ m.passes routeId i.presets, p.ExportsFresh) := by
  have binds (preset : Preset) (listed : preset ∈ i.presets) : preset.Binds :=
    Preset.binds_standard (stack preset listed)
  have given (preset : Preset) (listed : preset ∈ i.presets) (n : String)
      (recognized : preset.recognizes n) : isMarked n = false :=
    ((binds preset listed).of_recognizes recognized).2.2
  obtain ⟨found, faultless⟩ := Module.ofSource_eq_ok_iff.mp read
  have dialect : (m.instrument i.presets routeId).1.dialect = d :=
    (m.dialect_instrument i.presets).trans (Reading.dialect_ofSource found)
  refine ⟨_, by rw [transform, read], ?_⟩
  cases modified : (m.instrument i.presets routeId).2.modified with
  | false =>
      have unwrapped : (m.instrument i.presets routeId).2.wrapped = [] := by
        simpa [Report.modified] using modified
      exact iff_of_true ⟨m, read⟩ (.inr (Module.exportsFresh_of_unwrapped unwrapped))
  | true =>
      have admitted : ∀ j ∈ (m.instrument i.presets routeId).1.items, j.Admitted m.items :=
        Module.admitted_instrument binds fun _ listed => .given listed
      have accepts := (reprints modified admitted).accepts_iff
      rw [dialect] at accepts
      refine accepts.trans ?_
      cases typed : d.typed with
      | true => simp
      | false =>
          simp only [Bool.false_eq_true, false_or]
          have once := Reading.exportFaults_ofSource found faultless typed
          exact Module.exportFaults_instrument_iff given once

/-- `export{loader}from'y'` -/
def exportingForeign : Module where
  dialect := .plain
  length := 21
  hashbang := none
  directives := []
  items :=
    [.exportList
      { span := ⟨0, 21⟩, typeOnly := false
        specifiers := [⟨⟨7, 13⟩, false, .name ⟨7, 13⟩ "loader", .name ⟨7, 13⟩ "loader"⟩]
        request := some ⟨⟨18, 21⟩, .ofString "y", .absent⟩ }]
  comments := []

/-- What is printed for it. -/
def wrappingForeign : String :=
  "import{withLoaderWrapper}from\"react-router-devtools/server\";" ++
  "import{loader as _loader}from\"y\";" ++
  "export{loader as _loader}from\"y\";" ++
  "export const loader=withLoaderWrapper(_loader,\x60r\x60);"

set_option maxRecDepth 10000 in
theorem Instrumenter.exportingForeign_accepted :
    Module.ofSource "export{loader}from'y'" ⟨.plain, false⟩ = .ok (exportingForeign, []) ∧
      (exportingForeign.instrument [.dataFunctions] "r").1.Reprints ⟨.double, true⟩ ∧
      ∃ t, Instrumenter.transform ⟨[.dataFunctions], ⟨.double, true⟩⟩ "export{loader}from'y'" "r"
          ⟨.plain, false⟩ = .ok t ∧
        Dialect.plain.Accepts t.code := by
  have read : Module.ofSource "export{loader}from'y'" ⟨.plain, false⟩ =
      .ok (exportingForeign, []) := by cbv
  have printed : (exportingForeign.instrument [.dataFunctions] "r").1.printed ⟨.double, true⟩ =
      wrappingForeign := by decide +kernel
  have again : (Reading.ofSource wrappingForeign .plain).faults = [] ∧
      (Reading.ofSource wrappingForeign .plain).module?.any fun m =>
        decide (m.exportTexts = ["_loader", "loader"] ∧ m.defaultSpans = []) := by
    decide +kernel
  have reprints : (exportingForeign.instrument [.dataFunctions] "r").1.Reprints
      ⟨.double, true⟩ := by
    obtain ⟨faultless, evaluated⟩ := again
    obtain ⟨m', found, exported⟩ := (Option.any_eq_true ..).mp evaluated
    obtain ⟨texts, defaults⟩ := of_decide_eq_true exported
    have same : exportFaults m'.items = [] := by
      rw [Module.exportFaults_eq_nil_iff, texts, defaults]
      decide
    unfold Module.Reprints
    rw [printed, Module.dialect_instrument]
    refine ⟨m', found, faultless.trans same.symm, ?_, ?_⟩
    · rw [texts]
      decide
    · rw [defaults, Module.defaultSpans_instrument]
      rfl
  obtain ⟨t, transformed, accepts⟩ :=
    accepts_transform_iff (i := ⟨[.dataFunctions], ⟨.double, true⟩⟩) read (by simp)
      (fun _ _ => reprints)
  refine ⟨read, reprints, t, transformed, accepts.mpr (.inr ?_)⟩
  simp only [Module.passes, List.forall_mem_singleton]
  decide

/-- `export{_loader,loader}from'y'` -/
def exportingForeignAlias : Module where
  dialect := .plain
  length := 29
  hashbang := none
  directives := []
  items :=
    [.exportList
      { span := ⟨0, 29⟩, typeOnly := false
        specifiers :=
          [⟨⟨7, 14⟩, false, .name ⟨7, 14⟩ "_loader", .name ⟨7, 14⟩ "_loader"⟩,
           ⟨⟨15, 21⟩, false, .name ⟨15, 21⟩ "loader", .name ⟨15, 21⟩ "loader"⟩]
        request := some ⟨⟨26, 29⟩, .ofString "y", .absent⟩ }]
  comments := []

set_option maxRecDepth 10000 in
/-- The alias is exported already, so that the output exports it twice. -/
theorem Instrumenter.exportingForeignAlias_rejected :
    Dialect.plain.Accepts "export{_loader,loader}from'y'" ∧
      ∃ t, Instrumenter.transform ⟨[.dataFunctions], ⟨.double, true⟩⟩
          "export{_loader,loader}from'y'" "r" ⟨.plain, false⟩ = .ok t ∧
        t.modified ∧ ¬ Dialect.plain.Accepts t.code := by
  have read : Module.ofSource "export{_loader,loader}from'y'" ⟨.plain, false⟩ =
      .ok (exportingForeignAlias, []) := by cbv
  have modified : (exportingForeignAlias.instrument [.dataFunctions] "r").2.modified := by decide
  have printed : (exportingForeignAlias.instrument [.dataFunctions] "r").1.printed
      ⟨.double, true⟩ =
      "import{withLoaderWrapper}from\"react-router-devtools/server\";" ++
        "import{loader as _loader}from\"y\";" ++
        "export{_loader,loader as _loader}from\"y\";" ++
        "export const loader=withLoaderWrapper(_loader,\x60r\x60);" := by
    decide +kernel
  refine ⟨⟨_, read⟩, ⟨_, (exportingForeignAlias.instrument [.dataFunctions] "r").2⟩,
    by rw [transform, read], modified, ?_⟩
  rintro ⟨m', accepted⟩
  rw [Module.emit, if_pos modified, printed] at accepted
  have faultless := (Module.ofSource_eq_ok_iff.mp accepted).2
  revert faultless
  decide +kernel

end RouteWrap
