import RouteWrap.Proofs.Calls
import RouteWrap.Proofs.Outcomes

/-!
What a report says of a rewrite. Every name that an item or a specifier exports has one outcome: it
is passed over, or it is wrapped and reported so, or it is kept and reported as skipped. The calls
to the wrappers in the rewritten module are those of the wrapped exports, in their order.
-/

namespace RouteWrap

/-- A name that an item exports, by itself or as a specifier of a list. -/
inductive Occurrence
  | named (n : String)
  | specified (s : ExportSpecifier)

def Occurrence.text : Occurrence → String
  | named n => n
  | specified s => s.exported.text

def Item.occurrences : Item → List Occurrence
  | exportList l => l.specifiers.map .specified
  | i => i.names.map .named

inductive Outcome
  | passed
  | wrapped (w : Wrapping)
  | skipped (e : SkippedExport)

namespace Outcome

def wrapping? : Outcome → Option Wrapping
  | wrapped w => some w
  | passed | skipped _ => none

def skipped? : Outcome → Option SkippedExport
  | skipped e => some e
  | passed | wrapped _ => none

end Outcome

/-- What becomes of an item: of each name that it exports, and of the item as a whole. -/
structure Account where
  outcomes : List Outcome
  block : List Item

namespace Account

def wrappings (a : Account) : List Wrapping := a.outcomes.filterMap Outcome.wrapping?

def skips (a : Account) : List SkippedExport := a.outcomes.filterMap Outcome.skipped?

end Account

namespace Module

/-- The outcome that fits a name which the item `i` exports. A name that is skipped is still
exported by what takes the item's place: by the item itself, in which nothing but moved imports is
renamed, or in a list by its own specifier, of which the same holds, beside the specifiers of what
is wrapped, which are all that changes of the list. -/
inductive Settles (m : Module) (preset : Preset) (i : Item) (block : List Item) :
    Occurrence → Outcome → Prop
  | passed {o : Occurrence}
      (unreported : preset.recognizes o.text = false ∨ m.Overloads preset i) :
      Settles m preset i block o .passed
  | wrapped {o : Occurrence} {w : Wrapping} (recognized : preset.recognizes o.text)
      (name : w.entry.name = o.text)
      (entry : w.entry = preset.entry o.text w.entry.shape (m.localOf preset o.text)) :
      Settles m preset i block o (.wrapped w)
  | skipped {n : String} {reason : SkipReason} (recognized : preset.recognizes n)
      (stays : block = [(i.rename (m.references preset)).renameImports (m.moves preset)]) :
      Settles m preset i block (.named n) (.skipped ⟨n, reason⟩)
  | listed {s : ExportSpecifier} {reason : SkipReason} {l : ExportList}
      {changes : List SpecifierChange} (recognized : preset.recognizes s.exported.text)
      (list : i = .exportList l)
      (specifiers : changes.map SpecifierChange.before = l.specifiers)
      (fits : ∀ c ∈ changes, c.Fits (m.references preset) l)
      (stays : .exportList { l with specifiers := changes.map SpecifierChange.after } ∈ block)
      (kept : ⟨s, if l.request.isNone then
          { s with localName := s.localName.rename (m.references preset) } else s, none⟩ ∈ changes) :
      Settles m preset i block (.specified s) (.skipped ⟨s.exported.text, reason⟩)

/-- The account fits the item: each name that it exports has an outcome, and what takes its place
is made of those that are wrapped. -/
structure Settled (m : Module) (preset : Preset) (routeId : String) (i : Item) (a : Account) :
    Prop where
  each : List.Forall₂ (m.Settles preset i a.block) i.occurrences a.outcomes
  rebuilt : m.Rebuilds preset routeId i (a.wrappings, a.block)

end Module

/-- Where every related pair has a third part that yields the entries of the second, so do lists. -/
theorem exists_forall₂_perm {S : α → List β → Prop} {P : α → γ → Prop} {out : γ → List β}
    {as : List α} {es : List (List β)} (related : List.Forall₂ S as es)
    (each : ∀ a ∈ as, ∀ e, S a e → ∃ c, P a c ∧ (out c).Perm e) :
    ∃ cs, List.Forall₂ P as cs ∧ (cs.flatMap out).Perm es.flatten := by
  induction related with
  | nil => exact ⟨[], .nil, .nil⟩
  | @cons a e as es first _ ih =>
      rw [List.forall_mem_cons] at each
      obtain ⟨c, fits, same⟩ := each.1 e first
      obtain ⟨cs, rest, sameAll⟩ := ih each.2
      exact ⟨c :: cs, .cons fits rest, same.append sameAll⟩

theorem SpecifierPlan.For.recognizes_wrapping {preset : Preset} {surface : Surface}
    {l : ExportList} {s : ExportSpecifier} {q : SpecifierPlan} (fits : For preset surface l s q)
    {w : Wrapping} (wraps : q.wrapping preset = some w) :
    preset.recognizes s.exported.text ∧ w.entry.name = s.exported.text := by
  cases fits with
  | keep => cases wraps
  | reExport k callee exported recognized | moved k callee exported recognized
  | aliased k callee exported recognized =>
      obtain rfl := Option.some.inj wraps
      exact ⟨by rwa [exported], rfl⟩

namespace Module

variable {m : Module} {preset : Preset} {routeId : String}

theorem rebuilds_block {p : Plan} (planned : p ∈ (m.plans preset).1) :
    m.Rebuilds preset routeId p.origin (m.block preset routeId p) := by
  have listed : [p] ⊆ (m.plans preset).1 := by simpa using planned
  exact (List.forall₂_cons.mp (m.rebuilds_map preset routeId listed)).1

theorem settles_wrapped {p : Plan} (planned : p ∈ (m.plans preset).1) {i : Item}
    {block : List Item} {o : Occurrence} {w : Wrapping} (recognized : preset.recognizes o.text)
    (wraps : w ∈ p.wrappings preset (m.references preset)) (name : w.entry.name = o.text) :
    m.Settles preset i block o (.wrapped w) := by
  have reported : w.entry ∈ (m.rewriteExports preset "").2.wrapped := by
    refine reported_of_planned planned ?_
    rw [p.entries_eq (m.references preset)]
    exact List.mem_map_of_mem wraps
  refine .wrapped recognized name ?_
  rw [← name]
  exact entry_of_mem_wrapped reported

/-- A list changes by its specifiers, each as is planned for it. -/
theorem fits_changes {l : ExportList} {ps : List SpecifierPlan}
    (planned : .list l ps ∈ (m.plans preset).1)
    (each : List.Forall₂ (SpecifierPlan.For preset (Surface.ofItems m.items) l) l.specifiers ps) :
    (ps.map (SpecifierPlan.change preset (m.references preset) l.request.isNone)).map
        SpecifierChange.before = l.specifiers ∧
      ∀ c ∈ ps.map (SpecifierPlan.change preset (m.references preset) l.request.isNone),
        c.Fits (m.references preset) l := by
  obtain ⟨origins, fits⟩ := SpecifierPlan.for_origins each
  constructor
  · rw [List.map_map, ← origins]
    rfl
  · intro c changed
    obtain ⟨q, specified, rfl⟩ := List.mem_map.mp changed
    refine (fits q specified).fits_change fun move moved => List.mem_reverse.mpr ?_
    exact List.mem_flatMap.mpr ⟨_, planned, List.mem_flatMap.mpr ⟨q, specified, moved⟩⟩

variable (routeId) in
theorem exists_specifier_outcome {l : ExportList} {ps : List SpecifierPlan}
    (planned : .list l ps ∈ (m.plans preset).1)
    (each : List.Forall₂ (SpecifierPlan.For preset (Surface.ofItems m.items) l) l.specifiers ps)
    {q : SpecifierPlan} (specified : q ∈ ps) {entries : List SkippedExport}
    (skips : q.Skips preset entries) :
    ∃ o, (m.Settles preset (.exportList l) (m.block preset routeId (.list l ps)).2
          (.specified q.origin) o ∧
        o.wrapping? = q.wrapping preset) ∧
      o.skipped?.toList.Perm entries := by
  cases wrapping : q.wrapping preset with
  | some w =>
      have fits := (SpecifierPlan.for_origins each).2 q specified
      obtain ⟨recognized, name⟩ := fits.recognizes_wrapping wrapping
      have wraps : w ∈ (Plan.list l ps).wrappings preset (m.references preset) :=
        List.mem_filterMap.mpr ⟨q, specified, wrapping⟩
      have silent : entries = [] := by
        cases q with
        | keep s => cases wrapping
        | reExport | moved | aliased => exact skips
      refine ⟨.wrapped w, ⟨settles_wrapped planned recognized wraps name, rfl⟩, ?_⟩
      rw [silent]
      exact .nil
  | none =>
      rw [SpecifierPlan.eq_keep_of_wrapping wrapping] at skips
      obtain ⟨reason, rfl⟩ := skips
      cases recognized : preset.recognizes q.origin.exported.text with
      | true =>
          obtain ⟨specifiers, fits⟩ := fits_changes planned each
          have stays : .exportList { l with
                specifiers := (ps.map (SpecifierPlan.change preset (m.references preset)
                  l.request.isNone)).map SpecifierChange.after } ∈
              (m.block preset routeId (.list l ps)).2 := by
            rw [List.map_map]
            exact List.mem_append_left _ (List.mem_append_right _ (List.mem_singleton_self _))
          refine ⟨.skipped ⟨q.origin.exported.text, reason⟩,
            ⟨.listed recognized rfl specifiers fits stays ?_, rfl⟩, ?_⟩
          · refine List.mem_map.mpr ⟨q, specified, ?_⟩
            rw [SpecifierPlan.eq_keep_of_wrapping wrapping]
            rfl
          · rw [Planning.skips_recognized recognized]
            exact .refl _
      | false =>
          refine ⟨.passed, ⟨.passed (.inl recognized), rfl⟩, ?_⟩
          rw [Planning.skips_unrecognized recognized]
          exact .nil

theorem exists_outcomes_kept (preset : Preset) (i : Item) (reason : SkipReason)
    (ns : List String) :
    ∃ outcomes, List.Forall₂
        (m.Settles preset i [(i.rename (m.references preset)).renameImports (m.moves preset)])
        (ns.map .named) outcomes ∧
      outcomes.filterMap Outcome.wrapping? = [] ∧
      outcomes.filterMap Outcome.skipped? = preset.skips ns reason := by
  induction ns with
  | nil => exact ⟨[], .nil, rfl, rfl⟩
  | cons n ns ih =>
      obtain ⟨outcomes, each, unwrapped, skipped⟩ := ih
      cases recognized : preset.recognizes n with
      | true =>
          refine ⟨.skipped ⟨n, reason⟩ :: outcomes, .cons (.skipped recognized rfl) each,
            unwrapped, ?_⟩
          rw [Preset.skips, List.filter_cons_of_pos recognized]
          exact congrArg (_ :: ·) skipped
      | false =>
          refine ⟨.passed :: outcomes, .cons (.passed (.inl recognized)) each, unwrapped, ?_⟩
          rw [Preset.skips, List.filter_cons_of_neg (by simp [recognized])]
          exact skipped

variable (m preset routeId) in
/-- What a plan makes of its item has an account, which skips the entries. -/
def Accounted (p : Plan) (entries : List SkippedExport) : Prop :=
  ∃ a : Account, ((a.wrappings, a.block) = m.block preset routeId p ∧
      m.Settled preset routeId p.origin a) ∧
    a.skips.Perm entries

/-- Outcomes that fit and yield what the block wraps make an account. -/
theorem accounted_of_outcomes {p : Plan} (planned : p ∈ (m.plans preset).1)
    {entries : List SkippedExport} {outcomes : List Outcome}
    (each : List.Forall₂ (m.Settles preset p.origin (m.block preset routeId p).2)
      p.origin.occurrences outcomes)
    (wraps : outcomes.filterMap Outcome.wrapping? = (m.block preset routeId p).1)
    (silent : (outcomes.filterMap Outcome.skipped?).Perm entries) :
    m.Accounted preset routeId p entries := by
  have same : (outcomes.filterMap Outcome.wrapping?, (m.block preset routeId p).2) =
      m.block preset routeId p := by rw [wraps]
  refine ⟨⟨outcomes, _⟩, ⟨same, each, ?_⟩, silent⟩
  rw [Account.wrappings, same]
  exact rebuilds_block planned

theorem accounted_keep {i : Item} (planned : .keep i ∈ (m.plans preset).1)
    (unlisted : ∀ l, i ≠ .exportList l) {reason : SkipReason} {entries : List SkippedExport}
    (skips : entries.Perm (preset.skips i.names reason)) :
    m.Accounted preset routeId (.keep i) entries := by
  have occurrences : i.occurrences = i.names.map .named := by
    cases i with
    | exportList l => exact absurd rfl (unlisted l)
    | _ => rfl
  obtain ⟨outcomes, each, unwrapped, skipped⟩ := m.exists_outcomes_kept preset i reason i.names
  rw [← occurrences] at each
  refine accounted_of_outcomes planned each unwrapped ?_
  rw [skipped]
  exact skips.symm

theorem accounted_drop {i : Item} (planned : .drop i ∈ (m.plans preset).1)
    (overloads : m.Overloads preset i) : m.Accounted preset routeId (.drop i) [] := by
  have each : List.Forall₂ (m.Settles preset i []) i.occurrences
      (i.occurrences.map fun _ => .passed) := by
    rw [List.forall₂_map_right_iff, List.forall₂_same]
    exact fun o _ => .passed (.inr overloads)
  refine accounted_of_outcomes planned each ?_ ?_
  · simp [Outcome.wrapping?, block, Plan.wrappings]
  · simp [Outcome.skipped?]

/-- The item exports one name, and that is wrapped. -/
theorem accounted_wrapped {p : Plan} (planned : p ∈ (m.plans preset).1) {n : String}
    {w : Wrapping} (occurrences : p.origin.occurrences = [.named n])
    (recognized : preset.recognizes n)
    (wrappings : p.wrappings preset (m.references preset) = [w]) (name : w.entry.name = n) :
    m.Accounted preset routeId p [] := by
  have wraps : w ∈ p.wrappings preset (m.references preset) := by
    rw [wrappings]
    exact List.mem_singleton_self w
  have each : List.Forall₂ (m.Settles preset p.origin (m.block preset routeId p).2)
      p.origin.occurrences [.wrapped w] := by
    rw [occurrences]
    exact .cons (settles_wrapped planned recognized wraps name) .nil
  exact accounted_of_outcomes planned each wrappings.symm .nil

theorem accounted_list {l : ExportList} {ps : List SpecifierPlan}
    (planned : .list l ps ∈ (m.plans preset).1)
    (each : List.Forall₂ (SpecifierPlan.For preset (Surface.ofItems m.items) l) l.specifiers ps)
    {entries : List (List SkippedExport)}
    (skips : List.Forall₂ (SpecifierPlan.Skips preset) ps entries) :
    m.Accounted preset routeId (.list l ps) entries.flatten := by
  obtain ⟨origins, -⟩ := SpecifierPlan.for_origins each
  obtain ⟨outcomes, settled, same⟩ := exists_forall₂_perm skips
    fun q specified _ skips => exists_specifier_outcome routeId planned each specified skips
  have occurrences : Item.occurrences (.exportList l) =
      ps.map fun q => .specified q.origin := by
    rw [Item.occurrences, ← origins, List.map_map]
    rfl
  have wraps : outcomes.map Outcome.wrapping? = ps.map (SpecifierPlan.wrapping preset) := by
    refine (forall₂_origins (fun _ _ wraps => wraps) ?_).1
    rw [List.forall₂_map_left_iff]
    exact settled.imp fun _ _ fits => fits.2
  have settles : List.Forall₂
      (m.Settles preset (.exportList l) (m.block preset routeId (.list l ps)).2)
      (Item.occurrences (.exportList l)) outcomes := by
    rw [occurrences]
    exact List.forall₂_map_left_iff.mpr (settled.imp fun _ _ fits => fits.1)
  refine accounted_of_outcomes planned settles ?_ ?_
  · have joined := congrArg (List.filterMap id) wraps
    rwa [List.filterMap_map, List.filterMap_map] at joined
  · rwa [List.filterMap_eq_flatMap_toList]

variable (routeId) in
theorem accounted_of_skips {p : Plan} (planned : p ∈ (m.plans preset).1)
    {entries : List SkippedExport} (skips : p.Skips preset entries) :
    m.Accounted preset routeId p entries := by
  have fits := m.for_of_mem_plans planned
  generalize origin : p.origin = i at fits
  cases fits with
  | keep i unlisted kept =>
      obtain ⟨-, reason, same⟩ := skips
      exact accounted_keep planned unlisted same
  | drop overload =>
      obtain rfl := skips
      exact accounted_drop planned (overloads_iff.mpr overload)
  | @initial span inner binder name d first value callee only target valued recognized =>
      obtain ⟨-, rfl⟩ := skips
      refine accounted_wrapped planned ?_ recognized
        (Plan.wrappings_initial target preset (m.references preset) span d value callee) rfl
      simp [origin, Item.occurrences, Item.names, Declaration.boundNames, only, target,
        Tree.patternNames, List.eraseDups_cons]
  | @function span d n callee named bodied real recognized =>
      obtain rfl := skips
      refine accounted_wrapped planned ?_ recognized rfl rfl
      simp [origin, Item.occurrences, Item.names, Declaration.boundNames, named,
        List.eraseDups_cons]
  | list each =>
      obtain ⟨entriesEach, related, rfl⟩ := skips
      exact accounted_list planned each related

variable (m preset routeId)

/-- Each item has an account, made of its block, and the report skips what the accounts say. -/
theorem exists_accounts :
    ∃ accounts : List Account,
      List.Forall₂ (m.Settled preset routeId) m.items accounts ∧
        accounts.map (fun a => (a.wrappings, a.block)) = m.blocks preset routeId ∧
        (m.rewriteExports preset routeId).2.skipped.Perm (accounts.flatMap Account.skips) := by
  obtain ⟨each, related, skipped⟩ := m.skips_plans preset routeId
  obtain ⟨accounts, settled, silent⟩ := exists_forall₂_perm related
    fun p planned _ skips => accounted_of_skips routeId planned skips
  refine ⟨accounts, ?_, ?_, ?_⟩
  · rw [← m.origins_plans preset, List.forall₂_map_left_iff]
    exact settled.imp fun _ _ fits => fits.2
  · refine (forall₂_origins (fun _ _ pair => pair) ?_).1
    rw [blocks, List.forall₂_map_left_iff]
    exact settled.imp fun _ _ fits => fits.1
  · rw [skipped]
    exact silent.symm

variable {m preset routeId} in
theorem flatMap_wrappings {accounts : List Account}
    (pairs : accounts.map (fun a => (a.wrappings, a.block)) = m.blocks preset routeId) :
    accounts.flatMap Account.wrappings = (m.blocks preset routeId).flatMap Prod.fst := by
  rw [← pairs, List.flatMap_map]

/-- The report is sound and complete about what the module exports and the walk takes up. Each item
has an account, in which each of the names it exports has one outcome. What takes the items' places
stands behind the imports of the wrappers; the report lists the wrapped exports in order and the
skipped ones in some order, and the calls to the wrappers in the whole of the rewritten module are
those of the wrapped exports, in order. -/
theorem rewriteExports_accounts :
    ∃ accounts : List Account,
      List.Forall₂ (m.Settled preset routeId) m.items accounts ∧
        (∃ wrappers,
          (m.rewriteExports preset routeId).1.items = wrappers ++ accounts.flatMap Account.block ∧
            ∀ i ∈ wrappers, ∃ ss path, i = importNamed ss path) ∧
        (m.rewriteExports preset routeId).2.wrapped =
          (accounts.flatMap Account.wrappings).map Wrapping.entry ∧
        (m.rewriteExports preset routeId).2.skipped.Perm (accounts.flatMap Account.skips) ∧
        (m.rewriteExports preset routeId).1.trees.flatMap
            (Tree.callsTo ((m.rewriteExports preset routeId).2.wrapped.map (·.wrapperLocal))) =
          (accounts.flatMap Account.wrappings).map (Wrapping.call (.ofString routeId)) := by
  obtain ⟨accounts, settled, pairs, skipped⟩ := m.exists_accounts preset routeId
  refine ⟨accounts, settled, ⟨RouteWrap.wrapperImports preset (m.plans preset).2, ?_,
    wrapperImports_imports preset _⟩, ?_, skipped, ?_⟩
  · rw [items_rewriteExports, ← pairs, List.flatMap_map]
  · rw [flatMap_wrappings pairs, wrapped_rewriteExports]
  · rw [flatMap_wrappings pairs, callsTo_rewriteExports]

/-- `export { loader, type action } from "./x"` -/
def exportingTyped : Module :=
  .ofItems
    [.exportList
      { span := .none, typeOnly := false
        specifiers :=
          [⟨.none, false, .name .none "loader", .name .none "loader"⟩,
           ⟨.none, true, .name .none "action", .name .none "action"⟩]
        request := some ⟨.none, .ofString "./x", .absent⟩ }]

/-- A list that exports a skipped name does not stay as it is where another name of it is wrapped,
whatever is renamed. -/
theorem exportingTyped_relisted :
    Preset.dataFunctions.fault? = none ∧
      (exportingTyped.rewriteExports .dataFunctions "r").2.skipped = [⟨"action", .typeOnly⟩] ∧
      ∀ i ∈ exportingTyped.items, ∀ σ τ, (i.rename σ).renameImports τ ∉
        (exportingTyped.rewriteExports .dataFunctions "r").1.items := by
  refine ⟨by decide, by decide, fun i listed σ τ among => ?_⟩
  obtain rfl := List.mem_singleton.mp listed
  have others : ∀ j ∈ (exportingTyped.rewriteExports .dataFunctions "r").1.items,
      j.occurrences.map Occurrence.text ≠ ["loader", "action"] := by decide
  exact others _ among rfl

end Module

end RouteWrap
