import RouteWrap.Proofs.Answers
import RouteWrap.Proofs.Stacks

/-!
Passes that wrap nothing. Such a pass imports no wrapper and moves no import, so it leaves the
module as it found it, but for the overloads that it drops. There are some only beside an ambient
function with a body, which no pass wraps. Without overloads the stack leaves what it would leave
without the pass, and a module in which no pass wraps anything keeps its text.
-/

namespace RouteWrap

variable {preset : Preset} {surface : Surface}

namespace SpecifierPlan

theorem eq_keep_of_entries {p : SpecifierPlan} (unwrapped : p.entries preset = []) :
    p = .keep p.origin := by
  rw [entries_eq, Option.toList_eq_nil_iff, Option.map_eq_none_iff] at unwrapped
  exact eq_keep_of_wrapping unwrapped

end SpecifierPlan

namespace Plan

theorem For.image_unwrapped {i : Item} {p : Plan} (fits : For preset surface i p)
    (unwrapped : p.entries preset = []) (route : Points) :
    p.image [] [] route = [i].filter (!·.isOverload preset surface) := by
  cases fits with
  | keep i unlisted kept =>
      have stays := (For.keep i unlisted kept).isOverload_kept
      rw [image, Item.rename_nil, Item.renameImports_nil, List.filter_singleton, stays]
      rfl
  | drop overload =>
      rw [List.filter_singleton, Item.isOverload, overload]
      rfl
  | initial callee only target => simp [entries, target, Tree.patternNames] at unwrapped
  | function => cases unwrapped
  | @list l ps each =>
      have kept (q : SpecifierPlan) (planned : q ∈ ps) : q = .keep q.origin :=
        SpecifierPlan.eq_keep_of_entries (List.flatMap_eq_nil_iff.mp unwrapped q planned)
      rw [image_list_unwrapped kept (SpecifierPlan.for_origins each).1, Item.rename_nil,
        Item.renameImports_nil]
      rfl

theorem moves_unwrapped {p : Plan} (unwrapped : p.entries preset = []) : p.moves = [] := by
  cases p with
  | list l ps =>
      refine List.flatMap_eq_nil_iff.mpr fun q planned => ?_
      rw [SpecifierPlan.eq_keep_of_entries (List.flatMap_eq_nil_iff.mp unwrapped q planned)]
      rfl
  | _ => rfl

end Plan

theorem Planning.Ensures.always (x : Planning α) : Ensures (fun _ => True) x fun _ _ => True :=
  fun _ _ => trivial

/-- A recognized function that is exported with a body is wrapped, unless it is ambient. -/
theorem Planning.ensures_function {d : FunctionDecl} {n : Name} (named : d.name = some n)
    (recognized : preset.recognizes n.text) (bodied : d.body.isSome)
    (real : d.traits.declare = false) (span : Span) :
    Ensures (fun _ => True) (function preset surface span d)
      fun plan _ => plan.entries preset ≠ [] := by
  obtain ⟨group, grouped⟩ := Option.isSome_iff_exists.mp recognized
  have bodiless : d.body.isNone = false := Option.isNone_eq_false_iff.mpr bodied
  simp only [function, Plan.isOverload_of_body bodied, named, grouped, bodiless, real]
  exact .bind (.always _) fun callee => .pure fun _ _ => List.cons_ne_nil _ _

namespace Report

theorem append_assoc (r s t : Report) : r ++ s ++ t = r ++ (s ++ t) :=
  congrArg₂ Report.mk (List.append_assoc ..) (List.append_assoc ..)

theorem wrapped_append (r s : Report) : (r ++ s).wrapped = r.wrapped ++ s.wrapped := rfl

end Report

namespace Module

section

variable {m : Module} {preset : Preset} {routeId : String}

theorem wrapperImports_unbound {p : Progress} (unbound : p.wrappers = []) :
    RouteWrap.wrapperImports preset p = [] := by
  refine List.flatMap_eq_nil_iff.mpr fun g _ => ?_
  rw [wrapperImport, Progress.ofGroup, unbound]
  rfl

theorem entries_unwrapped (unwrapped : (m.rewriteExports preset routeId).2.wrapped = [])
    {p : Plan} (planned : p ∈ (m.plans preset).1) : p.entries preset = [] := by
  have entries : (m.plans preset).1.flatMap (Plan.entries preset) = [] :=
    (m.accounts_plans preset).2.entries.symm.trans unwrapped
  exact List.flatMap_eq_nil_iff.mp entries p planned

theorem rewriteExports_unwrapped (unwrapped : (m.rewriteExports preset routeId).2.wrapped = []) :
    (m.rewriteExports preset routeId).1 =
      { m with items := m.items.filter (!·.isOverload preset (Surface.ofItems m.items)) } := by
  have entries (p : Plan) (planned : p ∈ (m.plans preset).1) : p.entries preset = [] :=
    entries_unwrapped unwrapped planned
  have moves : m.moves preset = [] :=
    List.flatMap_eq_nil_iff.mpr fun p planned => Plan.moves_unwrapped (entries p planned)
  have unbound : (m.plans preset).2.wrappers = [] := by
    have bound := (m.accounts_plans preset).2.bound
    rw [List.flatMap_eq_nil_iff.mpr entries] at bound
    exact List.map_eq_nil_iff.mp bound
  have images (p : Plan) (planned : p ∈ (m.plans preset).1) :
      p.image [] [] (.ofString routeId) =
        [p.origin].filter (!·.isOverload preset (Surface.ofItems m.items)) :=
    (m.for_of_mem_plans planned).image_unwrapped (entries p planned) _
  have items : (m.rewriteExports preset routeId).1.items =
      m.items.filter (!·.isOverload preset (Surface.ofItems m.items)) := by
    rw [items_rewriteExports, wrapperImports_unbound unbound, List.nil_append, blocks,
      List.flatMap_map]
    simp only [block, references, moves, List.reverse_nil]
    rw [List.flatMap_congr images, ← List.filter_flatMap, ← List.map_eq_flatMap, m.origins_plans]
  exact congrArg (fun items => { m with items }) items

theorem rewriteExports_eq_self_iff
    (unwrapped : (m.rewriteExports preset routeId).2.wrapped = []) :
    (m.rewriteExports preset routeId).1 = m ↔ ∀ i ∈ m.items, ¬ m.Overloads preset i := by
  have same (items : List Item) : { m with items } = m ↔ items = m.items :=
    ⟨congrArg Module.items, fun same => congrArg (fun items => { m with items }) same⟩
  rw [rewriteExports_unwrapped unwrapped, same, List.filter_eq_self]
  simp only [overloads_iff, Bool.not_eq_true', Bool.not_eq_true]

/-- An implementation that is not wrapped is ambient. -/
theorem declare_of_unwrapped (unwrapped : (m.rewriteExports preset routeId).2.wrapped = [])
    {span : Span} {d : FunctionDecl} {n : Name}
    (listed : .exportDeclaration span (.function d) ∈ m.items) (named : d.name = some n)
    (recognized : preset.recognizes n.text) (bodied : d.body.isSome) :
    d.traits.declare = true := by
  by_contra real
  rw [Bool.not_eq_true] at real
  let Wraps (i : Item) (p : Plan) : Prop :=
    i = .exportDeclaration span (.function d) → p.entries preset ≠ []
  have step (i : Item) (_ : List Plan) :
      Planning.Ensures (fun _ => True) (Planning.item preset (Surface.ofItems m.items) i)
        fun p _ => Wraps i p ∧ True := by
    intro p _
    refine ⟨?_, trivial⟩
    rintro rfl
    exact Planning.ensures_function named recognized bodied real span p trivial
  obtain ⟨wraps, -⟩ := Planning.Ensures.mapM step m.items [] (Progress.initial m) trivial
  obtain ⟨p, planned, wrapped⟩ := exists_of_forall₂_left wraps listed
  exact wrapped rfl (entries_unwrapped unwrapped planned)

theorem instrument_append (m : Module) (presets more : List Preset) (routeId : String) :
    m.instrument (presets ++ more) routeId =
      (((m.instrument presets routeId).1.instrument more routeId).1,
        (m.instrument presets routeId).2 ++
          ((m.instrument presets routeId).1.instrument more routeId).2) := by
  induction presets generalizing m with
  | nil => rfl
  | cons preset presets ih =>
      have rest := ih (m.rewriteExports preset routeId).1
      simp only [List.cons_append, instrument, rest, Report.append_assoc]

/-- A pass that wraps nothing and leaves the module as it was could be left out. -/
theorem instrument_without {earlier : List Preset}
    (unwrapped :
      ((m.instrument earlier routeId).1.rewriteExports preset routeId).2.wrapped = [])
    (same : ((m.instrument earlier routeId).1.rewriteExports preset routeId).1 =
      (m.instrument earlier routeId).1) (more : List Preset) :
    (m.instrument (earlier ++ preset :: more) routeId).1 =
        (m.instrument (earlier ++ more) routeId).1 ∧
      (m.instrument (earlier ++ preset :: more) routeId).2.wrapped =
        (m.instrument (earlier ++ more) routeId).2.wrapped := by
  have second : (m.instrument earlier routeId).1.instrument (preset :: more) routeId =
      (((m.instrument earlier routeId).1.instrument more routeId).1,
        ((m.instrument earlier routeId).1.rewriteExports preset routeId).2 ++
          ((m.instrument earlier routeId).1.instrument more routeId).2) := by
    rw [instrument, same]
  rw [instrument_append, instrument_append, second]
  simp only [Report.wrapped_append, unwrapped, List.nil_append, and_self]

variable (m) in
/-- The item is a signature, and what has its name and a body is an exported ambient function. -/
def SignsAmbient (i : Item) : Prop :=
  ∃ span d n, i = .exportDeclaration span (.function d) ∧ d.name = some n ∧ d.body = none ∧
    ∃ span' d' n', .exportDeclaration span' (.function d') ∈ m.items ∧ d'.name = some n' ∧
      n'.text = n.text ∧ d'.body.isSome ∧ d'.traits.declare

end

end Module

/-- A pass that wraps nothing takes the overloads out of the module, which sign ambient functions,
and changes nothing else. Where there are none, later passes find and the stack prints what they
would without the pass. A text in which no pass wraps anything is kept. -/
theorem Instrumenter.unwrapped_keeps_iff {i : Instrumenter} {source routeId : String}
    {options : ReadOptions} {m : Module} {faults : List Diagnostic} {earlier later : List Preset}
    {preset : Preset} (read : Module.ofSource source options = .ok (m, faults))
    (stacked : i.presets = earlier ++ preset :: later)
    (unwrapped :
      ((m.instrument earlier routeId).1.rewriteExports preset routeId).2.wrapped = []) :
    let before := (m.instrument earlier routeId).1
    let after := (before.rewriteExports preset routeId).1
    after = { before with items :=
        before.items.filter (!·.isOverload preset (Surface.ofItems before.items)) } ∧
      (after = before ↔ ∀ j ∈ before.items, ¬ before.Overloads preset j) ∧
      (∀ j ∈ before.items, before.Overloads preset j → before.SignsAmbient j) ∧
      (after = before →
        (∀ more, (m.instrument (earlier ++ preset :: more) routeId).1 =
          (m.instrument (earlier ++ more) routeId).1) ∧
        ∃ t t', i.transform source routeId options = .ok t ∧
          { i with presets := earlier ++ later }.transform source routeId options = .ok t' ∧
          t.code = t'.code ∧ t.report.wrapped = t'.report.wrapped) ∧
      ∃ t, i.transform source routeId options = .ok t ∧
        (t.report.wrapped = [] → t.code = source) := by
  have transformed (i : Instrumenter) : i.transform source routeId options =
      .ok { code := (m.instrument i.presets routeId).1.emit source
              (m.instrument i.presets routeId).2.modified i.format
            report := (m.instrument i.presets routeId).2 } := by
    rw [transform, read]
  refine ⟨Module.rewriteExports_unwrapped unwrapped, Module.rewriteExports_eq_self_iff unwrapped,
    ?_, fun same => ⟨fun more => (Module.instrument_without unwrapped same more).1, ?_⟩, ?_⟩
  · rintro j - ⟨span, d, n, rfl, named, bodiless, -, recognized, span', d', n', listed, named',
      text, bodied⟩
    refine ⟨span, d, n, rfl, named, bodiless, span', d', n', listed, named', text, bodied, ?_⟩
    exact Module.declare_of_unwrapped unwrapped listed named' (text ▸ recognized) bodied
  · refine ⟨_, _, transformed i, transformed _, ?_⟩
    obtain ⟨left, wrapped⟩ := Module.instrument_without unwrapped same later
    have modified : (m.instrument (earlier ++ preset :: later) routeId).2.modified =
        (m.instrument (earlier ++ later) routeId).2.modified := by
      rw [Report.modified, wrapped, Report.modified]
    exact ⟨by simp only [stacked, left, modified], by rw [stacked, wrapped]⟩
  · refine ⟨_, transformed i, fun nothing => ?_⟩
    rw [Report.modified, nothing]
    rfl

def wrappingMeta : Preset :=
  ⟨.standard, [⟨"meta", "./meta", ["meta"]⟩]⟩

/-- The class is skipped, so that the stack prints what it would without the first pass. -/
theorem Instrumenter.skippingClass_keeps :
    ∃ m t t',
      Module.ofSource "export class loader{}export const meta=f" ⟨.typedTagged, false⟩ =
          .ok (m, []) ∧
        (m.rewriteExports .dataFunctions "r").2 = ⟨[], [⟨"loader", .classDeclaration⟩]⟩ ∧
        (∀ j ∈ m.items, ¬ m.Overloads .dataFunctions j) ∧
        Instrumenter.transform ⟨[.dataFunctions, wrappingMeta], .standard⟩
          "export class loader{}export const meta=f" "r" ⟨.typedTagged, false⟩ = .ok t ∧
        Instrumenter.transform ⟨[wrappingMeta], .standard⟩
          "export class loader{}export const meta=f" "r" ⟨.typedTagged, false⟩ = .ok t' ∧
        t.code = t'.code ∧ t.report.wrapped = t'.report.wrapped := by
  have evaluated : (Module.ofSource "export class loader{}export const meta=f"
      ⟨.typedTagged, false⟩).toOption.any (fun read => decide (read.2 = [] ∧
        (read.1.rewriteExports .dataFunctions "r").2 = ⟨[], [⟨"loader", .classDeclaration⟩]⟩ ∧
        ∀ j ∈ read.1.items,
          j.isOverload .dataFunctions (Surface.ofItems read.1.items) = false)) = true := by
    decide +kernel
  obtain ⟨⟨m, faults⟩, read, holds⟩ := (Option.any_eq_true ..).mp evaluated
  obtain ⟨rfl, report, real⟩ := of_decide_eq_true holds
  have read := eq_ok_of_toOption read
  have none : ∀ j ∈ m.items, ¬ m.Overloads .dataFunctions j := fun j listed => by
    rw [Module.overloads_iff, real j listed]
    exact Bool.false_ne_true
  have unwrapped : ((m.instrument [] "r").1.rewriteExports .dataFunctions "r").2.wrapped = [] :=
    congrArg Report.wrapped report
  obtain ⟨-, keeps, -, without, -⟩ :=
    unwrapped_keeps_iff (i := ⟨[.dataFunctions, wrappingMeta], .standard⟩) read rfl unwrapped
  obtain ⟨-, t, t', first, second, same⟩ := without (keeps.mpr none)
  exact ⟨m, t, t', read, report, none, first, second, same⟩

/-- The ambient function is not wrapped, and yet its signature is gone. -/
theorem Instrumenter.signingAmbient_changed :
    ∃ m, Module.ofSource "export function loader(): void;\nexport declare function loader() {}"
          ⟨.typedTagged, true⟩ = .ok (m, []) ∧
      Preset.dataFunctions.fault? = none ∧
      (m.rewriteExports .dataFunctions "r").2.wrapped = [] ∧
      (m.rewriteExports .dataFunctions "r").1 ≠ m := by
  have evaluated : (Module.ofSource
      "export function loader(): void;\nexport declare function loader() {}"
      ⟨.typedTagged, true⟩).toOption.any (fun read => decide (read.2 = [] ∧
        (read.1.rewriteExports .dataFunctions "r").2.wrapped = [] ∧
        (read.1.rewriteExports .dataFunctions "r").1.items.length ≠ read.1.items.length)) =
          true := by
    decide +kernel
  obtain ⟨⟨m, faults⟩, read, holds⟩ := (Option.any_eq_true ..).mp evaluated
  obtain ⟨rfl, unwrapped, fewer⟩ := of_decide_eq_true holds
  exact ⟨m, eq_ok_of_toOption read, by decide, unwrapped, fun same => fewer (by rw [same])⟩

end RouteWrap
