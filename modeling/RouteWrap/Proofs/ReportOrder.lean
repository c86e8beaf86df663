import Mathlib.Data.List.Sort
import RouteWrap.Proofs.Reports

/-!
The order of a report. Each of its entries is for a name that stands in the text, where an item
exports it. Items and the specifiers of a list are taken up in the order of the text, and so are
the names of their entries, but for a variable declaration that is skipped: its names are listed in
the order of the alphabet.
-/

namespace RouteWrap

/-- Each text once, where it comes first. -/
def Name.firsts : List Name → List Name
  | [] => []
  | n :: ns => n :: (firsts ns).filter fun n' => !n'.text == n.text

theorem eraseDups_filter [BEq α] [LawfulBEq α] (p : α → Bool) :
    (as : List α) → (as.filter p).eraseDups = as.eraseDups.filter p
  | [] => rfl
  | a :: as => by
      have rest := eraseDups_filter p (as.filter fun b => !b == a)
      rw [List.filter_filter] at rest
      rw [List.eraseDups_cons, List.filter_cons, List.filter_cons, ← rest]
      split
      · rw [List.eraseDups_cons, List.filter_filter]
        simp only [Bool.and_comm]
      · rename_i dropped
        refine congrArg List.eraseDups (List.filter_congr fun b _ => ?_)
        by_cases same : b = a
        · rw [same, Bool.eq_false_of_not_eq_true dropped, Bool.false_and]
        · rw [beq_false_of_ne same, Bool.not_false, Bool.and_true]
termination_by as => as.length
decreasing_by exact Nat.lt_succ_of_le (List.length_filter_le _ _)

namespace Name

theorem map_text_firsts (ns : List Name) : (firsts ns).map text = (ns.map text).eraseDups := by
  induction ns with
  | nil => rfl
  | cons n ns ih =>
      rw [firsts, List.map_cons, List.map_cons, List.eraseDups_cons, eraseDups_filter, ← ih,
        List.filter_map]
      rfl

theorem firsts_sublist (ns : List Name) : (firsts ns).Sublist ns := by
  induction ns with
  | nil => exact .slnil
  | cons n ns ih => exact (List.filter_sublist.trans ih).cons_cons n

/-- One stands before the next in the text. -/
def Ascending (ns : List Name) : Prop :=
  ns.Pairwise fun a b => a.span.start < b.span.start

end Name

/-! Where exported names stand -/

def LinkName.place (n : LinkName) : Name := ⟨n.span, n.text⟩

def DefaultValue.place? : DefaultValue → Option Name
  | .declaration (.function d) => d.name
  | .declaration (.classes d) => d.name
  | .expression (.ref s _ n) => some ⟨s, n⟩
  | _ => none

/-- The names that an item exports, in order, with where they stand. -/
def Item.places : Item → List Name
  | exportDeclaration _ d => d.boundNames
  | exportList l => l.specifiers.map (·.exported.place)
  | exportDefault _ v => v.place?.toList
  | exportAll e => (e.exported.map LinkName.place).toList
  | imports _ | declaration _ | statement _ => []

def Module.places (m : Module) : List Name := m.items.flatMap Item.places

theorem DefaultValue.map_text_place? (v : DefaultValue) :
    v.place?.map Name.text = Planning.defaultName v := by
  cases v with
  | declaration d => cases d <;> rfl
  | expression t => cases t <;> rfl

/-- The names that the walk takes up are those that stand in the item, each once. -/
theorem Item.map_text_firsts_places {i : Item} (unlisted : ∀ l, i ≠ .exportList l) :
    (Name.firsts i.places).map Name.text = i.names := by
  have single (n? : Option Name) :
      (Name.firsts n?.toList).map Name.text = (n?.map Name.text).toList := by
    cases n? <;> rfl
  cases i with
  | exportList l => exact absurd rfl (unlisted l)
  | exportDeclaration span d => exact Name.map_text_firsts d.boundNames
  | exportDefault span v =>
      rw [names, ← v.map_text_place?]
      exact single v.place?
  | exportAll e =>
      have same : e.exported.map LinkName.text = (e.exported.map LinkName.place).map Name.text := by
        rw [Option.map_map]
        rfl
      rw [names, same]
      exact single (e.exported.map LinkName.place)
  | imports | declaration | statement => rfl

/-! Where the names of a report stand -/

namespace SpecifierPlan

def wrappedAt : SpecifierPlan → List Name
  | keep _ => []
  | reExport s _ _ | moved s _ _ | aliased s _ _ _ => [s.exported.place]

def skippedAt (preset : Preset) : SpecifierPlan → List Name
  | keep s => [s.exported.place].filter fun n => preset.recognizes n.text
  | reExport .. | moved .. | aliased .. => []

end SpecifierPlan

/-- The recognized names of a variable declaration that is skipped, in the order of its text. -/
def Planning.recognizedAt (preset : Preset) (d : VariableDecl) : List Name :=
  (Name.firsts (Declaration.boundNames (.variable d))).filter fun n => preset.recognizes n.text

/-- The recognized names of an item that is skipped, in the order of the report. -/
def Item.skippedAt (preset : Preset) : Item → List Name
  | exportDeclaration _ (.variable d) =>
      (Planning.recognizedAt preset d).mergeSort fun a b => decide (a.text ≤ b.text)
  | i => (Name.firsts i.places).filter fun n => preset.recognizes n.text

namespace Plan

def wrappedAt : Plan → List Name
  | keep _ | drop _ => []
  | initial _ _ first _ _ => first.target.patternNames
  | function _ d _ _ => d.name.toList
  | list _ ps => ps.flatMap SpecifierPlan.wrappedAt

def skippedAt (preset : Preset) : Plan → List Name
  | keep i => i.skippedAt preset
  | list _ ps => ps.flatMap (SpecifierPlan.skippedAt preset)
  | drop _ | initial .. | function .. => []

end Plan

/-- The entries are for the names that the plan skips. -/
def Plan.Lists (preset : Preset) (p : Plan) (entries : List SkippedExport) : Prop :=
  entries.map (·.name) = (p.skippedAt preset).map Name.text

theorem map_flatten_of_forall₂ {f : β → δ} {g : γ → δ} {out : α → List γ} {as : List α}
    {each : List (List β)}
    (related : List.Forall₂ (fun a bs => bs.map f = (out a).map g) as each) :
    each.flatten.map f = (as.flatMap out).map g := by
  induction related with
  | nil => rfl
  | cons first _ ih =>
      rw [List.flatten_cons, List.map_append, List.flatMap_cons, List.map_append, first, ih]

theorem Preset.filter_map_text (preset : Preset) (ns : List Name) :
    (ns.map Name.text).filter preset.recognizes =
      (ns.filter fun n => preset.recognizes n.text).map Name.text :=
  List.filter_map

theorem Preset.map_name_skips (preset : Preset) (names : List String) (reason : SkipReason) :
    (preset.skips names reason).map (·.name) = names.filter preset.recognizes := by
  rw [Preset.skips, List.map_map]
  exact List.map_id _

theorem SpecifierPlan.map_name_skips {preset : Preset} {p : SpecifierPlan}
    {entries : List SkippedExport} (skips : p.Skips preset entries) :
    entries.map (·.name) = (p.skippedAt preset).map Name.text := by
  cases p with
  | keep s =>
      obtain ⟨reason, rfl⟩ := skips
      exact (preset.map_name_skips _ _).trans (preset.filter_map_text [s.exported.place])
  | reExport | moved | aliased =>
      obtain rfl := skips
      rfl

/-- Of all items only lists and variable declarations export several names. -/
theorem Item.exists_names_eq {i : Item}
    (other : ∀ span d, i ≠ .exportDeclaration span (.variable d)) :
    ∃ n? : Option String, i.names = n?.toList := by
  cases i with
  | exportDeclaration span d =>
      cases d with
      | «variable» d => exact absurd rfl (other span d)
      | function d => exact ⟨_, eraseDups_toList_map Name.text d.name⟩
      | classes d => exact ⟨_, eraseDups_toList_map Name.text d.name⟩
      | other t => exact ⟨none, rfl⟩
  | exportDefault | exportAll => exact ⟨_, rfl⟩
  | imports | declaration | exportList | statement => exact ⟨none, rfl⟩

theorem Item.skippedAt_of_other {i : Item} (preset : Preset)
    (other : ∀ span d, i ≠ .exportDeclaration span (.variable d)) :
    i.skippedAt preset = (Name.firsts i.places).filter fun n => preset.recognizes n.text := by
  cases i with
  | exportDeclaration span d =>
      cases d with
      | «variable» d => exact absurd rfl (other span d)
      | function | classes | other => rfl
  | _ => rfl

/-- Where the item is no variable declaration, the order leaves no choice. -/
theorem Plan.lists_of_skips {preset : Preset} {p : Plan} {entries : List SkippedExport}
    (skips : p.Skips preset entries)
    (other : ∀ span d, p ≠ .keep (.exportDeclaration span (.variable d)))
    (unlisted : ∀ l, p ≠ .keep (.exportList l)) : p.Lists preset entries := by
  cases p with
  | keep i =>
      obtain ⟨-, reason, same⟩ := skips
      have other' (span : Span) (d : VariableDecl) : i ≠ .exportDeclaration span (.variable d) :=
        fun is => other span d (congrArg keep is)
      have exactly : entries = preset.skips i.names reason := by
        obtain ⟨n?, names⟩ := i.exists_names_eq other'
        rw [names] at same ⊢
        cases n? with
        | none => exact same.eq_nil
        | some n =>
            cases recognized : preset.recognizes n with
            | true =>
                rw [Option.toList_some, Planning.skips_recognized recognized] at same ⊢
                exact List.perm_singleton.mp same
            | false =>
                rw [Option.toList_some, Planning.skips_unrecognized recognized] at same ⊢
                exact same.eq_nil
      rw [Lists, exactly, preset.map_name_skips, skippedAt, i.skippedAt_of_other preset other',
        ← preset.filter_map_text,
        Item.map_text_firsts_places fun l is => unlisted l (congrArg keep is)]
  | list l ps =>
      obtain ⟨each, related, rfl⟩ := skips
      exact map_flatten_of_forall₂ (related.imp fun _ _ => SpecifierPlan.map_name_skips)
  | drop i =>
      obtain rfl := skips
      rfl
  | initial =>
      obtain ⟨-, rfl⟩ := skips
      rfl
  | function =>
      obtain rfl := skips
      rfl

namespace Planning

variable {preset : Preset} {surface : Surface} {before : List SkippedExport}

theorem map_text_recognizedAt (preset : Preset) (d : VariableDecl) :
    ((recognizedAt preset d).mergeSort fun a b => decide (a.text ≤ b.text)).map Name.text =
      recognizedIn preset d := by
  have sorted := List.map_mergeSort (f := Name.text) (l := recognizedAt preset d)
    (r := fun a b => decide (a.text ≤ b.text)) (s := fun a b => decide (a ≤ b))
    fun _ _ _ _ => rfl
  rw [sorted, recognizedAt, recognizedIn, ← Name.map_text_firsts, List.filter_map]
  rfl

theorem lists_of_variables {span : Span} {d : VariableDecl} {entries : List SkippedExport}
    (listed : entries.map (·.name) = recognizedIn preset d) :
    Plan.Lists preset (.keep (.exportDeclaration span (.variable d))) entries :=
  listed.trans (map_text_recognizedAt preset d).symm

theorem lists_skipVariables {span : Span} {d : VariableDecl} (reason : SkipReason) :
    Ensures (·.report.skipped = before)
      (do skipVariables preset d reason; return .keep (.exportDeclaration span (.variable d)))
      (AddsSkipped (Plan.Lists preset) before) := by
  refine .bind (skipped_forM_skip (recognizedIn preset d) reason) fun _ => .pure ?_
  intro p reported
  refine ⟨_, lists_of_variables ?_, reported⟩
  rw [List.map_map]
  exact List.map_id _

theorem recognizedIn_single {d : VariableDecl} {first : Declarator} {s : Span} {b : Binder}
    {n : String} (only : d.declarators = [first]) (target : first.target = .bind s b n) :
    recognizedIn preset d = [n].filter preset.recognizes := by
  have names : (Declaration.boundNames (.variable d)).map Name.text = [n] := by
    simp [Declaration.boundNames, only, target, Tree.patternNames]
  have once : [n].eraseDups = [n] := rfl
  rw [recognizedIn, names, once, List.filter_singleton]
  cases preset.recognizes n
  · exact List.mergeSort_nil
  · exact List.mergeSort_singleton n

theorem lists_planVariables (span : Span) (d : VariableDecl) :
    Ensures (·.report.skipped = before) (planVariables preset span d)
      (AddsSkipped (Plan.Lists preset) before) := by
  unfold planVariables
  split
  · exact lists_skipVariables _
  split
  · next first only =>
    split
    · next inner binder name target =>
      have names := @recognizedIn_single preset _ _ _ _ _ only target
      split
      · next ungrouped =>
        have unrecognized : preset.recognizes name = false := by
          simp [Preset.recognizes, ungrouped]
        refine addsSkipped_nil (lists_of_variables ?_)
        rw [names, List.filter_cons_of_neg (by simp [unrecognized])]
        rfl
      next group grouped =>
      have recognized := Preset.recognizes_of_groupIndex grouped
      split
      · exact .bind (skipped_wrap group name _) fun callee => addsSkipped_nil rfl
      · refine addsSkipped_skip (lists_of_variables ?_)
        rw [names, List.filter_cons_of_pos recognized]
        rfl
    · exact lists_skipVariables _
  · exact lists_skipVariables _

theorem lists_item {names : List String} {aliases : List String} {moves : Renaming}
    {entries : List WrappedExport} (i : Item) :
    Ensures (fun p => p.Accounts names preset aliases moves entries ∧ p.report.skipped = before)
      (item preset surface i) (AddsSkipped (Plan.Lists preset) before) := by
  rintro p ⟨accounts, reported⟩
  by_cases declares : ∃ span d, i = .exportDeclaration span (.variable d)
  · obtain ⟨span, d, rfl⟩ := declares
    exact lists_planVariables span d p reported
  · obtain ⟨fits, -⟩ := accounts_item i p accounts
    obtain ⟨new, skips, reported'⟩ := addsSkipped_item i p reported
    refine ⟨new, Plan.lists_of_skips skips (fun span d is => ?_) fun l is => ?_, reported'⟩
    · rw [is] at fits
      cases fits
      exact declares ⟨span, d, rfl⟩
    · rw [is] at fits
      cases fits with
      | keep _ unlisted => exact unlisted l rfl

end Planning

theorem SpecifierPlan.map_name_entries (preset : Preset) (p : SpecifierPlan) :
    (p.entries preset).map (·.name) = p.wrappedAt.map Name.text := by
  cases p <;> rfl

theorem Plan.For.map_name_entries {preset : Preset} {surface : Surface} {i : Item} {p : Plan}
    (fits : Plan.For preset surface i p) :
    (p.entries preset).map (·.name) = p.wrappedAt.map Name.text := by
  cases fits with
  | keep | drop => rfl
  | initial =>
      rw [Plan.entries, List.map_map]
      rfl
  | function callee named =>
      rw [Plan.wrappedAt, named]
      rfl
  | list =>
      rw [Plan.entries, Plan.wrappedAt, List.map_flatMap, List.map_flatMap]
      exact List.flatMap_congr fun p _ => p.map_name_entries preset

namespace Module

/-- The accounts are those of the plans, and so are the entries for what is skipped. -/
def Listed (m : Module) (preset : Preset) (plans : List Plan) (p : Progress) : Prop :=
  p.Accounts m.names preset (plans.flatMap Plan.aliases) (plans.flatMap Plan.moves)
      (plans.flatMap (Plan.entries preset)) ∧
    ∃ each, List.Forall₂ (Plan.Lists preset) plans each ∧ p.report.skipped = each.flatten

theorem listed_plans (m : Module) (preset : Preset) :
    m.Listed preset (m.plans preset).1 (m.plans preset).2 := by
  have step (i : Item) (plans : List Plan) :
      Planning.Ensures (m.Listed preset plans) (Planning.item preset (Surface.ofItems m.items) i)
        fun plan p => True ∧ m.Listed preset (plans ++ [plan]) p := by
    rintro p ⟨accounts, each, lists, reported⟩
    have added := @Planning.accounts_item _ _ (Surface.ofItems m.items) _ _ _ i p accounts
    obtain ⟨new, listed, reported'⟩ := Planning.lists_item i p ⟨accounts, reported⟩
    refine ⟨trivial, by simpa using added.2, each ++ [new], ?_, ?_⟩
    · exact List.rel_append lists (.cons listed .nil)
    · rw [List.flatten_append, List.flatten_singleton, reported']
  have walked := Planning.Ensures.mapM step m.items [] (Progress.initial m)
    ⟨Progress.accounts_initial m preset, [], .nil, rfl⟩
  exact walked.2

/-- The report lists what the plans wrap and skip, in their order. -/
theorem report_lists (m : Module) (preset : Preset) (routeId : String) :
    (m.rewriteExports preset routeId).2.wrapped.map (·.name) =
        ((m.plans preset).1.flatMap Plan.wrappedAt).map Name.text ∧
      (m.rewriteExports preset routeId).2.skipped.map (·.name) =
        ((m.plans preset).1.flatMap (Plan.skippedAt preset)).map Name.text := by
  constructor
  · change (m.plans preset).2.report.wrapped.map _ = _
    rw [(m.accounts_plans preset).2.entries, List.map_flatMap, List.map_flatMap]
    exact List.flatMap_congr fun p planned => (m.for_of_mem_plans planned).map_name_entries
  · obtain ⟨-, each, lists, skipped⟩ := m.listed_plans preset
    change (m.plans preset).2.report.skipped.map _ = _
    rw [skipped]
    exact map_flatten_of_forall₂ lists

end Module

/-! Their places are those of the items, in order -/

theorem SpecifierPlan.wrappedAt_sublist (p : SpecifierPlan) :
    p.wrappedAt.Sublist [p.origin.exported.place] := by
  cases p with
  | keep => exact List.nil_sublist _
  | reExport | moved | aliased => exact .refl _

theorem SpecifierPlan.skippedAt_sublist (preset : Preset) (p : SpecifierPlan) :
    (p.skippedAt preset).Sublist [p.origin.exported.place] := by
  cases p with
  | keep => exact List.filter_sublist
  | reExport | moved | aliased => exact List.nil_sublist _

theorem flatMap_sublist_map {f : α → List β} {g : α → β} {as : List α}
    (each : ∀ a, (f a).Sublist [g a]) : (as.flatMap f).Sublist (as.map g) := by
  induction as with
  | nil => exact .slnil
  | cons a as ih => exact (each a).append ih

theorem flatMap_sublist_flatMap {f g : α → List β} {as : List α}
    (each : ∀ a ∈ as, (f a).Sublist (g a)) : (as.flatMap f).Sublist (as.flatMap g) := by
  induction as with
  | nil => exact .slnil
  | cons a as ih =>
      rw [List.forall_mem_cons] at each
      exact each.1.append (ih each.2)

theorem flatMap_subperm_flatMap {f g : α → List β} {as : List α}
    (each : ∀ a ∈ as, (f a).Subperm (g a)) : (as.flatMap f).Subperm (as.flatMap g) := by
  induction as with
  | nil => exact .refl _
  | cons a as ih =>
      rw [List.forall_mem_cons] at each
      exact each.1.append (ih each.2)

theorem sublist_flatMap_of_mem {f : α → List β} {a : α} {as : List α} (listed : a ∈ as) :
    (f a).Sublist (as.flatMap f) := by
  rw [List.flatMap_def]
  exact List.sublist_flatten_of_mem (List.mem_map_of_mem listed)

theorem SpecifierPlan.flatMap_sublist_places {preset : Preset} {surface : Surface} {l : ExportList}
    {ps : List SpecifierPlan} {at? : SpecifierPlan → List Name}
    (each : List.Forall₂ (For preset surface l) l.specifiers ps)
    (own : ∀ p, (at? p).Sublist [p.origin.exported.place]) :
    (ps.flatMap at?).Sublist (Item.places (.exportList l)) := by
  obtain ⟨origins, -⟩ := for_origins each
  rw [Item.places, ← origins, List.map_map]
  exact flatMap_sublist_map own

theorem Plan.For.wrappedAt_sublist {preset : Preset} {surface : Surface} {i : Item} {p : Plan}
    (fits : For preset surface i p) : p.wrappedAt.Sublist i.places := by
  cases fits with
  | keep | drop => exact List.nil_sublist _
  | initial callee only =>
      rw [Item.places, Declaration.boundNames, only, List.flatMap_singleton]
      exact .refl _
  | function => exact .refl _
  | list each => exact SpecifierPlan.flatMap_sublist_places each SpecifierPlan.wrappedAt_sublist

/-- The recognized names of the declaration stand in the order of the alphabet. -/
def VariableDecl.Alphabetic (preset : Preset) (d : VariableDecl) : Prop :=
  (Planning.recognizedAt preset d).Pairwise fun a b => a.text ≤ b.text

theorem VariableDecl.Alphabetic.mergeSort_eq {preset : Preset} {d : VariableDecl}
    (alphabetic : d.Alphabetic preset) :
    (Planning.recognizedAt preset d).mergeSort (fun a b => decide (a.text ≤ b.text)) =
      Planning.recognizedAt preset d :=
  List.mergeSort_of_pairwise (alphabetic.imp fun sorted => decide_eq_true sorted)

namespace Item

theorem skippedAt_perm (preset : Preset) (i : Item) :
    (i.skippedAt preset).Perm
      ((Name.firsts i.places).filter fun n => preset.recognizes n.text) := by
  unfold skippedAt
  split
  · exact List.mergeSort_perm _ _
  · exact .refl _

theorem filter_firsts_sublist (p : Name → Bool) (ns : List Name) :
    ((Name.firsts ns).filter p).Sublist ns :=
  List.filter_sublist.trans (Name.firsts_sublist ns)

/-- What is skipped is reported in the order of the text where that is the one of the alphabet. -/
theorem ascending_skippedAt_iff {preset : Preset} {span : Span} {d : VariableDecl}
    (ascending : Name.Ascending (places (.exportDeclaration span (.variable d)))) :
    Name.Ascending (skippedAt preset (.exportDeclaration span (.variable d))) ↔
      d.Alphabetic preset := by
  have total (a b : Name) : (decide (a.text ≤ b.text) || decide (b.text ≤ a.text)) = true := by
    simpa using String.le_total a.text b.text
  have trans (a b c : Name) (first : decide (a.text ≤ b.text) = true)
      (second : decide (b.text ≤ c.text) = true) : decide (a.text ≤ c.text) = true := by
    simp only [decide_eq_true_eq] at first second ⊢
    exact String.le_trans first second
  have standing : Name.Ascending (Planning.recognizedAt preset d) :=
    ascending.sublist (filter_firsts_sublist _ _)
  constructor
  · intro listed
    have same : Planning.recognizedAt preset d =
        (Planning.recognizedAt preset d).mergeSort fun a b => decide (a.text ≤ b.text) :=
      (List.mergeSort_perm _ _).symm.eq_of_pairwise
        (fun a b _ _ first second => absurd first (Nat.lt_asymm second)) standing listed
    rw [VariableDecl.Alphabetic, same]
    exact (List.pairwise_mergeSort trans total _).imp fun sorted => of_decide_eq_true sorted
  · intro alphabetic
    rw [skippedAt, alphabetic.mergeSort_eq]
    exact standing

end Item

theorem VariableDecl.alphabetic_single {d : VariableDecl} {first : Declarator} {s : Span}
    {b : Binder} {n : String} (preset : Preset) (only : d.declarators = [first])
    (target : first.target = .bind s b n) : d.Alphabetic preset := by
  have names : Declaration.boundNames (.variable d) = [⟨s, n⟩] := by
    simp [Declaration.boundNames, only, target, Tree.patternNames]
  rw [Alphabetic, Planning.recognizedAt, names]
  exact (List.pairwise_singleton _ _).sublist (Item.filter_firsts_sublist _ _)

namespace Plan.For

variable {preset : Preset} {surface : Surface} {i : Item} {p : Plan}

theorem skippedAt_subperm (fits : For preset surface i p) :
    (p.skippedAt preset).Subperm i.places := by
  cases fits with
  | keep =>
      exact (i.skippedAt_perm preset).subperm.trans (Item.filter_firsts_sublist _ _).subperm
  | drop | initial | function => exact List.nil_subperm
  | list each =>
      exact (SpecifierPlan.flatMap_sublist_places each
        (SpecifierPlan.skippedAt_sublist preset)).subperm

theorem skippedAt_sublist (fits : For preset surface i p)
    (alphabetic : ∀ span d, i = .exportDeclaration span (.variable d) → d.Alphabetic preset) :
    (p.skippedAt preset).Sublist i.places := by
  cases fits with
  | keep =>
      by_cases declares : ∃ span d, i = .exportDeclaration span (.variable d)
      · obtain ⟨span, d, rfl⟩ := declares
        rw [Plan.skippedAt, Item.skippedAt, (alphabetic span d rfl).mergeSort_eq]
        exact Item.filter_firsts_sublist _ _
      · rw [Plan.skippedAt, i.skippedAt_of_other preset fun span d is => declares ⟨span, d, is⟩]
        exact Item.filter_firsts_sublist _ _
  | drop | initial | function => exact List.nil_sublist _
  | list each =>
      exact SpecifierPlan.flatMap_sublist_places each (SpecifierPlan.skippedAt_sublist preset)

end Plan.For

namespace Module

variable (m : Module) (preset : Preset)

def wrappedPlaces : List Name := (m.plans preset).1.flatMap Plan.wrappedAt

def skippedPlaces : List Name := (m.plans preset).1.flatMap (Plan.skippedAt preset)

theorem places_eq : m.places = (m.plans preset).1.flatMap fun p => p.origin.places := by
  rw [places, ← m.origins_plans preset, List.flatMap_map]

theorem wrappedPlaces_sublist : (m.wrappedPlaces preset).Sublist m.places := by
  rw [m.places_eq preset]
  exact flatMap_sublist_flatMap fun p planned => (m.for_of_mem_plans planned).wrappedAt_sublist

theorem skippedPlaces_subperm : (m.skippedPlaces preset).Subperm m.places := by
  rw [m.places_eq preset]
  exact flatMap_subperm_flatMap fun p planned => (m.for_of_mem_plans planned).skippedAt_subperm

theorem ascending_skippedPlaces_iff (ascending : Name.Ascending m.places) :
    Name.Ascending (m.skippedPlaces preset) ↔
      ∀ span d, .exportDeclaration span (.variable d) ∈ m.items → d.Alphabetic preset := by
  have own {i : Item} (listed : i ∈ m.items) : Name.Ascending i.places :=
    ascending.sublist (sublist_flatMap_of_mem listed)
  constructor
  · intro reported span d listed
    obtain ⟨p, planned, origin⟩ := List.mem_map.mp ((m.origins_plans preset).symm ▸ listed)
    have each : Name.Ascending (p.skippedAt preset) :=
      reported.sublist (sublist_flatMap_of_mem planned)
    have fits := m.for_of_mem_plans planned
    rw [origin] at fits
    cases fits with
    | keep => exact (Item.ascending_skippedAt_iff (own listed)).mp each
    | initial callee only target => exact VariableDecl.alphabetic_single preset only target
  · intro alphabetic
    have among : (m.skippedPlaces preset).Sublist m.places := by
      rw [m.places_eq preset]
      refine flatMap_sublist_flatMap fun p planned => ?_
      exact (m.for_of_mem_plans planned).skippedAt_sublist fun span d is =>
        alphabetic span d (is ▸ m.origin_mem_items planned)
    exact ascending.sublist among

end Module

end RouteWrap
