import RouteWrap.Proofs.WrapperImports

/-!
What a walk over a module's items skips. A recognized name of an item or of a specifier is wrapped,
dropped with the signature of a function that is exported with its body, or skipped with a reason;
what is skipped is kept, and what is kept holds no constant that could have been wrapped.
-/

namespace RouteWrap

/-! What items export, as the walk takes it up -/

def VariableDecl.initial? (d : VariableDecl) : Option (String × Tree) :=
  match d.declare, d.declarators with
  | false, [first] =>
      match first.target, first.initial with
      | .bind _ _ n, some value => some (n, value)
      | _, _ => none
  | _, _ => none

theorem VariableDecl.initial?_eq_some {d : VariableDecl} {n : String} {value : Tree} :
    d.initial? = some (n, value) ↔
      d.declare = false ∧ ∃ first s b, d.declarators = [first] ∧ first.target = .bind s b n ∧
        first.initial = some value := by
  constructor
  · intro found
    unfold initial? at found
    split at found
    · next first real only =>
      split at found
      · next s b k v target valued =>
        obtain ⟨rfl, rfl⟩ := Prod.mk.inj (Option.some.inj found)
        exact ⟨real, first, s, b, only, target, valued⟩
      · cases found
    · cases found
  · rintro ⟨real, first, s, b, only, target, valued⟩
    simp [initial?, real, only, target, valued]

namespace Item

/-- The name that an item exports by itself and the value it gives it. -/
def initial? : Item → Option (String × Tree)
  | exportDeclaration _ (.variable d) => d.initial?
  | _ => none

/-- Names that an item exports, each once; what a list exports is for its specifiers to say. -/
def names : Item → List String
  | exportDeclaration _ d => (d.boundNames.map Name.text).eraseDups
  | exportDefault _ v => (Planning.defaultName v).toList
  | exportAll e => (e.exported.map LinkName.text).toList
  | imports _ | declaration _ | exportList _ | statement _ => []

end Item

theorem eraseDups_toList_map (f : α → String) (a? : Option α) :
    (a?.toList.map f).eraseDups = (a?.map f).toList := by
  cases a? with
  | none => rfl
  | some a => simp [List.eraseDups_cons]

/-! Reports of plans -/

/-- The entries for those of the names that the preset recognizes. -/
def Preset.skips (preset : Preset) (names : List String) (reason : SkipReason) :
    List SkippedExport :=
  (names.filter preset.recognizes).map (⟨·, reason⟩)

/-- The entries of the report for a specifier that got this plan. -/
def SpecifierPlan.Skips (preset : Preset) : SpecifierPlan → List SkippedExport → Prop
  | keep s, entries => ∃ reason, entries = preset.skips [s.exported.text] reason
  | reExport .., entries | moved .., entries | aliased .., entries => entries = []

/-- The entries of the report for an item that got this plan, and what is known of the item. -/
def Plan.Skips (preset : Preset) : Plan → List SkippedExport → Prop
  | keep i, entries =>
      (∀ c, i.initial? = some c → preset.recognizes c.1 = false) ∧
        ∃ reason, entries.Perm (preset.skips i.names reason)
  | initial _ d _ _ _, entries => d.declare = false ∧ entries = []
  | list _ ps, entries =>
      ∃ each, List.Forall₂ (SpecifierPlan.Skips preset) ps each ∧ entries = each.flatten
  | drop _, entries | function .., entries => entries = []

namespace Planning

/-- The skipped exports are those before and then those that the answer stands for. -/
abbrev AddsSkipped (skips : α → List SkippedExport → Prop) (before : List SkippedExport) (a : α)
    (p : Progress) : Prop :=
  ∃ new, skips a new ∧ p.report.skipped = before ++ new

variable {preset : Preset} {surface : Surface} {before : List SkippedExport}

theorem skipped_skip (name : String) (reason : SkipReason) :
    Ensures (·.report.skipped = before) (skip name reason)
      fun _ p => p.report.skipped = before ++ [⟨name, reason⟩] := by
  intro p reported
  change p.report.skipped ++ _ = _
  rw [reported]

theorem skipped_fresh (base : String) :
    Ensures (·.report.skipped = before) (fresh base) fun _ p => p.report.skipped = before :=
  fun _ reported => reported

theorem skipped_move (move : String × String) :
    Ensures (·.report.skipped = before) (modify fun p => { p with moves := p.moves ++ [move] })
      fun _ p => p.report.skipped = before :=
  fun _ reported => reported

theorem skipped_wrapperLocal (group : Nat) (e : String) :
    Ensures (·.report.skipped = before) (wrapperLocal preset group e)
      fun _ p => p.report.skipped = before := by
  intro p reported
  have same : ((wrapperLocal preset group e).run p).2.report = p.report := by
    simp only [wrapperLocal, StateT.run, modifyGet, MonadStateOf.modifyGet, StateT.modifyGet]
    split <;> rfl
  rw [same, reported]

theorem skipped_wrap (group : Nat) (e : String) (shape : ExportShape) :
    Ensures (·.report.skipped = before) (wrap preset group e shape)
      fun _ p => p.report.skipped = before := by
  refine .bind (skipped_wrapperLocal group e) fun callee => ?_
  intro p reported
  change p.report.skipped ++ [] = before
  rw [List.append_nil, reported]

theorem skipped_forM_skip (names : List String) (reason : SkipReason) :
    Ensures (·.report.skipped = before) (names.forM fun n => skip n reason)
      fun _ p => p.report.skipped = before ++ names.map (⟨·, reason⟩) := by
  induction names generalizing before with
  | nil => exact .pure fun p reported => by rw [reported, List.map_nil, List.append_nil]
  | cons n ns ih =>
      refine .bind (skipped_skip n reason) fun _ => ?_
      have rest : (before ++ [⟨n, reason⟩]) ++ ns.map (⟨·, reason⟩) =
          before ++ (n :: ns).map (⟨·, reason⟩) := List.append_assoc ..
      exact rest ▸ ih

theorem addsSkipped_mapM {f : α → Planning β} {skips : β → List SkippedExport → Prop}
    (step : ∀ a before, Ensures (·.report.skipped = before) (f a) (AddsSkipped skips before))
    (as : List α) :
    Ensures (·.report.skipped = before) (as.mapM f)
      (AddsSkipped (fun bs entries => ∃ each, List.Forall₂ skips bs each ∧ entries = each.flatten)
        before) := by
  induction as generalizing before with
  | nil =>
      rw [List.mapM_nil]
      exact .pure fun p reported => ⟨[], ⟨[], .nil, rfl⟩, by rw [reported, List.append_nil]⟩
  | cons a as ih =>
      rw [List.mapM_cons]
      refine .bind (step a before) fun b => ?_
      rintro p ⟨new, fits, reported⟩
      obtain ⟨-, ⟨each, related, rfl⟩, reportedAll⟩ := ih p reported
      rw [List.append_assoc] at reportedAll
      exact ⟨_, ⟨new :: each, .cons fits related, rfl⟩, reportedAll⟩

theorem addsSkipped_skip {skips : α → List SkippedExport → Prop} {a : α} {name : String}
    {reason : SkipReason} (fits : skips a [⟨name, reason⟩]) :
    Ensures (·.report.skipped = before) (do skip name reason; return a)
      (AddsSkipped skips before) :=
  .bind (skipped_skip name reason) fun _ => .pure fun _ reported => ⟨_, fits, reported⟩

theorem addsSkipped_nil {skips : α → List SkippedExport → Prop} {a : α} (fits : skips a []) :
    Ensures (·.report.skipped = before) (return a) (AddsSkipped skips before) :=
  .pure fun _ reported => ⟨[], fits, by rw [reported, List.append_nil]⟩

theorem skips_recognized {n : String} (recognized : preset.recognizes n) (reason : SkipReason) :
    preset.skips [n] reason = [⟨n, reason⟩] := by
  rw [Preset.skips, List.filter_cons_of_pos recognized]
  rfl

theorem skips_unrecognized {n : String} (unrecognized : preset.recognizes n = false)
    (reason : SkipReason) : preset.skips [n] reason = [] := by
  rw [Preset.skips, List.filter_cons_of_neg (by simp [unrecognized])]
  rfl

theorem addsSkipped_specifier (l : ExportList) (s : ExportSpecifier) :
    Ensures (·.report.skipped = before) (specifier preset surface l s)
      (AddsSkipped (SpecifierPlan.Skips preset) before) := by
  have skipped {e : String} (exported : s.exported.text = e) (recognized : preset.recognizes e)
      (reason : SkipReason) : SpecifierPlan.Skips preset (.keep s) [⟨e, reason⟩] :=
    ⟨reason, by rw [exported, skips_recognized recognized]⟩
  have passed {e : String} (exported : s.exported.text = e)
      (unrecognized : preset.recognizes e = false) : SpecifierPlan.Skips preset (.keep s) [] :=
    ⟨.typeOnly, by rw [exported, skips_unrecognized unrecognized]⟩
  unfold specifier
  split
  · next span points exported =>
    have text : s.exported.text = points.text := by rw [exported]; rfl
    split
    · next recognized => exact addsSkipped_skip (skipped text recognized _)
    · next unrecognized =>
      rw [Bool.not_eq_true] at unrecognized
      exact addsSkipped_nil (passed text unrecognized)
  · next span e exported =>
    have text : s.exported.text = e := by rw [exported]; rfl
    split
    · next ungrouped =>
      exact addsSkipped_nil (passed text (by simp [Preset.recognizes, ungrouped]))
    next group grouped =>
    have recognized := Preset.recognizes_of_groupIndex grouped
    split
    · exact addsSkipped_skip (skipped text recognized _)
    split
    · refine .bind (skipped_fresh e) fun freshName => ?_
      exact .bind (skipped_wrap group e _) fun callee => addsSkipped_nil rfl
    unfold ownSpecifier
    split
    · exact addsSkipped_skip (skipped text recognized _)
    next inner source named =>
    split
    · exact addsSkipped_skip (skipped text recognized _)
    split
    · refine .bind (skipped_fresh e) fun freshName => ?_
      refine .bind (skipped_move (source, freshName)) fun _ => ?_
      exact .bind (skipped_wrap group e _) fun callee => addsSkipped_nil rfl
    split
    · exact addsSkipped_skip (skipped text recognized _)
    · refine .bind (skipped_fresh e) fun freshName => ?_
      exact .bind (skipped_wrap group e _) fun callee => addsSkipped_nil rfl

/-- Where a declaration holds no constant that could be wrapped, it is kept and its names are
skipped. -/
theorem addsSkipped_skipVariables {span : Span} {d : VariableDecl} (reason : SkipReason)
    (unwrapped : d.initial? = none) :
    Ensures (·.report.skipped = before)
      (do skipVariables preset d reason; return .keep (.exportDeclaration span (.variable d)))
      (AddsSkipped (Plan.Skips preset) before) := by
  refine .bind (skipped_forM_skip (recognizedIn preset d) reason) fun _ => .pure ?_
  intro p reported
  refine ⟨_, ⟨fun c found => ?_, reason, ?_⟩, reported⟩
  · rw [Item.initial?, unwrapped] at found
    cases found
  · exact (List.mergeSort_perm _ _).map _

theorem addsSkipped_planVariables (span : Span) (d : VariableDecl) :
    Ensures (·.report.skipped = before) (planVariables preset span d)
      (AddsSkipped (Plan.Skips preset) before) := by
  unfold planVariables
  split
  · next ambient =>
    exact addsSkipped_skipVariables _ (by simp [VariableDecl.initial?, ambient])
  next real =>
  rw [Bool.not_eq_true] at real
  split
  · next first only =>
    split
    · next inner binder name target =>
      have names : (Item.exportDeclaration span (.variable d)).names = [name] := by
        simp [Item.names, Declaration.boundNames, only, target, Tree.patternNames,
          List.eraseDups_cons]
      split
      · next ungrouped =>
        have unrecognized : preset.recognizes name = false := by
          simp [Preset.recognizes, ungrouped]
        refine addsSkipped_nil ⟨fun c found => ?_, .missingInitializer, ?_⟩
        · obtain ⟨-, first', s, b, only', target', -⟩ := VariableDecl.initial?_eq_some.mp found
          rw [only, List.singleton_inj] at only'
          rw [← only', target, Tree.bind.injEq] at target'
          rw [← target'.2.2, unrecognized]
        · rw [names, skips_unrecognized unrecognized]
      next group grouped =>
      have recognized := Preset.recognizes_of_groupIndex grouped
      split
      · exact .bind (skipped_wrap group name _) fun callee => addsSkipped_nil ⟨real, rfl⟩
      · next unvalued =>
        refine addsSkipped_skip ⟨fun c found => ?_, .missingInitializer, ?_⟩
        · simp [Item.initial?, VariableDecl.initial?, real, only, target, unvalued] at found
        · rw [names, skips_recognized recognized]
    · next unnamed =>
      refine addsSkipped_skipVariables _ ?_
      rw [Option.eq_none_iff_forall_ne_some]
      rintro ⟨n, value⟩ found
      obtain ⟨-, first', s, b, only', target, -⟩ := VariableDecl.initial?_eq_some.mp found
      rw [only, List.singleton_inj] at only'
      exact unnamed s b n (only' ▸ target)
  · next several =>
    refine addsSkipped_skipVariables _ ?_
    rw [Option.eq_none_iff_forall_ne_some]
    rintro ⟨n, value⟩ found
    obtain ⟨-, first, -, -, only, -⟩ := VariableDecl.initial?_eq_some.mp found
    exact several first only

theorem skips_keep {i : Item} {entries : List SkippedExport} (unvalued : i.initial? = none)
    (reason : SkipReason) (skipped : entries = preset.skips i.names reason) :
    Plan.Skips preset (.keep i) entries := by
  refine ⟨fun c found => ?_, reason, .of_eq skipped⟩
  rw [unvalued] at found
  cases found

theorem skips_keep_none {i : Item} (unvalued : i.initial? = none) (unnamed : i.names = []) :
    Plan.Skips preset (.keep i) [] :=
  skips_keep unvalued .typeOnly (by rw [unnamed]; rfl)

theorem skips_keep_recognized {i : Item} {n : String} (unvalued : i.initial? = none)
    (names : i.names = [n]) (recognized : preset.recognizes n) (reason : SkipReason) :
    Plan.Skips preset (.keep i) [⟨n, reason⟩] :=
  skips_keep unvalued reason (by rw [names, skips_recognized recognized])

theorem skips_keep_unrecognized {i : Item} {n : String} (unvalued : i.initial? = none)
    (names : i.names = [n]) (unrecognized : preset.recognizes n = false) :
    Plan.Skips preset (.keep i) [] :=
  skips_keep unvalued .typeOnly (by rw [names, skips_unrecognized unrecognized])

theorem addsSkipped_function (span : Span) (d : FunctionDecl) :
    Ensures (·.report.skipped = before) (function preset surface span d)
      (AddsSkipped (Plan.Skips preset) before) := by
  have names : (Item.exportDeclaration span (.function d)).names = (d.name.map Name.text).toList :=
    eraseDups_toList_map Name.text d.name
  unfold function
  split
  · exact addsSkipped_nil rfl
  split
  · next unnamed =>
    rw [unnamed] at names
    exact addsSkipped_nil (skips_keep_none rfl names)
  next n named =>
  rw [named] at names
  split
  · next ungrouped =>
    exact addsSkipped_nil
      (skips_keep_unrecognized rfl names (by simp [Preset.recognizes, ungrouped]))
  next group grouped =>
  split
  · have recognized := Preset.recognizes_of_groupIndex grouped
    exact addsSkipped_skip (skips_keep_recognized rfl names recognized _)
  · exact .bind (skipped_wrap group n.text _) fun callee => addsSkipped_nil rfl

theorem addsSkipped_named {i : Item} {n : String} (reason : SkipReason)
    (unvalued : i.initial? = none) (names : i.names = [n]) :
    Ensures (·.report.skipped = before)
      (do
        if preset.recognizes n then skip n reason
        return Plan.keep i)
      (AddsSkipped (Plan.Skips preset) before) := by
  dsimp only
  split
  · next recognized =>
    exact addsSkipped_skip (skips_keep_recognized unvalued names recognized reason)
  · next unrecognized =>
    rw [Bool.not_eq_true] at unrecognized
    exact addsSkipped_nil (skips_keep_unrecognized unvalued names unrecognized)

theorem addsSkipped_classes (span : Span) (d : ClassDecl) :
    Ensures (·.report.skipped = before)
      (do classes preset d; return .keep (.exportDeclaration span (.classes d)))
      (AddsSkipped (Plan.Skips preset) before) := by
  have names : (Item.exportDeclaration span (.classes d)).names =
      (d.name.map Name.text).toList := eraseDups_toList_map Name.text d.name
  unfold classes
  split
  · next n named =>
    rw [named] at names
    split
    · next recognized => exact addsSkipped_skip (skips_keep_recognized rfl names recognized _)
    · next unrecognized =>
      rw [Bool.not_eq_true] at unrecognized
      exact addsSkipped_nil (skips_keep_unrecognized rfl names unrecognized)
  · next unnamed =>
    rw [unnamed] at names
    exact addsSkipped_nil (skips_keep_none rfl names)

theorem addsSkipped_item (i : Item) :
    Ensures (·.report.skipped = before) (item preset surface i)
      (AddsSkipped (Plan.Skips preset) before) := by
  unfold item
  split
  · exact addsSkipped_planVariables _ _
  · exact addsSkipped_function _ _
  · exact addsSkipped_classes _ _
  · next l =>
    exact .bind (addsSkipped_mapM (fun s _ => addsSkipped_specifier l s) l.specifiers) fun ps =>
      .pure fun p reported => reported
  · next span v =>
    have names : (Item.exportDefault span v).names = (defaultName v).toList := rfl
    split
    · next n named =>
      rw [named] at names
      exact addsSkipped_named _ rfl names
    · next unnamed =>
      rw [unnamed] at names
      exact addsSkipped_nil (skips_keep_none rfl names)
  · next e =>
    have names : (Item.exportAll e).names = (e.exported.map LinkName.text).toList := rfl
    split
    · next n named =>
      rw [named] at names
      exact addsSkipped_named _ rfl names
    · next unnamed =>
      rw [unnamed] at names
      exact addsSkipped_nil (skips_keep_none rfl names)
  · next noVariable noFunction noClass _ noDefault noAll =>
    refine addsSkipped_nil ?_
    cases i with
    | imports | declaration | statement => exact skips_keep_none rfl rfl
    | exportDeclaration span d =>
        cases d with
        | «variable» d => exact absurd rfl (noVariable span d)
        | function d => exact absurd rfl (noFunction span d)
        | classes d => exact absurd rfl (noClass span d)
        | other t => exact skips_keep_none rfl rfl
    | exportList l => exact skips_keep_none rfl rfl
    | exportDefault span v => exact absurd rfl (noDefault span v)
    | exportAll e => exact absurd rfl (noAll e)

end Planning

theorem exists_of_forall₂_left {R : α → β → Prop} {as : List α} {bs : List β}
    (related : List.Forall₂ R as bs) {a : α} (listed : a ∈ as) : ∃ b ∈ bs, R a b := by
  induction related with
  | nil => cases listed
  | cons first _ ih =>
      rcases List.mem_cons.mp listed with rfl | listed
      · exact ⟨_, List.mem_cons_self, first⟩
      · obtain ⟨b, listedB, fits⟩ := ih listed
        exact ⟨b, List.mem_cons_of_mem _ listedB, fits⟩

theorem exists_of_forall₂_right {R : α → β → Prop} {as : List α} {bs : List β}
    (related : List.Forall₂ R as bs) {b : β} (listed : b ∈ bs) : ∃ a ∈ as, R a b :=
  exists_of_forall₂_left related.flip listed

/-- The report skips what the plans of the items stand for. -/
theorem Module.skips_plans (m : Module) (preset : Preset) (routeId : String) :
    ∃ each, List.Forall₂ (Plan.Skips preset) (m.plans preset).1 each ∧
      (m.rewriteExports preset routeId).2.skipped = each.flatten := by
  obtain ⟨-, ⟨each, related, rfl⟩, reported⟩ :=
    Planning.addsSkipped_mapM (fun i _ => Planning.addsSkipped_item i) m.items
      (Progress.initial m) rfl
  exact ⟨each, related, reported⟩

end RouteWrap
