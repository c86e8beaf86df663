import Mathlib.Data.List.Perm.Basic
import RouteWrap.Proofs.FreshNames
import RouteWrap.Rewrite.Exports

/-!
What the walk over a module's items comes to. Each operation of the walk keeps the accounts: the
names handed out are fresh and pairwise different, and moves and report entries are those of the
plans made so far. So are those of the whole walk, and every plan fits its item.
-/

namespace RouteWrap

/-- The report's entry for an export that is wrapped by `callee`. -/
def Preset.entry (preset : Preset) (e : String) (shape : ExportShape) (callee : String) :
    WrappedExport :=
  let g := ((preset.groupIndex e).bind fun i => preset.groups[i]?).getD default
  { name := e, shape, wrapper := preset.wrapperName e, wrapperLocal := callee
    group := g.name, runtimePath := g.runtimePath }

theorem Preset.recognizes_of_groupIndex {preset : Preset} {e : String} {group : Nat}
    (grouped : preset.groupIndex e = some group) : preset.recognizes e := by
  simp [Preset.recognizes, grouped]

/-- `n` is what the wrapper of `e` is called beside names that are taken: what the runtime calls it,
or a candidate for that if it is one of those names. -/
def Preset.Calls (preset : Preset) (taken : List String) (e n : String) : Prop :=
  n = preset.wrapperName e ∨
    preset.wrapperName e ∈ taken ∧
      ∃ k, n = FreshNames.candidate (FreshNames.stem (preset.wrapperName e)) k

theorem Preset.Calls.mono {preset : Preset} {taken taken' : List String} {e n : String}
    (calls : preset.Calls taken e n) (more : taken ⊆ taken') : preset.Calls taken' e n :=
  calls.imp_right fun ⟨isTaken, numbered⟩ => ⟨more isTaken, numbered⟩

theorem eraseDups_concat [BEq α] [LawfulBEq α] (as : List α) (a : α) :
    (as ++ [a]).eraseDups = if as.elem a then as.eraseDups else as.eraseDups ++ [a] := by
  rw [List.eraseDups_append, List.removeAll]
  by_cases known : a ∈ as
  · simp [known]
  · simp [known, List.eraseDups_cons]

namespace SpecifierPlan

def aliases : SpecifierPlan → List String
  | keep _ => []
  | reExport _ freshName _ | moved _ freshName _ | aliased _ _ freshName _ => [freshName]

def moves : SpecifierPlan → Renaming
  | moved s freshName _ => [(s.localName.text, freshName)]
  | _ => []

def entries (preset : Preset) : SpecifierPlan → List WrappedExport
  | keep _ => []
  | reExport s _ callee => [preset.entry s.exported.text .reExport callee]
  | moved s _ callee | aliased s _ _ callee =>
      [preset.entry s.exported.text .importReExport callee]

/-- The plans that a specifier of a list can get. -/
inductive For (preset : Preset) (surface : Surface) (l : ExportList) (s : ExportSpecifier) :
    SpecifierPlan → Prop
  | keep : For preset surface l s (.keep s)
  | reExport {span : Span} {e : String} (k : Nat) (callee : String)
      (exported : s.exported = .name span e) (recognized : preset.recognizes e)
      (valued : (l.typeOnly || s.typeOnly) = false) (requested : l.request.isSome) :
      For preset surface l s (.reExport s (FreshNames.candidate (FreshNames.stem e) k) callee)
  | moved {span inner : Span} {e : String} (k : Nat) (callee : String)
      (exported : s.exported = .name span e) (recognized : preset.recognizes e)
      (valued : (l.typeOnly || s.typeOnly) = false) (own : l.request = none)
      (named : s.localName = .name inner e) (imported : surface.imports e) :
      For preset surface l s (.moved s (FreshNames.candidate (FreshNames.stem e) k) callee)
  | aliased {span inner : Span} {e source : String} (k : Nat) (callee : String)
      (exported : s.exported = .name span e) (recognized : preset.recognizes e)
      (valued : (l.typeOnly || s.typeOnly) = false) (own : l.request = none)
      (named : s.localName = .name inner source) (imported : surface.imports source)
      (renamed : source ≠ e) (free : surface.binds e = false) :
      For preset surface l s (.aliased s source (FreshNames.candidate (FreshNames.stem e) k) callee)

end SpecifierPlan

namespace Plan

def specifiers : Plan → List SpecifierPlan
  | list _ ps => ps
  | _ => []

def aliases (p : Plan) : List String := p.specifiers.flatMap SpecifierPlan.aliases

def moves (p : Plan) : Renaming := p.specifiers.flatMap SpecifierPlan.moves

def entries (preset : Preset) : Plan → List WrappedExport
  | initial _ _ first _ callee =>
      first.target.patternNames.map fun n => preset.entry n.text .variableDeclaration callee
  | function _ _ name callee => [preset.entry name .functionDeclaration callee]
  | list _ ps => ps.flatMap (SpecifierPlan.entries preset)
  | _ => []

/-- The plans that an item can get. -/
inductive For (preset : Preset) (surface : Surface) : Item → Plan → Prop
  | keep (i : Item) (unlisted : ∀ l, i ≠ .exportList l)
      (kept : ∀ span d, i = .exportDeclaration span (.function d) →
        Planning.isOverload preset surface d = false) :
      For preset surface i (.keep i)
  | drop {span : Span} {d : FunctionDecl}
      (overload : Planning.isOverload preset surface d) :
      For preset surface (.exportDeclaration span (.function d))
        (.drop (.exportDeclaration span (.function d)))
  | initial {span inner : Span} {binder : Binder} {name : String} {d : VariableDecl}
      {first : Declarator} {value : Tree} (callee : String)
      (only : d.declarators = [first]) (target : first.target = .bind inner binder name)
      (valued : first.initial = some value) (recognized : preset.recognizes name) :
      For preset surface (.exportDeclaration span (.variable d))
        (.initial span d first value callee)
  | function {span : Span} {d : FunctionDecl} {n : Name} (callee : String)
      (named : d.name = some n) (bodied : d.body.isSome) (real : d.traits.declare = false)
      (recognized : preset.recognizes n.text) :
      For preset surface (.exportDeclaration span (.function d))
        (.function span d n.text callee)
  | list {l : ExportList} {ps : List SpecifierPlan}
      (each : List.Forall₂ (SpecifierPlan.For preset surface l) l.specifiers ps) :
      For preset surface (.exportList l) (.list l ps)

end Plan

/-- What a walk has come to: the names handed out so far are fresh, moves and entries are those of
the plans made so far, and wrappers are bound for the exports of these entries, each once and in
the order of the entries. -/
structure Progress.Accounts (names : List String) (preset : Preset) (aliases : List String)
    (moves : Renaming) (entries : List WrappedExport) (p : Progress) : Prop where
  supplied : p.names.Supplied names (aliases ++ p.wrappers.map (·.2))
  grouped : ∀ w ∈ p.wrappers, preset.groupIndex w.1.2 = some w.1.1
  bound : p.wrappers.map (·.1.2) = (entries.map (·.name)).eraseDups
  called : ∀ e ∈ entries, ∃ group, ((group, e.name), e.wrapperLocal) ∈ p.wrappers
  claimed : ∀ w ∈ p.wrappers,
    preset.Calls (aliases ++ p.wrappers.map (·.2) ++ names) w.1.2 w.2
  moves : p.moves = moves
  entries : p.report.wrapped = entries

theorem Progress.accounts_initial (m : Module) (preset : Preset) :
    (Progress.initial m).Accounts m.names preset [] [] [] where
  supplied := FreshNames.supplied_nil m.names
  grouped := by simp [Progress.initial]
  bound := rfl
  called := by simp
  claimed := by simp [Progress.initial]
  moves := rfl
  entries := rfl

namespace Progress.Accounts

variable {names : List String} {preset : Preset} {aliases : List String} {moves : Renaming}
  {entries : List WrappedExport} {p : Progress} {group : Nat} {e : String}

theorem mem_bound_iff (accounts : p.Accounts names preset aliases moves entries) :
    e ∈ entries.map (·.name) ↔ e ∈ p.wrappers.map (·.1.2) := by
  rw [accounts.bound, List.mem_eraseDups]

/-- A wrapper of an export is bound for the group of the export. -/
theorem key_eq (accounts : p.Accounts names preset aliases moves entries)
    (grouped : preset.groupIndex e = some group) {w : (Nat × String) × String}
    (listed : w ∈ p.wrappers) (same : w.1.2 = e) : w.1 = (group, e) := by
  have grouped' := accounts.grouped w listed
  rw [same, grouped, Option.some.injEq] at grouped'
  exact Prod.ext grouped'.symm same

theorem wrapped_concat (accounts : p.Accounts names preset aliases moves entries)
    (entry : WrappedExport) : (p.report ++ ⟨[entry], []⟩).wrapped = entries ++ [entry] :=
  congrArg (· ++ [entry]) accounts.entries

/-- An export whose wrapper is bound is reported. -/
theorem report (accounts : p.Accounts names preset aliases moves entries) (shape : ExportShape)
    {callee : String} (listed : ((group, e), callee) ∈ p.wrappers) :
    Progress.Accounts names preset aliases moves (entries ++ [preset.entry e shape callee])
      { p with report := p.report ++ ⟨[preset.entry e shape callee], []⟩ } := by
  have again : (entries.map (·.name)).elem e = true :=
    List.elem_iff.mpr (accounts.mem_bound_iff.mpr (List.mem_map_of_mem (f := (·.1.2)) listed))
  refine { accounts with entries := accounts.wrapped_concat _, bound := ?_, called := ?_ }
  · rw [List.map_append, List.map_singleton, eraseDups_concat, Preset.entry, again, if_pos rfl]
    exact accounts.bound
  · simp only [List.forall_mem_append, List.forall_mem_singleton]
    exact ⟨accounts.called, group, listed⟩

/-- An export that is not reported yet has its wrapper claimed and is reported. -/
theorem claim (accounts : p.Accounts names preset aliases moves entries) (shape : ExportShape)
    (grouped : preset.groupIndex e = some group) (first : e ∉ entries.map (·.name)) :
    let claimed := p.names.claim (preset.wrapperName e)
    Progress.Accounts names preset aliases moves
      (entries ++ [preset.entry e shape claimed.1])
      { p with
        names := claimed.2
        wrappers := p.wrappers ++ [((group, e), claimed.1)]
        report := p.report ++ ⟨[preset.entry e shape claimed.1], []⟩ } := by
  intro claimed
  have unlisted : (entries.map (·.name)).elem e = false := by
    rwa [Bool.eq_false_iff, ne_eq, List.elem_iff]
  have locals : (aliases ++ (p.wrappers ++ [((group, e), claimed.1)]).map (·.2)).Perm
      (claimed.1 :: (aliases ++ p.wrappers.map (·.2))) := by
    rw [List.map_append, ← List.append_assoc]
    exact List.perm_append_singleton _ _
  have before (n : String) (taken : n ∈ aliases ++ p.wrappers.map (·.2) ++ names) :
      n ∈ aliases ++ (p.wrappers ++ [((group, e), claimed.1)]).map (·.2) ++ names := by
    rw [List.mem_append, locals.mem_iff, ← List.mem_append]
    exact List.mem_cons_of_mem _ taken
  refine ⟨?_, ?_, ?_, ?_, ?_, accounts.moves, accounts.wrapped_concat _⟩
  · exact accounts.supplied.hand (p.names.claim_notMem _) (p.names.taken_claim _) locals
  · simp only [List.forall_mem_append, List.forall_mem_singleton]
    exact ⟨accounts.grouped, grouped⟩
  · simp only [List.map_append, List.map_singleton, eraseDups_concat, Preset.entry, unlisted,
      accounts.bound]
    rfl
  · simp only [List.forall_mem_append, List.forall_mem_singleton]
    refine ⟨fun e' listed => ?_, group, by simp [Preset.entry]⟩
    obtain ⟨group', bound⟩ := accounts.called e' listed
    exact ⟨group', List.mem_append_left _ bound⟩
  · simp only [List.forall_mem_append, List.forall_mem_singleton]
    refine ⟨fun w listed => (accounts.claimed w listed).mono before, ?_⟩
    refine (p.names.claim_eq_or (preset.wrapperName e)).imp_right fun ⟨taken, numbered⟩ => ?_
    exact ⟨before _ (accounts.supplied.taken.subset taken), numbered⟩

end Progress.Accounts

namespace Planning

/-- From every state that meets `before`, `x` ends in an answer and a state that meet `after`. -/
def Ensures (before : Progress → Prop) (x : Planning α) (after : α → Progress → Prop) : Prop :=
  ∀ p, before p → after (x.run p).1 (x.run p).2

namespace Ensures

variable {before : Progress → Prop}

theorem pure {a : α} {after : α → Progress → Prop} (holds : ∀ p, before p → after a p) :
    Ensures before (pure a) after :=
  holds

theorem bind {x : Planning α} {f : α → Planning β} {between : α → Progress → Prop}
    {after : β → Progress → Prop} (first : Ensures before x between)
    (rest : ∀ a, Ensures (between a) (f a) after) : Ensures before (x >>= f) after :=
  fun p meets => rest _ _ (first p meets)

/-- What is known of the answers so far does not depend on the state. -/
theorem assuming {known : Prop} {x : Planning α} {after : α → Progress → Prop}
    (ensures : known → Ensures before x after) :
    Ensures (fun p => known ∧ before p) x after :=
  fun p ⟨knows, meets⟩ => ensures knows p meets

/-- A walk keeps what each step keeps, given the answers so far. -/
theorem mapM {f : α → Planning β} {R : α → β → Prop} {keeps : List β → Progress → Prop}
    (step : ∀ a bs, Ensures (keeps bs) (f a) fun b p => R a b ∧ keeps (bs ++ [b]) p)
    (as : List α) (bs : List β) :
    Ensures (keeps bs) (as.mapM f) fun cs p => List.Forall₂ R as cs ∧ keeps (bs ++ cs) p := by
  induction as generalizing bs with
  | nil =>
      rw [List.mapM_nil]
      exact pure fun p kept => ⟨.nil, by simpa using kept⟩
  | cons a as ih =>
      rw [List.mapM_cons]
      refine bind (step a bs) fun b => ?_
      intro p ⟨related, kept⟩
      obtain ⟨tail, keptAll⟩ := ih (bs ++ [b]) p kept
      rw [List.append_assoc] at keptAll
      exact ⟨.cons related tail, keptAll⟩

end Ensures

variable {names : List String} {preset : Preset} {surface : Surface} {aliases : List String}
  {moves : Renaming} {entries : List WrappedExport}

theorem accounts_skip (name : String) (reason : SkipReason) :
    Ensures (Progress.Accounts names preset aliases moves entries) (skip name reason)
      fun _ => Progress.Accounts names preset aliases moves entries := by
  intro p accounts
  refine { accounts with entries := ?_ }
  change p.report.wrapped ++ [] = entries
  rw [List.append_nil, accounts.entries]

theorem accounts_fresh (base : String) :
    Ensures (Progress.Accounts names preset aliases moves entries) (fresh base) fun n p =>
      (∃ k, n = FreshNames.candidate (FreshNames.stem base) k) ∧
        p.Accounts names preset (aliases ++ [n]) moves entries := by
  intro p accounts
  refine ⟨⟨_, rfl⟩, { accounts with supplied := ?_, claimed := ?_ }⟩
  · refine accounts.supplied.hand (p.names.generate_notMem base) (p.names.taken_generate base) ?_
    rw [List.append_assoc]
    exact List.perm_middle
  · intro w listed
    refine (accounts.claimed w listed).mono fun n taken => ?_
    simp only [List.mem_append] at taken ⊢
    exact taken.imp_left (Or.imp_left .inl)

theorem accounts_move (source freshName : String) :
    Ensures (Progress.Accounts names preset aliases moves entries)
      (modify fun p => { p with moves := p.moves ++ [(source, freshName)] })
      fun _ => Progress.Accounts names preset aliases (moves ++ [(source, freshName)]) entries := by
  intro p accounts
  refine { accounts with moves := ?_ }
  change p.moves ++ _ = _
  rw [accounts.moves]

/-- The wrapper is bound, and the accounts are in order once the export is reported. -/
theorem accounts_wrapperLocal {group : Nat} {e : String} (shape : ExportShape)
    (grouped : preset.groupIndex e = some group) :
    Ensures (Progress.Accounts names preset aliases moves entries)
      (wrapperLocal preset group e) fun callee p =>
        Progress.Accounts names preset aliases moves
          (entries ++ [preset.entry e shape callee])
          { p with report := p.report ++ ⟨[preset.entry e shape callee], []⟩ } := by
  intro p accounts
  cases known : p.wrappers.lookup (group, e) with
  | some n =>
      have run : (wrapperLocal preset group e).run p = (n, p) := by
        simp only [wrapperLocal, StateT.run, modifyGet, MonadStateOf.modifyGet,
          StateT.modifyGet, known]
        rfl
      obtain ⟨before, after, split, -⟩ := List.lookup_eq_some_iff.mp known
      have listed : ((group, e), n) ∈ p.wrappers := by rw [split]; simp
      rw [run]
      exact accounts.report shape listed
  | none =>
      let claimed := p.names.claim (preset.wrapperName e)
      have run : (wrapperLocal preset group e).run p =
          (claimed.1, { p with
            names := claimed.2, wrappers := p.wrappers ++ [((group, e), claimed.1)] }) := by
        simp only [wrapperLocal, StateT.run, modifyGet, MonadStateOf.modifyGet,
          StateT.modifyGet, known]
        rfl
      rw [run]
      refine accounts.claim shape grouped fun wrapped => ?_
      obtain ⟨w, listed, same⟩ := List.mem_map.mp (accounts.mem_bound_iff.mp wrapped)
      have other := List.lookup_eq_none_iff.mp known w listed
      simp [accounts.key_eq grouped listed same] at other

theorem accounts_wrap {group : Nat} {e : String} (shape : ExportShape)
    (grouped : preset.groupIndex e = some group) :
    Ensures (Progress.Accounts names preset aliases moves entries) (wrap preset group e shape)
      fun callee => Progress.Accounts names preset aliases moves
        (entries ++ [preset.entry e shape callee]) := by
  refine Ensures.bind (accounts_wrapperLocal shape grouped) fun callee => ?_
  intro p accounts
  rw [Preset.entry, grouped] at accounts ⊢
  exact accounts

abbrev SpecifierAdds (names : List String) (preset : Preset) (surface : Surface) (l : ExportList)
    (s : ExportSpecifier) (aliases : List String) (moves : Renaming)
    (entries : List WrappedExport) (plan : SpecifierPlan) (p : Progress) : Prop :=
  SpecifierPlan.For preset surface l s plan ∧
    p.Accounts names preset (aliases ++ plan.aliases) (moves ++ plan.moves)
      (entries ++ plan.entries preset)

theorem specifierAdds_keep {l : ExportList} {s : ExportSpecifier} {p : Progress}
    (accounts : p.Accounts names preset aliases moves entries) :
    SpecifierAdds names preset surface l s aliases moves entries (.keep s) p := by
  refine ⟨.keep, ?_⟩
  simpa [SpecifierPlan.aliases, SpecifierPlan.moves, SpecifierPlan.entries] using accounts

theorem accounts_ownSpecifier {l : ExportList} {s : ExportSpecifier} {span : Span} {e : String}
    {group : Nat} (grouped : preset.groupIndex e = some group)
    (exported : s.exported = .name span e) (valued : (l.typeOnly || s.typeOnly) = false)
    (own : l.request = none) :
    Ensures (Progress.Accounts names preset aliases moves entries)
      (ownSpecifier preset surface group e s)
      (SpecifierAdds names preset surface l s aliases moves entries) := by
  have recognized := Preset.recognizes_of_groupIndex grouped
  have text : s.exported.text = e := by rw [exported]; rfl
  have skipped (reason : SkipReason) :
      Ensures (Progress.Accounts names preset aliases moves entries)
        (do skip e reason; return .keep s)
        (SpecifierAdds names preset surface l s aliases moves entries) :=
    .bind (accounts_skip e reason) fun _ => .pure fun _ => specifierAdds_keep
  unfold ownSpecifier
  split
  · exact skipped _
  · next inner source named =>
    split
    · exact skipped _
    next imported =>
    simp only [Bool.not_eq_true, Bool.not_eq_false'] at imported
    split
    · next same =>
      rw [beq_iff_eq] at same
      subst same
      have local_ : s.localName.text = source := by rw [named]; rfl
      refine .bind (accounts_fresh source) fun freshName => .assuming fun ⟨k, numbered⟩ => ?_
      refine .bind (accounts_move source freshName) fun _ => ?_
      refine .bind (accounts_wrap .importReExport grouped) fun callee => .pure ?_
      intro p accounts
      subst numbered
      refine ⟨.moved k callee exported recognized valued own named imported, ?_⟩
      simpa [SpecifierPlan.aliases, SpecifierPlan.moves, SpecifierPlan.entries, text, local_]
        using accounts
    next renamed =>
    split
    · exact skipped _
    next free =>
    refine .bind (accounts_fresh e) fun freshName => .assuming fun ⟨k, numbered⟩ => ?_
    refine .bind (accounts_wrap .importReExport grouped) fun callee => .pure ?_
    intro p accounts
    subst numbered
    rw [beq_iff_eq] at renamed
    rw [Bool.not_eq_true] at free
    refine ⟨.aliased k callee exported recognized valued own named imported renamed free, ?_⟩
    simpa [SpecifierPlan.aliases, SpecifierPlan.moves, SpecifierPlan.entries, text]
      using accounts

theorem accounts_specifier (l : ExportList) (s : ExportSpecifier) :
    Ensures (Progress.Accounts names preset aliases moves entries)
      (specifier preset surface l s)
      (SpecifierAdds names preset surface l s aliases moves entries) := by
  have kept : Ensures (Progress.Accounts names preset aliases moves entries)
      (return .keep s) (SpecifierAdds names preset surface l s aliases moves entries) :=
    .pure fun _ => specifierAdds_keep
  unfold specifier
  split
  · split
    · exact .bind (accounts_skip _ _) fun _ => kept
    · exact kept
  · next span e exported =>
    split
    · exact kept
    next group grouped =>
    split
    · exact .bind (accounts_skip _ _) fun _ => kept
    next valued =>
    rw [Bool.not_eq_true] at valued
    split
    · next requested =>
      have recognized := Preset.recognizes_of_groupIndex grouped
      have text : s.exported.text = e := by rw [exported]; rfl
      refine .bind (accounts_fresh e) fun freshName => .assuming fun ⟨k, numbered⟩ => ?_
      refine .bind (accounts_wrap .reExport grouped) fun callee => .pure ?_
      intro p accounts
      subst numbered
      refine ⟨.reExport k callee exported recognized valued requested, ?_⟩
      simpa [SpecifierPlan.aliases, SpecifierPlan.moves, SpecifierPlan.entries, text]
        using accounts
    · next own =>
      rw [Bool.not_eq_true, Option.isSome_eq_false_iff, Option.isNone_iff_eq_none] at own
      exact accounts_ownSpecifier grouped exported valued own

abbrev ItemAdds (names : List String) (preset : Preset) (surface : Surface) (i : Item)
    (aliases : List String) (moves : Renaming) (entries : List WrappedExport) (plan : Plan)
    (p : Progress) : Prop :=
  Plan.For preset surface i plan ∧
    p.Accounts names preset (aliases ++ plan.aliases) (moves ++ plan.moves)
      (entries ++ plan.entries preset)

theorem itemAdds_keep {i : Item} {p : Progress}
    (accounts : p.Accounts names preset aliases moves entries)
    (unlisted : ∀ l, i ≠ .exportList l)
    (kept : ∀ span d, i = .exportDeclaration span (.function d) →
      isOverload preset surface d = false) :
    ItemAdds names preset surface i aliases moves entries (.keep i) p := by
  refine ⟨.keep i unlisted kept, ?_⟩
  simpa [Plan.aliases, Plan.moves, Plan.entries, Plan.specifiers] using accounts

theorem accounts_list (l : ExportList) :
    Ensures (Progress.Accounts names preset aliases moves entries) (list preset surface l)
      (ItemAdds names preset surface (.exportList l) aliases moves entries) := by
  have step (s : ExportSpecifier) (plans : List SpecifierPlan) :
      Ensures
        (Progress.Accounts names preset (aliases ++ plans.flatMap SpecifierPlan.aliases)
          (moves ++ plans.flatMap SpecifierPlan.moves)
          (entries ++ plans.flatMap (SpecifierPlan.entries preset)))
        (specifier preset surface l s) fun plan p =>
          SpecifierPlan.For preset surface l s plan ∧
            p.Accounts names preset (aliases ++ (plans ++ [plan]).flatMap SpecifierPlan.aliases)
              (moves ++ (plans ++ [plan]).flatMap SpecifierPlan.moves)
              (entries ++ (plans ++ [plan]).flatMap (SpecifierPlan.entries preset)) := by
    intro p accounts
    simpa [SpecifierAdds] using accounts_specifier l s p accounts
  have walked := Ensures.mapM step l.specifiers []
  simp only [List.flatMap_nil, List.append_nil, List.nil_append] at walked
  exact .bind walked fun plans => .pure fun _ ⟨each, accounts⟩ => ⟨.list each, accounts⟩

theorem accounts_skipVariables (d : VariableDecl) (reason : SkipReason) :
    Ensures (Progress.Accounts names preset aliases moves entries)
      (skipVariables preset d reason)
      fun _ => Progress.Accounts names preset aliases moves entries := by
  unfold skipVariables
  induction recognizedIn preset d with
  | nil => exact .pure fun _ accounts => accounts
  | cons n ns ih => exact .bind (accounts_skip n reason) fun _ => ih

theorem accounts_planVariables (span : Span) (d : VariableDecl) :
    Ensures (Progress.Accounts names preset aliases moves entries)
      (planVariables preset span d)
      (ItemAdds names preset surface (.exportDeclaration span (.variable d)) aliases moves
        entries) := by
  have kept : Ensures (Progress.Accounts names preset aliases moves entries)
      (return .keep (.exportDeclaration span (.variable d)))
      (ItemAdds names preset surface (.exportDeclaration span (.variable d)) aliases moves
        entries) :=
    .pure fun _ accounts => itemAdds_keep accounts (by simp) (by simp)
  unfold planVariables
  split
  · exact .bind (accounts_skipVariables d _) fun _ => kept
  split
  · next first only =>
    split
    · next inner binder name target =>
      split
      · exact kept
      next group grouped =>
      split
      · next value valued =>
        have recognized := Preset.recognizes_of_groupIndex grouped
        refine .bind (accounts_wrap .variableDeclaration grouped) fun callee => .pure ?_
        intro p accounts
        refine ⟨.initial callee only target valued recognized, ?_⟩
        simpa [Plan.aliases, Plan.moves, Plan.entries, Plan.specifiers, target,
          Tree.patternNames] using accounts
      · exact .bind (accounts_skip _ _) fun _ => kept
    · exact .bind (accounts_skipVariables d _) fun _ => kept
  · exact .bind (accounts_skipVariables d _) fun _ => kept

theorem accounts_function (span : Span) (d : FunctionDecl) :
    Ensures (Progress.Accounts names preset aliases moves entries)
      (function preset surface span d)
      (ItemAdds names preset surface (.exportDeclaration span (.function d)) aliases moves
        entries) := by
  unfold function
  split
  · next overload =>
    refine .pure fun p accounts => ⟨.drop overload, ?_⟩
    simpa [Plan.aliases, Plan.moves, Plan.entries, Plan.specifiers] using accounts
  next implemented =>
  rw [Bool.not_eq_true] at implemented
  have kept : Ensures (Progress.Accounts names preset aliases moves entries)
      (return .keep (.exportDeclaration span (.function d)))
      (ItemAdds names preset surface (.exportDeclaration span (.function d)) aliases moves
        entries) := by
    refine .pure fun _ accounts => itemAdds_keep accounts (by simp) fun _ d' same => ?_
    cases same
    exact implemented
  split
  · exact kept
  next n named =>
  split
  · exact kept
  next group grouped =>
  split
  · exact .bind (accounts_skip _ _) fun _ => kept
  next wrapped =>
  simp only [Bool.or_eq_true, not_or, Bool.not_eq_true, Option.isNone_eq_false_iff] at wrapped
  obtain ⟨bodied, real⟩ := wrapped
  have recognized := Preset.recognizes_of_groupIndex grouped
  refine .bind (accounts_wrap .functionDeclaration grouped) fun callee => .pure ?_
  intro p accounts
  refine ⟨.function callee named bodied real recognized, ?_⟩
  simpa [Plan.aliases, Plan.moves, Plan.entries, Plan.specifiers] using accounts

theorem accounts_item (i : Item) :
    Ensures (Progress.Accounts names preset aliases moves entries) (item preset surface i)
      (ItemAdds names preset surface i aliases moves entries) := by
  have kept (unlisted : ∀ l, i ≠ .exportList l)
      (other : ∀ span d, i ≠ .exportDeclaration span (.function d)) :
      Ensures (Progress.Accounts names preset aliases moves entries) (return .keep i)
        (ItemAdds names preset surface i aliases moves entries) :=
    .pure fun _ accounts =>
      itemAdds_keep accounts unlisted fun span d same => absurd same (other span d)
  unfold item
  split
  · exact accounts_planVariables _ _
  · exact accounts_function _ _
  · refine .bind ?_ fun _ => kept (by simp) (by simp)
    unfold classes
    split
    · split
      · exact accounts_skip _ _
      · exact .pure fun _ accounts => accounts
    · exact .pure fun _ accounts => accounts
  · exact accounts_list _
  · split
    · split
      · exact .bind (accounts_skip _ _) fun _ => kept (by simp) (by simp)
      · exact kept (by simp) (by simp)
    · exact kept (by simp) (by simp)
  · split
    · split
      · exact .bind (accounts_skip _ _) fun _ => kept (by simp) (by simp)
      · exact kept (by simp) (by simp)
    · exact kept (by simp) (by simp)
  · next functions _ lists _ _ =>
    exact kept (fun l same => lists l same) fun span d same => functions span d same

end Planning

/-- Every plan of a module fits its item, and the walk's accounts are those of its plans. -/
theorem Module.accounts_plans (m : Module) (preset : Preset) :
    List.Forall₂ (Plan.For preset (Surface.ofItems m.items)) m.items (m.plans preset).1 ∧
      (m.plans preset).2.Accounts m.names preset ((m.plans preset).1.flatMap Plan.aliases)
        ((m.plans preset).1.flatMap Plan.moves)
        ((m.plans preset).1.flatMap (Plan.entries preset)) := by
  have step (i : Item) (plans : List Plan) :
      Planning.Ensures
        (Progress.Accounts m.names preset (plans.flatMap Plan.aliases)
          (plans.flatMap Plan.moves) (plans.flatMap (Plan.entries preset)))
        (Planning.item preset (Surface.ofItems m.items) i) fun plan p =>
          Plan.For preset (Surface.ofItems m.items) i plan ∧
            p.Accounts m.names preset ((plans ++ [plan]).flatMap Plan.aliases)
              ((plans ++ [plan]).flatMap Plan.moves)
              ((plans ++ [plan]).flatMap (Plan.entries preset)) := by
    intro p accounts
    simpa [Planning.ItemAdds] using Planning.accounts_item i p accounts
  exact Planning.Ensures.mapM step m.items [] (Progress.initial m)
    (Progress.accounts_initial m preset)

end RouteWrap
