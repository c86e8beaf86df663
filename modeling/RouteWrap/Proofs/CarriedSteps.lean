import RouteWrap.Proofs.Frame
import RouteWrap.Proofs.MovedImports
import RouteWrap.Proofs.Scope.Evaluation

/-!
What the evaluation of an item's image comes across, against that of the item. Every step of the
item is carried over, in order: a read follows the import that moved, and the declaration of a
wrapped function becomes that of a constant. Between these steps are those of what is inserted.
-/

namespace RouteWrap

/-- A list whose entries are carried over, in order, into another one. As against
`List.SublistForall₂`, `P` holds of what the other one has beside them. -/
inductive Interleaved (R : α → β → Prop) (P : β → Prop) : List α → List β → Prop
  | nil : Interleaved R P [] []
  | carried {a : α} {b : β} {as : List α} {bs : List β} (related : R a b)
      (rest : Interleaved R P as bs) : Interleaved R P (a :: as) (b :: bs)
  | inserted {b : β} {as : List α} {bs : List β} (extra : P b)
      (rest : Interleaved R P as bs) : Interleaved R P as (b :: bs)

namespace Interleaved

variable {R : α → β → Prop} {P : β → Prop} {as as' : List α} {bs bs' : List β}

theorem append (first : Interleaved R P as bs) (second : Interleaved R P as' bs') :
    Interleaved R P (as ++ as') (bs ++ bs') := by
  induction first with
  | nil => exact second
  | carried related _ ih => exact .carried related ih
  | inserted extra _ ih => exact .inserted extra ih

theorem flatMap {f : γ → List α} {g : γ → List β} {cs : List γ}
    (each : ∀ c ∈ cs, Interleaved R P (f c) (g c)) :
    Interleaved R P (cs.flatMap f) (cs.flatMap g) := by
  induction cs with
  | nil => exact .nil
  | cons c cs ih =>
      rw [List.forall_mem_cons] at each
      exact each.1.append (ih each.2)

theorem of_inserted (extra : ∀ b ∈ bs, P b) : Interleaved R P [] bs := by
  induction bs with
  | nil => exact .nil
  | cons b bs ih =>
      rw [List.forall_mem_cons] at extra
      exact .inserted extra.1 (ih extra.2)

theorem of_map {f : γ → α} {g : γ → β} {cs : List γ} (related : ∀ c, R (f c) (g c)) :
    Interleaved R P (cs.map f) (cs.map g) := by
  induction cs with
  | nil => exact .nil
  | cons c cs ih => exact .carried (related c) ih

theorem mono {R' : α → β → Prop} {P' : β → Prop} (rel : Interleaved R P as bs)
    (related : ∀ a b, R a b → R' a b) (extra : ∀ b, P b → P' b) : Interleaved R' P' as bs := by
  induction rel with
  | nil => exact .nil
  | carried here _ ih => exact .carried (related _ _ here) ih
  | inserted here _ ih => exact .inserted (extra _ here) ih

theorem filter {p : α → Bool} {q : β → Bool} (agree : ∀ a b, R a b → p a = q b)
    (rel : Interleaved R P as bs) : Interleaved R P (as.filter p) (bs.filter q) := by
  induction rel with
  | nil => exact .nil
  | @carried a b as bs related _ ih =>
      rw [List.filter_cons, List.filter_cons, agree a b related]
      split
      · exact .carried related ih
      · exact ih
  | inserted extra _ ih =>
      rw [List.filter_cons]
      split
      · exact .inserted extra ih
      · exact ih

theorem exists_carried (rel : Interleaved R P as bs) {a : α} (listed : a ∈ as) :
    ∃ b ∈ bs, R a b := by
  induction rel with
  | nil => exact absurd listed List.not_mem_nil
  | carried related _ ih =>
      rcases List.mem_cons.mp listed with rfl | listed
      · exact ⟨_, List.mem_cons_self, related⟩
      · obtain ⟨b, carried, related⟩ := ih listed
        exact ⟨b, List.mem_cons_of_mem _ carried, related⟩
  | inserted _ _ ih =>
      obtain ⟨b, carried, related⟩ := ih listed
      exact ⟨b, List.mem_cons_of_mem _ carried, related⟩

/-- An entry behind others is inserted, or it is carried from an entry behind others that those
are carried from. -/
theorem split (rel : Interleaved R P as bs) {before after : List β} {b : β}
    (same : bs = before ++ b :: after) :
    P b ∨ ∃ before' a after', as = before' ++ a :: after' ∧ R a b ∧
      Interleaved R P before' before := by
  induction rel generalizing before with
  | nil => simp at same
  | @carried a₀ b₀ as bs related rest ih =>
      cases before with
      | nil =>
          obtain ⟨rfl, rfl⟩ := List.cons.inj same
          exact .inr ⟨[], a₀, as, rfl, related, .nil⟩
      | cons c before =>
          obtain ⟨rfl, sameTail⟩ := List.cons.inj same
          refine (ih sameTail).imp_right fun ⟨before', a, after', split, here, prior⟩ => ?_
          exact ⟨a₀ :: before', a, after', congrArg _ split, here, .carried related prior⟩
  | inserted extra rest ih =>
      cases before with
      | nil =>
          obtain ⟨rfl, rfl⟩ := List.cons.inj same
          exact .inl extra
      | cons c before =>
          obtain ⟨rfl, sameTail⟩ := List.cons.inj same
          refine (ih sameTail).imp_right fun ⟨before', a, after', split, here, prior⟩ => ?_
          exact ⟨before', a, after', split, here, .inserted extra prior⟩

theorem extra_or_carried (rel : Interleaved R P as bs) {b : β} (listed : b ∈ bs) :
    P b ∨ ∃ a ∈ as, R a b := by
  obtain ⟨before, after, same⟩ := List.append_of_mem listed
  refine (rel.split same).imp_right fun ⟨before', a, after', same, related, _⟩ => ?_
  exact ⟨a, by simp [same], related⟩

end Interleaved

/-! Items -/

/-- How a step of a module shows in the rewritten module: `moves` are the imports that move, and
`functions` those that become constants. -/
inductive Step.Carried (moves : Renaming) (functions : List String) : Step → Step → Prop
  | same {s : Step} (unmoved : ∀ u n, s = .reads u n → n ∉ moves.map Prod.fst) :
      Step.Carried moves functions s s
  | moved {u : Use} {n a : String} (move : (n, a) ∈ moves) :
      Step.Carried moves functions (.reads u n) (.reads u a)
  | imported {b : Binder} {n a : String} (move : (n, a) ∈ moves) :
      Step.Carried moves functions (.declares b n) (.declares b a)
  | constant {n : String} (wrapped : n ∈ functions) :
      Step.Carried moves functions (.declares .function n) (.declares .lexical n)

theorem Step.carried_declares (moves : Renaming) (functions : List String) (b : Binder)
    (n : String) : (declares b n).Carried moves functions (declares b n) := by
  refine .same fun u k same => ?_
  cases same

theorem Step.Carried.isSome_binding {moves : Renaming} {functions : List String} {s s' : Step}
    (carried : s.Carried moves functions s') : s.binding.isSome = s'.binding.isSome := by
  cases carried <;> rfl

theorem Step.Carried.mono {moves : Renaming} {functions functions' : List String} {s s' : Step}
    (carried : s.Carried moves functions s') (more : functions ⊆ functions') :
    s.Carried moves functions' s' := by
  cases carried with
  | same unmoved => exact .same unmoved
  | moved move => exact .moved move
  | imported move => exact .imported move
  | constant wrapped => exact .constant (more wrapped)

variable {top : List Binding} {moves σ : Renaming} {functions : List String}

theorem Step.Carried.of_declares {b : Binder} {n : String} {s : Step}
    (carried : (declares b n).Carried moves functions s) (unmoved : n ∉ moves.map Prod.fst) :
    s = declares b n ∨ b = .function ∧ n ∈ functions ∧ s = declares .lexical n := by
  cases carried with
  | same => exact .inl rfl
  | imported move => exact absurd (List.mem_map_of_mem (f := Prod.fst) move) unmoved
  | constant wrapped => exact .inr ⟨rfl, wrapped, rfl⟩

theorem Step.Carried.of_carried_declares {b : Binder} {n : String} {s : Step}
    (carried : s.Carried moves functions (declares b n)) (fresh : n ∉ moves.map Prod.snd) :
    s = declares b n ∨ n ∈ functions := by
  cases carried with
  | same => exact .inl rfl
  | imported move => exact absurd (List.mem_map_of_mem (f := Prod.snd) move) fresh
  | constant wrapped => exact .inr wrapped

theorem Follows.carried_rename (follows : Follows top moves σ) (s : Step) :
    s.Carried moves functions (s.rename σ []) := by
  cases s with
  | declares b n => exact Step.carried_declares _ _ b n
  | early n =>
      refine .same fun u k same => ?_
      cases same
  | reads u n =>
      by_cases moved : n ∈ moves.map Prod.fst
      · exact .moved (follows.moved n moved)
      · have stays : (Step.reads u n).rename σ [] = .reads u n := by
          simp [Step.rename, answers, follows.kept n moved]
        rw [stays]
        refine .same fun u' n' same => ?_
        cases same
        exact moved

theorem Follows.interleaved_rename {P : Step → Prop} (follows : Follows top moves σ) {t : Tree}
    (avoids : σ.Avoids t.names) :
    Interleaved (Step.Carried moves functions) P t.steps (t.rename σ).steps := by
  rw [Tree.rename, Tree.steps_renameUnder σ [] avoids]
  have carried : Interleaved (Step.Carried moves functions) P (t.steps.map id)
      (t.steps.map (Step.rename σ [])) := .of_map follows.carried_rename
  rwa [List.map_id] at carried

def Item.steps (i : Item) : List Step := i.toTree.steps

theorem Item.steps_exportDeclaration (span : Span) (d : Declaration) :
    (Item.exportDeclaration span d).steps = d.toTree.steps := by
  rw [steps, toTree, Tree.steps, Form.steps_plain rfl rfl]
  simp [Form.evaluated, Tree.stepsEach]

theorem Item.steps_exportList (l : ExportList) : (Item.exportList l).steps = [] := by
  rw [steps, toTree, ExportList.toTree, Tree.steps, Form.steps_plain rfl rfl]
  rfl

theorem Item.steps_exportAll (e : ExportAll) : (Item.exportAll e).steps = [] := by
  rw [steps, toTree, ExportAll.toTree, Tree.steps, Form.steps_plain rfl rfl]
  rfl

theorem ImportSpecifier.steps_toTree (s : ImportSpecifier) (typeOnly : Bool) :
    (s.toTree typeOnly).steps =
      [.declares (if typeOnly || s.typeOnly then .importType else .importValue)
        s.localName.text] := by
  cases imported : s.imported with
  | name n =>
      have unread : n.toTree.steps = [] := by cases n <;> rfl
      simp [toTree, imported, Tree.steps, Form.steps_plain (f := .link _) rfl rfl, Form.evaluated,
        Tree.stepsEach, unread]
  | default | «namespace» =>
      simp [toTree, imported, Tree.steps, Form.steps_plain (f := .link _) rfl rfl, Form.evaluated,
        Tree.stepsEach]

theorem ImportDecl.steps_toTree (d : ImportDecl) :
    d.toTree.steps = (d.specifiers.getD []).map fun s =>
      .declares (if d.typeOnly || s.typeOnly then .importType else .importValue)
        s.localName.text := by
  rw [toTree, Tree.steps, Form.steps_plain rfl rfl, Tree.stepsEach_eq_map, Request.toTrees]
  simp only [Form.evaluated, List.cons_append, List.nil_append, List.map_cons,
    List.drop_succ_cons, List.drop_zero]
  rw [List.map_map, ← List.flatMap_def, List.map_eq_flatMap]
  exact List.flatMap_congr fun s _ => s.steps_toTree d.typeOnly

theorem Item.steps_importNamed (specifiers : List (LinkName × String)) (path : Points) :
    (importNamed specifiers path).steps =
      specifiers.map fun s => .declares .importValue s.2 := by
  rw [steps, importNamed, toTree, ImportDecl.steps_toTree]
  simp [Function.comp_def]

theorem Tree.steps_wrapperCall (callee : String) (target : Tree) (route : Points) :
    (wrapperCall callee target route).steps = .reads .value callee :: target.steps := by
  have unread : (Tree.expr .none (.string route) []).steps = [] := rfl
  rw [wrapperCall, Tree.steps, Form.steps_plain rfl rfl]
  simp only [Form.evaluated, Tree.stepsEach, unread]
  simp [Tree.steps]

theorem Declarator.steps_toTree (d : Declarator) :
    d.toTree.steps = (d.initial.getD .absent).steps ++ d.target.steps := by
  rw [toTree, Tree.steps, Form.steps_plain rfl rfl]
  simp [Form.evaluated, pick, Tree.stepsEach]

theorem VariableDecl.steps_toTree {d : VariableDecl} {first : Declarator}
    (only : d.declarators = [first]) :
    d.toTree.steps =
      if d.declare then first.toTree.steps.filter (·.binding.isSome) else first.toTree.steps := by
  rw [toTree, only, List.map_singleton, Tree.steps, Form.steps_open rfl]
  simp only [Form.isAmbient, Form.evaluated, Tree.stepsEach, List.flatten_cons, List.flatten_nil,
    List.append_nil]

theorem Declaration.steps_const (name : String) (value : Tree) :
    (constDeclaration name value).toTree.steps = value.steps ++ [.declares .lexical name] := by
  rw [constDeclaration, toTree, VariableDecl.steps_toTree rfl, Declarator.steps_toTree]
  rfl

theorem FunctionDecl.steps_toTree (d : FunctionDecl) :
    d.toTree.steps = if (d.body.getD .absent).isAbsent then [] else d.binding.steps := by
  have signature : [d.binding, d.callable].any Tree.isSignature =
      (d.body.getD .absent).isAbsent := by
    cases named : d.name <;>
      simp [FunctionDecl.binding, named, callable, Tree.isSignature]
  rw [toTree, Tree.steps, Form.steps_plain rfl rfl]
  simp only [Form.evaluated, signature]
  split
  · rfl
  · simp [pick, Tree.stepsEach]

theorem FunctionDecl.steps_toExpression (d : FunctionDecl) : d.toExpression.steps = [] := rfl

/-! Images -/

namespace Plan

variable {preset : Preset} {surface : Surface} {route : Points}

/-- The steps of what a plan inserts. -/
inductive Inserts (preset : Preset) (p : Plan) : Step → Prop
  | callee {e : WrappedExport} (reported : e ∈ p.entries preset) :
      Inserts preset p (.reads .value e.wrapperLocal)
  | requested {a : String} (imported : a ∈ p.imported) : Inserts preset p (.reads .value a)
  | moved {n a : String} (move : (n, a) ∈ p.moves) : Inserts preset p (.reads .value a)
  | aliased {s : ExportSpecifier} {source freshName callee : String}
      (specified : .aliased s source freshName callee ∈ p.specifiers) :
      Inserts preset p (.reads .value source)
  | imports {a : String} (imported : a ∈ p.imported) :
      Inserts preset p (.declares .importValue a)
  | constant {n : String} (constant : n ∈ p.constants ∨ n ∈ p.functions) :
      Inserts preset p (.declares .lexical n)

theorem inserts_requested (l : ExportList) (ps : List SpecifierPlan) :
    ∀ s ∈ (requested l ps).flatMap Item.steps, (list l ps).Inserts preset s := by
  intro s inserted
  unfold requested at inserted
  split at inserted
  · next same =>
    rw [List.flatMap_singleton, Item.steps_importNamed, ← same] at inserted
    obtain ⟨a, imported, rfl⟩ := List.mem_map.mp inserted
    exact .imports (List.mem_map.mpr ⟨a, imported, rfl⟩)
  · exact absurd inserted List.not_mem_nil

theorem inserts_constant {l : ExportList} {ps : List SpecifierPlan} {q : SpecifierPlan}
    (specified : q ∈ ps) :
    ∀ s ∈ (q.constant route).flatMap Item.steps, (list l ps).Inserts preset s := by
  have each (e : WrappedExport) {target : String} (reported : e ∈ q.entries preset)
      (named : e.name ∈ q.constants) (read : (list l ps).Inserts preset (.reads .value target)) :
      ∀ s ∈ [exportConst e.name (wrapperCall e.wrapperLocal (.ref .none .value target)
        route)].flatMap Item.steps, (list l ps).Inserts preset s := by
    rw [List.flatMap_singleton, exportConst, Item.steps_exportDeclaration,
      Declaration.steps_const, Tree.steps_wrapperCall]
    simp only [Tree.steps, List.cons_append, List.nil_append, List.forall_mem_cons,
      List.not_mem_nil, false_implies, implies_true, and_true]
    exact ⟨.callee (List.mem_flatMap.mpr ⟨q, specified, reported⟩), read,
      .constant (.inl (List.mem_flatMap.mpr ⟨q, specified, named⟩))⟩
  cases q with
  | keep s => exact fun _ inserted => absurd inserted List.not_mem_nil
  | reExport s a callee =>
      refine each (preset.entry s.exported.text .reExport callee) (List.mem_singleton_self _)
        (List.mem_singleton_self _) (.requested ?_)
      have imported : (s.localName, a) ∈ ps.flatMap SpecifierPlan.imported :=
        List.mem_flatMap.mpr ⟨_, specified, List.mem_singleton_self _⟩
      exact List.mem_map.mpr ⟨_, imported, rfl⟩
  | moved s a callee =>
      refine each (preset.entry s.exported.text .importReExport callee)
        (List.mem_singleton_self _) (List.mem_singleton_self _) (.moved (n := s.localName.text) ?_)
      exact List.mem_flatMap.mpr ⟨_, specified, List.mem_singleton_self _⟩
  | aliased s source a callee =>
      exact each (preset.entry s.exported.text .importReExport callee)
        (List.mem_singleton_self _) (List.mem_singleton_self _) (.aliased specified)

theorem interleaved_imports {P : Step → Prop} (d : ImportDecl) :
    Interleaved (Step.Carried moves functions) P (Item.imports d).steps
      ((Item.imports d).renameImports moves).steps := by
  have renamed : ((Item.imports d).renameImports moves).steps =
      (d.specifiers.getD []).map fun s =>
        .declares (if d.typeOnly || s.typeOnly then .importType else .importValue)
          (moves.apply s.localName.text) := by
    rw [Item.renameImports, Item.steps, Item.toTree, ImportDecl.steps_toTree]
    cases d.specifiers <;> simp
  rw [renamed, Item.steps, Item.toTree, d.steps_toTree]
  refine .of_map fun s => ?_
  by_cases moved : s.localName.text ∈ moves.map Prod.fst
  · exact .imported (Renaming.apply_mem moved)
  · rw [Renaming.apply_of_notMem moved]
    exact Step.carried_declares _ _ _ _

/-- Imports are renamed by their moves, every other item that is no list by `σ`. -/
theorem interleaved_kept {P : Step → Prop} {i : Item} (unlisted : ∀ l, i ≠ .exportList l)
    (follows : Follows top moves σ) (avoids : σ.Avoids i.toTree.names) :
    Interleaved (Step.Carried moves functions) P i.steps
      ((i.rename σ).renameImports moves).steps := by
  by_cases imports : ∃ d, i = .imports d
  · obtain ⟨d, rfl⟩ := imports
    exact interleaved_imports d
  by_cases alls : ∃ e, i = .exportAll e
  · obtain ⟨e, rfl⟩ := alls
    rw [Item.steps_exportAll]
    exact .of_inserted (by simp [Item.rename, Item.renameImports, Item.steps_exportAll])
  have notImports (d : ImportDecl) : i ≠ .imports d := fun same => imports ⟨d, same⟩
  have notAlls (e : ExportAll) : i ≠ .exportAll e := fun same => alls ⟨e, same⟩
  rw [Item.renameImports_rename_other notImports, Item.steps, Item.steps,
    Item.toTree_rename notImports unlisted notAlls]
  exact follows.interleaved_rename avoids

theorem interleaved_initial {span inner : Span} {binder : Binder} {name callee : String}
    {d : VariableDecl} {first : Declarator} {value : Tree} (only : d.declarators = [first])
    (target : first.target = .bind inner binder name) (valued : first.initial = some value)
    (follows : Follows top moves σ) (avoids : σ.Avoids value.names) :
    Interleaved (Step.Carried moves [])
      ((initial span d first value callee).Inserts preset)
      (Item.exportDeclaration span (.variable d)).steps
      (((initial span d first value callee).image σ moves route).flatMap Item.steps) := by
  have reported : preset.entry name .variableDeclaration callee ∈
      (initial span d first value callee).entries preset := by
    simp [entries, target, Tree.patternNames]
  have wrapped : Interleaved (Step.Carried moves [])
      ((initial span d first value callee).Inserts preset) first.toTree.steps
      { first.rename σ with
        initial := some (wrapperCall callee (value.rename σ) route) }.toTree.steps := by
    rw [Declarator.steps_toTree, Declarator.steps_toTree, valued, Option.getD_some,
      Option.getD_some, Tree.steps_wrapperCall, Declarator.rename, target]
    refine .inserted (.callee reported) (.append ?_ (.carried (Step.carried_declares _ _ _ _) .nil))
    exact follows.interleaved_rename avoids
  rw [image, List.flatMap_singleton, Item.steps_exportDeclaration,
    Item.steps_exportDeclaration, Declaration.toTree, Declaration.toTree,
    VariableDecl.steps_toTree only, VariableDecl.steps_toTree rfl]
  -- Of an ambient declaration only the bindings are evaluated, so the reads drop out of both.
  split
  · exact wrapped.filter fun _ _ carried => carried.isSome_binding
  · exact wrapped

theorem For.interleaved {i : Item} {p : Plan} (fits : For preset surface i p)
    (follows : Follows top moves σ) (avoids : σ.Avoids i.toTree.names) :
    Interleaved (Step.Carried moves p.functions) (p.Inserts preset) i.steps
      ((p.image σ moves route).flatMap Item.steps) := by
  cases fits with
  | keep i unlisted kept =>
      rw [image, List.flatMap_singleton]
      exact interleaved_kept unlisted follows avoids
  | @drop span d overload =>
      have bodiless : d.body = none := by
        simp only [Planning.isOverload, Bool.and_eq_true, Option.isNone_iff_eq_none] at overload
        exact overload.1.1
      rw [Item.steps_exportDeclaration, Declaration.toTree, d.steps_toTree, bodiless]
      exact .nil
  | @initial span inner binder name d first value callee only target valued recognized =>
      have named : value.names ⊆ (Item.exportDeclaration span (.variable d)).toTree.names := by
        simp [Item.toTree, Declaration.toTree, VariableDecl.toTree, only, Declarator.toTree, valued,
          Tree.names, Tree.namesList]
      exact interleaved_initial only target valued follows (avoids.mono named)
  | @function span d n callee named bodied real recognized =>
      have declared : d.binding.steps = [.declares .function n.text] := by
        rw [FunctionDecl.binding, named]
        rfl
      rw [image, List.flatMap_singleton, Item.steps_exportDeclaration,
        Item.steps_exportDeclaration, Declaration.toTree, d.steps_toTree, Declaration.steps_const,
        Tree.steps_wrapperCall, FunctionDecl.steps_toExpression, declared]
      have reported : preset.entry n.text .functionDeclaration callee ∈
          (Plan.function span d n.text callee).entries preset := List.mem_singleton_self _
      refine .inserted (.callee reported) ?_
      split
      · exact .inserted (.constant (.inr (List.mem_singleton_self _))) .nil
      · exact .carried (.constant (List.mem_singleton_self _)) .nil
  | @list l ps each =>
      rw [Item.steps_exportList, image, List.flatMap_append, List.flatMap_append,
        List.flatMap_singleton, Item.steps_exportList, List.append_nil]
      refine .of_inserted (List.forall_mem_append.mpr ⟨inserts_requested l ps, ?_⟩)
      intro s inserted
      rw [List.flatMap_assoc] at inserted
      obtain ⟨q, specified, inserted⟩ := List.mem_flatMap.mp inserted
      exact inserts_constant specified s inserted

/-- What a list takes from another module under an alias, its image imports. -/
theorem For.declares_imported {i : Item} {p : Plan} (fits : For preset surface i p) {a : String}
    (imported : a ∈ p.imported) (σ τ : Renaming) (route : Points) :
    .declares .importValue a ∈ (p.image σ τ route).flatMap Item.steps := by
  obtain ⟨s, specified, rfl⟩ := List.mem_map.mp imported
  cases fits with
  | keep | drop | initial | function => exact absurd specified List.not_mem_nil
  | @list l ps each =>
      obtain ⟨q, planned, takes⟩ := List.mem_flatMap.mp specified
      have requested : l.request.isSome := by
        have fits := (SpecifierPlan.for_origins each).2 q planned
        generalize q.origin = origin at fits
        cases fits with
        | reExport k callee exported recognized valued requested => exact requested
        | keep | moved | aliased => exact absurd takes List.not_mem_nil
      obtain ⟨r, request⟩ := Option.isSome_iff_exists.mp requested
      obtain ⟨t, ts, same⟩ := List.exists_cons_of_ne_nil (List.ne_nil_of_mem specified)
      have asked : Plan.requested l ps =
          [importNamed (ps.flatMap SpecifierPlan.imported) r.specifier.unescaped] := by
        unfold Plan.requested
        rw [request, show ps.flatMap SpecifierPlan.imported = t :: ts from same]
      rw [image, asked, List.flatMap_append, List.flatMap_append, List.flatMap_singleton,
        Item.steps_importNamed]
      refine List.mem_append_left _ (List.mem_append_left _ ?_)
      exact List.mem_map.mpr ⟨s, specified, rfl⟩

end Plan

end RouteWrap
