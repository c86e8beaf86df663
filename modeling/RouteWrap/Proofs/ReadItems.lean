import RouteWrap.Proofs.QuietExpressions
import RouteWrap.Transform

/-!
Items of a module as they are read. Of each item that the surface of the module looks into, what it
declares in the scope of the module is just what the surface finds in it. Nothing is expected of
the others, default exports and statements.
-/

namespace RouteWrap

open P

/-! Declarations of typed modules -/

namespace Grammar

variable {g : Grammar} [g.Quiet]

instance {s : Span} {n : String} : Meets (Tree.bind s .enumMember n) := .bind rfl
instance {s : Span} {n : String} : Meets (Tree.bind s .enumeration n) := .bind rfl
instance {s : Span} {n : String} : Meets (Tree.bind s .moduleBlock n) := .bind rfl
instance {s : Span} {n : String} : Meets (Tree.bind s .interface n) := .bind rfl
instance {s : Span} {n : String} : Meets (Tree.bind s .typeAlias n) := .bind rfl

instance : Reads (enumMember g) := by
  unfold enumMember
  refine .after fun s => .after fun t => ?_
  extract_lets valued
  have (spelled : MemberSpelling × String) : Reads (valued spelled) := by
    dsimp only [valued]
    infer_instance
  clear_value valued
  split <;> try infer_instance
  refine .after fun _ => .after fun e => .after fun _ => ?_
  split <;> infer_instance
instance {s : Nat} {const declare : Bool} : Reads (enumeration g s const declare) := by
  unfold enumeration; infer_instance
instance : Reads (blockOfItems g) := by
  unfold blockOfItems
  exact .after fun b => .after fun _ => .after fun found => .after fun _ => .after fun span =>
    Reads.of_meets (.enclosed rfl)
-- Each condition in a chain counts what follows it twice.
set_option synthInstance.maxSize 500 in
instance {s : Nat} {keyword : NamespaceKeyword} {declare : Bool} :
    Reads (readModuleBlock g s keyword declare) := by
  unfold readModuleBlock; infer_instance
instance {s : Nat} {declare : Bool} : Reads (globalBlock g s declare) := by
  unfold globalBlock; infer_instance
set_option synthInstance.maxSize 500 in
instance {s : Nat} {declare : Bool} : Reads (interface g s declare) := by
  unfold interface
  refine .after fun _ => .followed inferInstance fun n => .after fun _ =>
    .followed inferInstance fun tps => ?_
  extract_lets rest
  have (bases : Met (List Tree)) : Reads (rest bases.value) := by
    dsimp -zeta only [rest]
    infer_instance
  clear_value rest
  infer_instance
set_option synthInstance.maxSize 500 in
instance {s : Nat} {declare : Bool} : Reads (typeAlias g s declare) := by
  unfold typeAlias; infer_instance
set_option synthInstance.maxSize 500 in
instance {s : Nat} {n : Name} {typeOnly : Bool} : Reads (importEquals g s n typeOnly) := by
  have bound (span : Span) :
      Meets (Tree.bind span (if typeOnly then .importType else .importValue) n.text) := by
    cases typeOnly <;> exact .bind rfl
  unfold importEquals; infer_instance

end Grammar

/-! What is expected of declarations -/

instance : Expected Declarator := ⟨fun d =>
  d.target.bound Binder.declares = d.target.patternNames.map Name.text ∧
    Meets d.ascription ∧ Meets d.initial⟩

instance : Expected VariableDecl := ⟨fun d => Meets d.declarators⟩

/-- A declaration declares just the names that it is said to bind. -/
instance : Expected Declaration := ⟨fun d =>
  d.toTree.bound Binder.declares = d.boundNames.map Name.text⟩

namespace Meets

instance declarators {d : VariableDecl} [met : Meets d] : Meets d.declarators := met.meets

instance variableDecl {s : Span} {kind : VariableKind} {declare : Bool} {ds : List Declarator}
    [met : Meets ds] : Meets (VariableDecl.mk s kind declare ds) := ⟨met⟩

theorem bound_declarator {d : Declarator} (met : Meets d) :
    d.toTree.bound Binder.declares = d.target.patternNames.map Name.text := by
  obtain ⟨names, ascription, initial⟩ := met.meets
  have valued : Meets (d.initial.getD .absent) := inferInstance
  rw [Declarator.toTree, Tree.bound_node_of_unscoped rfl]
  simp [names, ascription.bound, valued.bound]

instance ofVariables {d : VariableDecl} [met : Meets d] : Meets (Declaration.variable d) where
  meets := by
    change d.toTree.bound Binder.declares = (d.declarators.flatMap _).map Name.text
    rw [VariableDecl.toTree, Tree.bound_node_of_unscoped rfl, List.flatMap_map, List.map_flatMap]
    exact List.flatMap_congr fun e listed => (list_iff.mp met.declarators e listed).bound_declarator

instance ofFunction {d : FunctionDecl} : Meets (Declaration.function d) where
  meets := by
    change d.toTree.bound Binder.declares = d.name.toList.map Name.text
    have called : Meets d.callable := inferInstance
    rw [FunctionDecl.toTree, Tree.bound_node_of_unscoped rfl]
    simp only [List.flatMap_cons, called.bound]
    cases named : d.name <;>
      simp [FunctionDecl.binding, named, Tree.bound, Tree.escaping, Binder.declares]

instance ofClass {d : ClassDecl} [met : Meets d] : Meets (Declaration.classes d) where
  meets := by
    change d.toTree.bound Binder.declares = d.name.toList.map Name.text
    obtain ⟨decorators, tail⟩ := met.meets
    rw [ClassDecl.toTree, Tree.bound_node_of_unscoped rfl]
    simp only [List.flatMap_cons, decorators.bound, tail.bound]
    cases named : d.name <;>
      simp [ClassDecl.binding, named, Tree.bound, Tree.escaping, Binder.declares]

instance ofOther {t : Tree} [met : Meets t] : Meets (Declaration.other t) := ⟨met.bound⟩

end Meets

namespace Grammar

variable {g : Grammar} [g.Quiet]

set_option synthInstance.maxSize 500 in
instance {kind : VariableKind} {checked : Bool} : Reads (declarator g kind checked) := by
  unfold declarator
  refine .after fun s => ReadsPattern.followed (Quiet.pattern _) fun target pattern => ?_
  have names : target.bound Binder.declares = target.patternNames.map Name.text := by
    rw [pattern.bound]
    cases kind <;> rfl
  have made {s : Span} {definite : Bool} {type : Tree} {initial : Option Tree} [typed : Meets type]
      [valued : Meets initial] : Meets (Declarator.mk s definite target type initial) :=
    ⟨names, typed, valued⟩
  dsimp only
  split <;> infer_instance

instance {s : Nat} {kind : VariableKind} {declare checked : Bool} :
    Reads (variableDecl g s kind declare checked) := by
  unfold variableDecl; infer_instance

instance : Reads declarationFrom.none? := by unfold declarationFrom.none?; infer_instance

instance {s : Nat} {ms : ModifierList} {ds : Tree} [Meets ds] :
    Reads (declarationFrom g s ms ds) := by
  unfold declarationFrom
  refine .after fun k => ?_
  split <;> infer_instance

instance {s : Nat} {ds : Tree} [Meets ds] : Reads (modifiedDeclaration g s ds) := by
  unfold modifiedDeclaration; infer_instance

end Grammar

/-! What is expected of items -/

namespace Item

/-- The items that the surface of a module does not look into. -/
def Hidden : Item → Prop
  | exportDefault .. | statement _ => True
  | _ => False

end Item

instance : Expected Request := ⟨fun r => Meets r.attributes⟩

/-- An item declares just what the surface finds in it, if the surface looks into it. -/
instance : Expected Item := ⟨fun i =>
  ¬ i.Hidden → i.toTree.bound Binder.declares = i.declaredNames⟩

namespace Meets

instance request {s : Span} {ps : Points} {attributes : Tree} [met : Meets attributes] :
    Meets (Request.mk s ps attributes) := ⟨met⟩

theorem ofHidden {i : Item} (hidden : i.Hidden) : Meets i := ⟨fun shown => absurd hidden shown⟩

instance ofDefault {s : Span} {v : DefaultValue} : Meets (Item.exportDefault s v) :=
  ofHidden trivial

instance ofStatement {t : Tree} : Meets (Item.statement t) := ofHidden trivial

instance ofDeclaration {d : Declaration} [met : Meets d] : Meets (Item.declaration d) :=
  ⟨fun _ => met.meets⟩

instance ofExported {s : Span} {d : Declaration} [met : Meets d] :
    Meets (Item.exportDeclaration s d) where
  meets _ := by
    have names : d.toTree.bound Binder.declares = d.boundNames.map Name.text := met.meets
    rw [Item.toTree, Tree.bound_node_of_unscoped rfl, List.flatMap_singleton]
    exact names

theorem of_exported {s : Span} {d : Declaration} (met : Meets (Item.exportDeclaration s d)) :
    Meets d := by
  have names := met.meets id
  rw [Item.toTree, Tree.bound_node_of_unscoped rfl, List.flatMap_singleton] at names
  exact ⟨names⟩

theorem ofQuiet {i : Item} (quiet : Meets i.toTree) (none : i.declaredNames = []) : Meets i :=
  ⟨fun _ => quiet.bound.trans none.symm⟩

instance toTrees {r : Request} [met : Meets r] : Meets r.toTrees :=
  have : Meets r.attributes := met.meets
  inferInstanceAs (Meets [Tree.link r.span (.moduleString r.specifier) [], r.attributes])

instance linkName {n : LinkName} : Meets n.toTree := by
  cases n <;> unfold LinkName.toTree <;> infer_instance

instance reference {n : LinkName} {u : Use} : Meets (n.toReference u) := by
  cases n <;> unfold LinkName.toReference <;> infer_instance

instance importSpecifier {typeOnly : Bool} {s : ImportSpecifier} : Meets (s.toTree typeOnly) := by
  have bound : Meets (Tree.bind s.localName.span
      (if typeOnly || s.typeOnly then .importType else .importValue) s.localName.text) := by
    split <;> exact .bind rfl
  unfold ImportSpecifier.toTree
  dsimp only
  split <;> infer_instance

instance exportSpecifier {typeOnly isLocal : Bool} {s : ExportSpecifier} :
    Meets (s.toTree typeOnly isLocal) := by
  unfold ExportSpecifier.toTree
  infer_instance

instance ofImports {s : Span} {typeOnly : Bool} {phase : ImportPhase}
    {specifiers : Option (List ImportSpecifier)} {r : Request} [met : Meets r] :
    Meets (Item.imports ⟨s, typeOnly, phase, specifiers, r⟩) := by
  refine ofQuiet ?_ rfl
  have : Meets ((specifiers.getD []).map (·.toTree typeOnly)) :=
    list_iff.mpr (List.forall_mem_map.mpr fun _ _ => inferInstance)
  exact inferInstanceAs (Meets (Tree.link _ _ (_ ++ _)))

instance ofExportList {s : Span} {typeOnly : Bool} {specifiers : List ExportSpecifier}
    {r : Option Request} [met : Meets r] :
    Meets (Item.exportList ⟨s, typeOnly, specifiers, r⟩) := by
  refine ofQuiet ?_ rfl
  have : Meets (specifiers.map (·.toTree typeOnly r.isNone)) :=
    list_iff.mpr (List.forall_mem_map.mpr fun _ _ => inferInstance)
  have : Meets ((r.map Request.toTrees).getD [.absent, .absent]) := by
    cases r with
    | none => exact inferInstanceAs (Meets [Tree.absent, Tree.absent])
    | some r =>
        have := met.of_some
        exact inferInstanceAs (Meets r.toTrees)
  exact inferInstanceAs (Meets (Tree.link _ _ (_ ++ _)))

instance ofExportAll {s : Span} {typeOnly : Bool} {exported : Option LinkName} {r : Request}
    [met : Meets r] : Meets (Item.exportAll ⟨s, typeOnly, exported, r⟩) := by
  refine ofQuiet ?_ rfl
  have : Meets ((exported.map LinkName.toTree).getD .absent) := by
    cases exported with
    | none => exact absent
    | some n => exact linkName
  exact inferInstanceAs (Meets (Tree.link _ _ (_ :: r.toTrees)))

end Meets

namespace Grammar

variable {g : Grammar} [g.Quiet]

/-! Imports and exports -/

instance : Reads requestAttribute := by unfold requestAttribute; infer_instance
instance : Reads requestAttributes := by unfold requestAttributes; infer_instance
instance : Reads request := by unfold request; infer_instance
set_option synthInstance.maxSize 500 in
instance {s : Nat} : Reads (exportListItem s) := by unfold exportListItem; infer_instance
instance {s : Nat} : Reads (exportAllItem s) := by unfold exportAllItem; infer_instance
instance : Reads (importItem g) := by
  unfold importItem
  refine .after fun s => .after fun isExpression => ?_
  split
  · infer_instance
  refine .after fun _ => .after fun h => ?_
  extract_lets specified imported
  have (u : Unit) : Reads (imported u) := by
    dsimp only [imported, specified]
    infer_instance
  clear_value imported
  split <;> infer_instance
instance {s : Nat} {ds : Tree} [Meets ds] : Reads (exportItem.declared g s ds) := by
  unfold exportItem.declared; infer_instance
instance {s : Nat} {ds : Tree} [Meets ds] : Reads (exportItem g s ds) := by
  unfold exportItem
  refine .after fun t => .after fun _ => .after fun k => ?_
  split <;> infer_instance

/-! Items -/

instance {s : Nat} {kind : VariableKind} {single : Bool} :
    Reads (variableItem g s kind single) := by
  unfold variableItem; infer_instance
instance {single : Bool} : Reads (letItem g single) := by
  unfold letItem
  refine .after fun s => .after fun next => ?_
  dsimp only
  split
  · exact .after fun e => inferInstance
  · infer_instance
instance {single : Bool} : Reads (functionItem g single) := by unfold functionItem; infer_instance
instance {s : Nat} {single : Bool} : Reads (classItem g s single) := by
  unfold classItem; infer_instance
instance : Reads (decoratedItem g) := by
  unfold decoratedItem
  refine .after fun s => .followed inferInstance fun ds => .after fun isExport => ?_
  split
  · infer_instance
  · refine .followed inferInstance fun d => ?_
    obtain ⟨d, met⟩ := d
    dsimp only
    split <;> infer_instance
instance : Reads (typedItem g) := by unfold typedItem; infer_instance

theorem escaping_map_markFunction (t : Option Tree) :
    ((t.map markFunction).getD .absent).escaping = (t.getD .absent).escaping := by
  cases t with
  | none => rfl
  | some t => exact escaping_markFunction t

/-- A mark on a function is no part of what is declared. -/
theorem names_markDeclaration (d : Declaration) :
    (markItem.markDeclaration d).toTree.escaping = d.toTree.escaping ∧
      (markItem.markDeclaration d).boundNames = d.boundNames := by
  unfold markItem.markDeclaration
  split
  · exact ⟨rfl, rfl⟩
  · split
    · next d _ _ first rest _ listed =>
      refine ⟨?_, by simp [Declaration.boundNames, listed]⟩
      simp only [Declaration.toTree, VariableDecl.toTree, Declarator.toTree, listed, List.map_cons,
        Tree.escaping, Tree.escapingList, escaping_map_markFunction]
    · exact ⟨rfl, rfl⟩
  · exact ⟨rfl, rfl⟩

instance {d : Declaration} [met : Meets d] : Meets (markItem.markDeclaration d) where
  meets := by
    obtain ⟨escaping, names⟩ := names_markDeclaration d
    have same : Tree.bound Binder.declares (markItem.markDeclaration d).toTree =
        Tree.bound Binder.declares d.toTree := by
      rw [Tree.bound, escaping, Tree.bound]
    exact same.trans (met.meets.trans (congrArg _ names.symm))

instance {i : Item} [met : Meets i] : Meets (markItem i) := by
  unfold markItem
  split
  · next d =>
    have : Meets d := ⟨met.meets id⟩
    infer_instance
  · next s d =>
    have : Meets d := met.of_exported
    infer_instance
  · infer_instance
  · infer_instance
  · infer_instance

instance {p : P Tree} : Reads (Item.statement <$> p) := ⟨fun _ => .ofStatement⟩

instance {single : Bool} : Reads (plainItem g single) := by
  unfold plainItem
  refine .after fun s => ?_
  extract_lets statement
  have (p : P Tree) : Reads (statement p) := inferInstanceAs (Reads (Item.statement <$> p))
  clear_value statement
  refine .after fun k => ?_
  split <;> try infer_instance
  split <;> infer_instance

instance {single : Bool} : Reads (readItem g single) := by unfold readItem; infer_instance

end Grammar

/-! The knot -/

theorem reads_refuse : Reads Grammar.ofDepth.refuse := by
  unfold Grammar.ofDepth.refuse
  infer_instance

instance quiet_ofDepth (depth : Nat) : (Grammar.ofDepth depth).Quiet := by
  induction depth with
  | zero =>
      exact {
        expression := reads_refuse
        assignment := fun _ => reads_refuse
        binary := fun _ => reads_refuse
        unary := reads_refuse
        leftHand := reads_refuse
        members := Reads.after fun _ => inferInstance
        pattern := fun b => Reads.after fun _ => Patterned.absent.reads
        type := reads_refuse
        operatorType := reads_refuse
        element := fun _ _ => reads_refuse
        moduleBlock := fun _ _ _ => reads_refuse }
  | succ depth ih =>
      exact {
        expression := inferInstanceAs (Reads (Grammar.ofDepth depth).readExpression)
        assignment := fun allow =>
          inferInstanceAs (Reads ((Grammar.ofDepth depth).readAssignment allow))
        binary := fun level => inferInstanceAs (Reads ((Grammar.ofDepth depth).readBinary level))
        unary := inferInstanceAs (Reads (Grammar.ofDepth depth).readUnary)
        leftHand := inferInstanceAs (Reads (Grammar.ofDepth depth).readLeftHand)
        members := inferInstanceAs (Reads (Grammar.ofDepth depth).readMembers)
        pattern := fun b => Grammar.readsPattern_bindingPattern (g := Grammar.ofDepth depth)
        type := inferInstanceAs (Reads (Grammar.ofDepth depth).readType)
        operatorType := inferInstanceAs (Reads (Grammar.ofDepth depth).readOperatorType)
        element := fun s between =>
          inferInstanceAs (Reads ((Grammar.ofDepth depth).readElement s between))
        moduleBlock := fun s keyword declare =>
          inferInstanceAs (Reads ((Grammar.ofDepth depth).readModuleBlock s keyword declare)) }

instance reads_item (depth : Nat) (single : Bool) :
    Reads ((Grammar.ofDepth depth).item single) := by
  cases depth with
  | zero => exact Reads.after fun _ => inferInstance
  | succ depth => exact inferInstanceAs (Reads ((Grammar.ofDepth depth).readItem single))

/-! Modules -/

/-- Strings at the head of a module are set apart as directives; the other items stay in order. -/
instance reads_statements {g : Grammar} [Reads (g.item false)] {close : Option Kind} :
    Reads (g.statements close) := by
  unfold Grammar.statements
  refine .followed (reads_iterate inferInstance fun state => ?_) fun found => ?_
  · obtain ⟨⟨ds, is, heading⟩, met⟩ := state
    have := met.of_pair.1
    have := met.of_pair.2.of_pair.1
    refine .after fun isEnd => .after fun k => ?_
    split
    · infer_instance
    · refine .after fun t => .followed inferInstance fun item => ?_
      obtain ⟨item, met⟩ := item
      split
      · dsimp only
        split <;> infer_instance
      · infer_instance
  · obtain ⟨⟨ds, is, heading⟩, met⟩ := found
    have := met.of_pair.1
    have := met.of_pair.2.of_pair.1
    infer_instance

set_option synthInstance.maxSize 500 in
instance : Reads readModule := by
  unfold readModule
  infer_instance

/-- In a module that is read, what an item declares is what the surface finds in it. -/
theorem Reading.meets_of_ofSource {source : String} {d : Dialect} {m : Module}
    (found : (Reading.ofSource source d).module? = some m) : ∀ i ∈ m.items, Meets i := by
  have met := Reads.reads (m := readModule) (.initial source d)
  unfold ofSource at found
  generalize readModule.run (Cursor.initial source d) = read at found met
  obtain ⟨⟨hashbang, directives, items⟩, c⟩ := read
  dsimp only at found
  split at found
  · cases found
  · cases found
    exact Meets.list_iff.mp met.of_pair.2.of_pair.2

theorem Module.meets_of_ofSource {source : String} {options : ReadOptions} {m : Module}
    {faults : List Diagnostic} (read : Module.ofSource source options = .ok (m, faults)) :
    ∀ i ∈ m.items, Meets i := by
  suffices found : (Reading.ofSource source options.dialect).module? = some m from
    Reading.meets_of_ofSource found
  unfold ofSource at read
  dsimp only at read
  split at read
  · next found =>
    split at read
    · cases read
      exact found
    · cases read
  · cases read

end RouteWrap
