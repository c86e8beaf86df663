import Mathlib
import RouteWrap.Proofs.PatternPlaces
import RouteWrap.Proofs.ReadItems
import RouteWrap.Proofs.ReferencePlaces

/-!
The names that a module exports are read in the order of the text: item by item, and in an item
specifier by specifier, name by name. So the places of what is reported can be compared with the
order of the text.
-/

namespace RouteWrap

open P

namespace Grammar

variable {g : Grammar}

/-! Links -/

theorem adds_linkName : Adds linkName fun n => [n.place] := by
  refine fun before => ⟨inferInstance, fun c => .token ?_⟩
  split
  · next isString =>
    have text : c.token.kind.isText := by rw [eq_of_beq isString]; rfl
    extract_lets taken
    have taken (u : Unit) {c' : Cursor} (same : c'.token = c.token) :
        PlacesFrom c' before (taken u) fun n => before ++ [n.place] := by
      let n := LinkName.string c.token.span c.token.value
      refine .bind (places_move (n := n.place) ?_ ?_) fun _ => .pure (.refl _)
      · rw [same]
        exact text
      · rw [same]
        rfl
    split
    · exact .keeping rfl fun _ c' same => taken () same
    · exact taken () rfl
  · exact (Places.bind (adds_anyName before) fun n => .pure (.refl _)).places c

/-- Of the names of a specifier, the one that is exported comes last. -/
theorem adds_rawSpecifier : Adds rawSpecifier fun r => [(r.second.getD r.first).place] := by
  intro before
  have instead (n : LinkName) :
      Places (before ++ [n.place]) linkName fun n => before ++ [n.place] :=
    (adds_linkName before).aside (List.sublist_append_left ..)
  unfold rawSpecifier
  refine .on fun t => ?_
  extract_lets s plain untyped mayRename renamed settled typed
  have renamed (first : LinkName) (second : Option LinkName) (typeOnly : Option Nat)
      (mayRename : Bool) : Places (before ++ [(second.getD first).place])
        (renamed () first second typeOnly mayRename)
          fun r => before ++ [(r.second.getD r.first).place] := by
    refine .on fun isAs => ?_
    extract_lets made
    have made (second : Option LinkName) : Places (before ++ [(second.getD first).place])
        (made () second) fun r => before ++ [(r.second.getD r.first).place] :=
      .on fun span => .pure (.refl _)
    split
    · exact .on fun _ => .bind (instead _) fun n => made (some n)
    · exact made second
  refine .bind (adds_linkName before) fun name => ?_
  extract_lets first
  split
  · refine .on fun isAs => ?_
    split
    · refine .bind (instead _) fun firstAs => .on fun isAs => ?_
      split
      · refine .bind (instead _) fun secondAs => .on fun isName => ?_
        split
        · exact .bind (instead _) fun n => renamed firstAs (some n) typed settled
        · exact renamed name (some secondAs) untyped settled
      · refine .on fun isName => ?_
        split
        · exact .bind (instead _) fun n => renamed name (some n) untyped settled
        · exact renamed firstAs plain typed settled
    · refine .on fun isName => ?_
      split
      · exact .bind (instead _) fun n => renamed n plain typed mayRename
      · exact renamed name plain untyped mayRename
  · exact renamed name plain untyped mayRename

theorem adds_exportSpecifier {typeOnly : Bool} :
    Adds (exportSpecifier typeOnly) fun s => [s.exported.place] := by
  intro before
  unfold exportSpecifier
  refine .bind (adds_rawSpecifier before) fun r => ?_
  dsimp only
  split
  · exact .on fun _ => .pure (.refl _)
  · exact .pure (.refl _)

-- Each condition in a chain counts what follows it twice.
set_option synthInstance.maxSize 500 in
theorem adds_exportListItem {s : Nat} : Adds (exportListItem s) Item.places := by
  intro before
  unfold exportListItem
  refine .on fun typeOnly => .on fun _ => .bindPair (adds_separated adds_exportSpecifier before)
    fun es comma => .on fun _ => ?_
  have listed (r : Option Request) : Gives (fun i => i.places = es.flatMap ([·.exported.place])) do
      if r.isNone then es.forM checkExported
      semicolon
      return Item.exportList ⟨← since s, typeOnly, es, r⟩ := by
    have same (l : ExportList) (specifiers : l.specifiers = es) :
        (Item.exportList l).places = es.flatMap ([·.exported.place]) := by
      rw [Item.places, specifiers, List.map_eq_flatMap]
    split
    · exact .after fun _ => .after fun _ => .after fun span => .pure (same _ rfl)
    · exact .after fun _ => .after fun span => .pure (same _ rfl)
  refine .of_same (.after fun hasSource => ?_)
  dsimp only
  split
  · refine .after fun isString => ?_
    split <;> exact .after fun r => listed r
  · exact .after fun r => listed r

theorem adds_exportAllItem {s : Nat} : Adds (exportAllItem s) Item.places := by
  intro before
  have rest (n : Option LinkName) (typeOnly : Bool) :
      Places (before ++ (n.map LinkName.place).toList) (do
        expectWord "from"
        let r ← request
        semicolon
        return Item.exportAll ⟨← since s, typeOnly, n, r⟩) fun i => before ++ i.places :=
    .on fun _ => .on fun r => .on fun _ => .on fun span => .pure (.refl _)
  unfold exportAllItem
  refine .on fun typeOnly => .on fun _ => .on fun isNamed => ?_
  dsimp only
  split
  · exact .bind (.map (adds_linkName before)) fun n => rest n typeOnly
  · exact .bind (.pure (by simp)) fun n => rest n typeOnly

/-! Defaults -/

theorem place?_expression (t : Tree) :
    (DefaultValue.expression t).place?.toList.Sublist t.reference?.toList := by
  cases t with
  | ref => exact .refl _
  | _ => exact List.nil_sublist _

variable [g.Onward] [referring : g.Referring]

theorem adds_defaultValue {ds : Tree} : Adds (defaultValue g ds) fun v => v.place?.toList := by
  intro before
  have classes (s : Nat) (ds : Tree) (isAbstract : Bool) : Places before
      (do return DefaultValue.declaration (.classes (← classFrom g s ds isAbstract false)))
        fun v => before ++ v.place?.toList :=
    .bind (adds_classFrom before) fun d => .pure (.refl _)
  have expression : Places before (do
      let e ← g.assignment true
      semicolon
      return DefaultValue.expression e) fun v => before ++ v.place?.toList :=
    .bind (referring.assignment true before) fun e => .on fun _ =>
      .pure ((List.Sublist.refl _).append (place?_expression e))
  unfold defaultValue
  refine .on fun s => .on fun isClass => ?_
  split
  · exact classes s ds false
  refine .on fun decorated => ?_
  split
  · refine .on fun ds => .on fun types => .on fun isAbstract => ?_
    split
    · exact .on fun _ => classes s ds true
    · exact classes s ds false
  refine .on fun types => .on fun isAbstract => .on fun isClass => ?_
  split
  · exact .on fun _ => classes s ds true
  refine .on fun types => .on fun isInterface => .on fun isNamed => ?_
  split
  · exact .on fun t => .pure (by simp [DefaultValue.place?])
  refine .on fun isFunction => .on fun isAsync => ?_
  split
  · exact .on fun t => .bind (adds_function before) fun d => .pure (.refl _)
  · exact expression

/-! Items -/

variable [ordered : g.Ordered]

theorem places_statement {before : List Name} {t : Tree} :
    Places before (pure (Item.statement t)) fun i => before ++ i.places :=
  .pure (by rw [Item.places, List.append_nil])

theorem adds_exportItem {s : Nat} {ds : Tree} : Adds (exportItem g s ds) Item.places := by
  intro before
  have declared (ds : Tree) : Places before (exportItem.declared g s ds)
      fun i => before ++ i.places :=
    .on fun start => .bind (adds_modifiedDeclaration before) fun d => .on fun span =>
      .pure (.refl _)
  unfold exportItem
  refine .on fun t => .on fun _ => .on fun k => ?_
  split
  · exact adds_exportAllItem before
  · exact adds_exportListItem before
  · exact .on fun _ => .bind (adds_defaultValue before) fun v => .on fun span => .pure (.refl _)
  · refine .on fun _ => .on fun e => .on fun _ => .on fun types => ?_
    split
    · exact .on fun _ => .on fun span => places_statement
    · exact .on fun span => places_statement
  · refine .on fun types => .on fun isNamespace => ?_
    split
    · exact .on fun _ => .on fun _ => .on fun n => .on fun _ => .on fun span => places_statement
    · exact declared ds
  · refine .on fun next => .on fun types => ?_
    split
    · exact adds_exportListItem before
    refine .on fun types => ?_
    split
    · exact adds_exportAllItem before
    · exact declared ds
  · refine .on fun types => ?_
    split
    · refine .on fun inner => .on fun _ => .on fun isType => ?_
      have imported (typeOnly : Bool) : Places before (do
          let n ← bindingName
          let d ← importEquals g inner n typeOnly
          return Item.exportDeclaration (← since s) (.other d)) fun i => before ++ i.places :=
        .on fun n => .on fun d => .on fun span =>
          .pure (by simp [Item.places, Declaration.boundNames])
      dsimp only
      split
      · refine .on fun isName => ?_
        split <;> exact .on fun typeOnly => imported typeOnly
      · exact .on fun typeOnly => imported typeOnly
    · exact declared ds
  · exact .on fun ds => declared ds
  · exact declared ds

/-- What an item exports is added, in order, and nothing else. -/
class Shown (m : P Item) : Prop where
  adds : Adds m Item.places

namespace Shown

theorem on {α : Type} {m : P α} {f : α → P Item} [Forward m] (rest : ∀ a, Shown (f a)) :
    Shown (m >>= f) :=
  ⟨fun before => .on fun a => (rest a).adds before⟩

instance {α : Type} {m : P α} {f : α → P Item} [Forward m] [rest : ∀ a, Shown (f a)] :
    Shown (m >>= f) :=
  on rest

instance {p : Prop} [Decidable p] {m m' : P Item} [Shown m] [Shown m'] :
    Shown (if p then m else m') := by
  split <;> infer_instance

theorem pure {i : Item} (none : i.places = []) : Shown (pure i) :=
  ⟨fun before => .pure (by rw [none, List.append_nil])⟩

instance {t : Tree} : Shown (Pure.pure (.statement t)) := pure rfl
instance {d : Declaration} : Shown (Pure.pure (.declaration d)) := pure rfl
instance {d : ImportDecl} : Shown (Pure.pure (.imports d)) := pure rfl

instance {p : P Tree} [Forward p] : Shown (Item.statement <$> p) :=
  inferInstanceAs (Shown (p >>= fun t => Pure.pure (.statement t)))

end Shown

instance {s : Nat} {kind : VariableKind} {single : Bool} :
    Shown (variableItem g s kind single) := by
  unfold variableItem; infer_instance

instance {single : Bool} : Shown (letItem g single) := by unfold letItem; infer_instance

instance {single : Bool} : Shown (functionItem g single) := by unfold functionItem; infer_instance

instance {s : Nat} {single : Bool} : Shown (classItem g s single) := by
  unfold classItem; infer_instance

instance : Shown (typedItem g) := by unfold typedItem; infer_instance

instance : Shown (importItem g) := by
  unfold importItem
  refine .on fun s => .on fun isExpression => ?_
  split
  · infer_instance
  refine .on fun _ => .on fun h => ?_
  extract_lets imported clause
  have (ss : Option (List ImportSpecifier)) : Shown (imported ss) := by
    dsimp only [imported]
    infer_instance
  have (u : Unit) : Shown (clause u) := by
    dsimp only [clause]
    clear_value imported
    infer_instance
  clear_value clause
  split <;> infer_instance

instance {s : Nat} {ds : Tree} : Shown (exportItem g s ds) := ⟨adds_exportItem⟩

instance : Shown (decoratedItem g) := by
  unfold decoratedItem
  refine .on fun s => .on fun ds => .on fun isExport => ?_
  split
  · infer_instance
  refine .on fun d => ?_
  split <;> infer_instance

instance {single : Bool} : Shown (plainItem g single) := by
  unfold plainItem
  refine .on fun s => ?_
  extract_lets statement
  have (p : P Tree) [Forward p] : Shown (statement p) :=
    inferInstanceAs (Shown (Item.statement <$> p))
  clear_value statement
  refine .on fun k => ?_
  split <;> try infer_instance
  split <;> try infer_instance
  all_goals exact .on fun kind? => by split <;> infer_instance

/-- Nor does it change what is exported. -/
theorem places_markItem (i : Item) : (markItem i).places = i.places := by
  unfold markItem
  split
  · rfl
  · exact (names_markDeclaration _).2
  · next s d =>
    suffices same : (DefaultValue.declaration (markItem.markDeclaration d)).place? =
        (DefaultValue.declaration d).place? from
      congrArg Option.toList same
    unfold markItem.markDeclaration
    split
    · rfl
    · split <;> rfl
    · rfl
  · next s e =>
    suffices same : (DefaultValue.expression (markFunction e)).place? =
        (DefaultValue.expression e).place? from
      congrArg Option.toList same
    unfold markFunction
    split <;> rfl
  · rfl

instance {single : Bool} : Shown (readItem g single) := by
  unfold readItem
  refine ⟨fun before => .on fun t => .bind (Shown.adds before) fun item => .pure ?_⟩
  split
  · rw [places_markItem]
  · exact .refl _

end Grammar

/-! The knot -/

theorem adds_refuse {names : Tree → List Name} (none : names .absent = []) :
    Adds Grammar.ofDepth.refuse names :=
  fun before => .on fun _ => .pure (by rw [none, List.append_nil])

instance ordered_ofDepth (depth : Nat) : (Grammar.ofDepth depth).Ordered := by
  induction depth with
  | zero => exact ⟨fun b => adds_refuse (by simp [Tree.patternNames])⟩
  | succ depth ih =>
      exact ⟨fun b => Grammar.adds_bindingPattern (g := Grammar.ofDepth depth)⟩

instance referring_ofDepth (depth : Nat) : (Grammar.ofDepth depth).Referring := by
  induction depth with
  | zero =>
      exact {
        assignment := fun _ => adds_refuse rfl
        binary := fun _ => adds_refuse rfl
        unary := adds_refuse rfl
        leftHand := adds_refuse rfl
        element := fun _ _ _ => rfl }
  | succ depth ih =>
      let g := Grammar.ofDepth depth
      exact {
        assignment := fun allow => Grammar.refers_readAssignment (g := g)
        binary := fun level => Grammar.refers_readBinary (g := g)
        unary := Grammar.refers_readUnary (g := g)
        leftHand := Grammar.refers_readLeftHand (g := g)
        element := fun s between => Grammar.unnamed_readElement (g := g) }

instance shown_item (depth : Nat) (single : Bool) :
    Grammar.Shown ((Grammar.ofDepth depth).item single) := by
  cases depth with
  | zero => exact .on fun _ => inferInstance
  | succ depth => exact inferInstanceAs (Grammar.Shown ((Grammar.ofDepth depth).readItem single))

/-! Modules -/

/-- What is set apart as a directive exports nothing. -/
theorem adds_statements {g : Grammar} [Grammar.Shown (g.item false)] {close : Option Kind} :
    Adds (g.statements close) fun r => r.2.flatMap Item.places := by
  intro before
  unfold Grammar.statements
  refine .bind (places_iterate (fun (r : Array Tree × Array Item × Bool) =>
      before ++ r.2.1.toList.flatMap Item.places) (by simp) ?_) fun r => .pure (.refl _)
  rintro ⟨ds, is, heading⟩
  have listed (item : Item) : Places (before ++ is.toList.flatMap Item.places ++ item.places)
      (pure ((ds, is.push item, false), true) : P ((Array Tree × Array Item × Bool) × Bool))
        fun r => before ++ r.1.2.1.toList.flatMap Item.places :=
    .pure (pushed _ _)
  refine .on fun isEnd => .on fun k => ?_
  split
  · exact .pure (.refl _)
  refine .on fun t => .bind (Grammar.Shown.adds _) fun item => ?_
  split
  · split
    · split
      · exact .pure (by simp [Item.places])
      · exact listed _
    · exact listed _
  · exact listed _

theorem adds_readModule : Adds readModule fun r => r.2.2.flatMap Item.places := by
  intro before
  have whole (depth : Nat) (hashbang : Option String) : Places before (do
      let read ← (Grammar.ofDepth depth).statements none
      return (hashbang, read)) fun r => before ++ r.2.2.flatMap Item.places :=
    .bind (adds_statements before) fun r => .pure (.refl _)
  unfold readModule
  refine .on fun _ => .on fun c => .on fun k => ?_
  split
  · exact .on fun _ => .on fun hashbang => whole _ _
  · exact .on fun hashbang => whole _ _

theorem Cursor.ready_initial (source : String) (d : Dialect) : (initial source d).Ready :=
  ⟨Nat.zero_le _, nofun⟩

/-- In a module that is read, the exported names stand in the order of its items. -/
theorem Reading.ascending_places_of_ofSource {source : String} {d : Dialect} {m : Module}
    (found : (Reading.ofSource source d).module? = some m) : Name.Ascending m.places := by
  have places := (adds_readModule []).places (.initial source d) (Cursor.ready_initial source d)
    .nil
  unfold ofSource at found
  generalize readModule.run (Cursor.initial source d) = read at found places
  obtain ⟨⟨hashbang, directives, items⟩, c⟩ := read
  dsimp only at found
  split at found
  · cases found
  · next lasting =>
    cases found
    exact (places (Option.not_isSome_iff_eq_none.mp lasting)).ascending

namespace Module

theorem ascending_places {source : String} {options : ReadOptions} {m : Module}
    {faults : List Diagnostic} (read : ofSource source options = .ok (m, faults)) :
    Name.Ascending m.places := by
  suffices found : (Reading.ofSource source options.dialect).module? = some m from
    Reading.ascending_places_of_ofSource found
  unfold ofSource at read
  dsimp only at read
  split at read
  · next found =>
    split at read
    · cases read
      exact found
    · cases read
  · cases read

/-! Reports -/

/-- The names are those at the places, each of these that of an export of its own. -/
structure Placed (m : Module) (names : List String) (ns : List Name) : Prop where
  texts : names = ns.map Name.text
  places : ns.Subperm m.places

theorem placed_report (m : Module) (preset : Preset) (routeId : String) :
    m.Placed ((m.rewriteExports preset routeId).2.wrapped.map (·.name)) (m.wrappedPlaces preset) ∧
      m.Placed ((m.rewriteExports preset routeId).2.skipped.map (·.name))
        (m.skippedPlaces preset) := by
  obtain ⟨wrapped, skipped⟩ := m.report_lists preset routeId
  exact ⟨⟨wrapped, (m.wrappedPlaces_sublist preset).subperm⟩,
    ⟨skipped, m.skippedPlaces_subperm preset⟩⟩

/-- What is wrapped is reported in the order of the text. What is skipped is so exactly if in each
exported declaration of variables the recognized names stand in the order of the alphabet. -/
theorem reports_in_order {source : String} {options : ReadOptions} {m : Module}
    {faults : List Diagnostic} (read : ofSource source options = .ok (m, faults))
    (preset : Preset) (routeId : String) :
    (m.Placed ((m.rewriteExports preset routeId).2.wrapped.map (·.name)) (m.wrappedPlaces preset) ∧
        Name.Ascending (m.wrappedPlaces preset)) ∧
      m.Placed ((m.rewriteExports preset routeId).2.skipped.map (·.name))
          (m.skippedPlaces preset) ∧
        (Name.Ascending (m.skippedPlaces preset) ↔
          ∀ span d, .exportDeclaration span (.variable d) ∈ m.items → d.Alphabetic preset) := by
  have ascending := ascending_places read
  obtain ⟨wrapped, skipped⟩ := m.placed_report preset routeId
  exact ⟨⟨wrapped, ascending.sublist (m.wrappedPlaces_sublist preset)⟩, skipped,
    m.ascending_skippedPlaces_iff preset ascending⟩

/-- `export const{loader,action}=h`, as it is read. -/
def destructuring : Module where
  dialect := .typedTagged
  length := 29
  hashbang := none
  directives := []
  items :=
    [.exportDeclaration ⟨0, 29⟩ (.variable
      { span := ⟨7, 29⟩, kind := .const, declare := false
        declarators := [
          { span := ⟨12, 29⟩, definite := false
            target := .pat ⟨12, 27⟩ .object [
              .pat ⟨13, 19⟩ (.property true false)
                [.expr ⟨13, 19⟩ (.keyName "loader") [], .bind ⟨13, 19⟩ .lexical "loader"],
              .pat ⟨20, 26⟩ (.property true false)
                [.expr ⟨20, 26⟩ (.keyName "action") [], .bind ⟨20, 26⟩ .lexical "action"]]
            ascription := .absent
            initial := some (.ref ⟨28, 29⟩ .value "h") }] })]
  comments := []

set_option maxRecDepth 10000 in
theorem ofSource_destructuring :
    ofSource "export const{loader,action}=h" ⟨.typedTagged, false⟩ = .ok (destructuring, []) := by
  cbv

theorem destructuring_unordered :
    ofSource "export const{loader,action}=h" ⟨.typedTagged, false⟩ = .ok (destructuring, []) ∧
      ¬ Name.Ascending (destructuring.skippedPlaces .dataFunctions) := by
  refine ⟨ofSource_destructuring, fun ascending => ?_⟩
  have alphabetic := (reports_in_order ofSource_destructuring .dataFunctions "r").2.2.mp ascending
  have sorted := alphabetic _ _ (List.mem_singleton_self _)
  unfold VariableDecl.Alphabetic at sorted
  revert sorted
  decide

theorem skippedPlaces_destructuring :
    destructuring.skippedPlaces .dataFunctions =
      [⟨⟨20, 26⟩, "action"⟩, ⟨⟨13, 19⟩, "loader"⟩] := by
  have later : ¬ "loader" ≤ "action" := by decide
  let recognized : List Name := [⟨⟨13, 19⟩, "loader"⟩, ⟨⟨20, 26⟩, "action"⟩]
  change (recognized.mergeSort fun a b => decide (a.text ≤ b.text)) ++ [] = _
  simp [recognized, List.mergeSort, later]

/-- Both names are skipped, the later one is reported first. -/
theorem destructuring_misreported :
    ofSource "export const{loader,action}=h" ⟨.typedTagged, false⟩ = .ok (destructuring, []) ∧
      Preset.dataFunctions.fault? = none ∧
      destructuring.places = [⟨⟨13, 19⟩, "loader"⟩, ⟨⟨20, 26⟩, "action"⟩] ∧
      (destructuring.rewriteExports .dataFunctions "r").2.skipped.map (·.name) =
        ["action", "loader"] := by
  refine ⟨ofSource_destructuring, by decide, by decide, ?_⟩
  have skipped := (destructuring.placed_report .dataFunctions "r").2.texts
  rw [skippedPlaces_destructuring] at skipped
  exact skipped

end Module

end RouteWrap
