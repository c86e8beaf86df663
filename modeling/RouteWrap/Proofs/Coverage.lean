import RouteWrap.Proofs.Reports

/-!
Which exports the report covers. A recognized name is reported just where a variable, a function, a
class, a specifier, a namespace of another module or a default export has it. Of what a module can
export as a value that leaves out enumerations, namespaces and imports by assignment.
-/

namespace RouteWrap

inductive Tree.Binds (n : String) : Tree → Prop
  | name {s : Span} {b : Binder} : Binds n (.bind s b n)
  | element {s : Span} {f : PatternForm} {p : Tree} {ps : List Tree}
      (container : f = .object ∨ f = .array ∨ f = .rest) (listed : p ∈ ps) (binds : Binds n p) :
      Binds n (.pat s f ps)
  | property {s : Span} {shorthand computed : Bool} {key p : Tree} {value : List Tree}
      (listed : p ∈ value) (binds : Binds n p) :
      Binds n (.pat s (.property shorthand computed) (key :: value))
  | defaulted {s : Span} {p : Tree} {ps : List Tree} (binds : Binds n p) :
      Binds n (.pat s .defaulted (p :: ps))
  | annotated {s : Span} {isOptional : Bool} {p : Tree} {ps : List Tree} (binds : Binds n p) :
      Binds n (.pat s (.annotated isOptional) (p :: ps))

namespace Item

/-- The item exports the name as a value. -/
inductive ExportsValue (n : String) : Item → Prop
  | «variable» {span : Span} {d : VariableDecl} {declarator : Declarator}
      (listed : declarator ∈ d.declarators) (binds : declarator.target.Binds n) :
      ExportsValue n (.exportDeclaration span (.variable d))
  | function {span s : Span} {d : FunctionDecl} (named : d.name = some ⟨s, n⟩) :
      ExportsValue n (.exportDeclaration span (.function d))
  | classes {span s : Span} {d : ClassDecl} (named : d.name = some ⟨s, n⟩) :
      ExportsValue n (.exportDeclaration span (.classes d))
  | enumeration {span s s' : Span} {isConst declare : Bool} {b : Binder} {body : List Tree} :
      ExportsValue n (.exportDeclaration span
        (.other (.stmt s (.enumeration isConst declare) (.bind s' b n :: body))))
  | moduleBlock {span s s' : Span} {k : NamespaceKeyword} {declare : Bool} {b : Binder}
      {body : List Tree} :
      ExportsValue n (.exportDeclaration span
        (.other (.stmt s (.moduleBlock k declare) (.bind s' b n :: body))))
  | importEquals {span s s' : Span} {b : Binder} {target : List Tree} :
      ExportsValue n (.exportDeclaration span
        (.other (.stmt s (.importEquals false) (.bind s' b n :: target))))
  | specifier {l : ExportList} {s : ExportSpecifier} (listed : s ∈ l.specifiers)
      (valued : (l.typeOnly || s.typeOnly) = false) (exported : s.exported.text = n) :
      ExportsValue n (.exportList l)
  | all {e : ExportAll} {k : LinkName} (valued : e.typeOnly = false)
      (named : e.exported = some k) (exported : k.text = n) : ExportsValue n (.exportAll e)

/-- The item exports the name, or exports what has it, in one of the forms that are reported. -/
inductive Offers (n : String) : Item → Prop
  | «variable» {span : Span} {d : VariableDecl} {declarator : Declarator}
      (listed : declarator ∈ d.declarators) (binds : declarator.target.Binds n) :
      Offers n (.exportDeclaration span (.variable d))
  | function {span s : Span} {d : FunctionDecl} (named : d.name = some ⟨s, n⟩) :
      Offers n (.exportDeclaration span (.function d))
  | classes {span s : Span} {d : ClassDecl} (named : d.name = some ⟨s, n⟩) :
      Offers n (.exportDeclaration span (.classes d))
  | specifier {l : ExportList} {s : ExportSpecifier} (listed : s ∈ l.specifiers)
      (exported : s.exported.text = n) : Offers n (.exportList l)
  | all {e : ExportAll} {k : LinkName} (named : e.exported = some k) (exported : k.text = n) :
      Offers n (.exportAll e)
  | defaultValue {span : Span} {v : DefaultValue} (named : Planning.defaultName v = some n) :
      Offers n (.exportDefault span v)

end Item

/-! Names in patterns -/

namespace Tree

theorem mem_patternNamesList {ts : List Tree} {n : Name} :
    n ∈ patternNamesList ts ↔ ∃ t ∈ ts, n ∈ t.patternNames := by
  induction ts with
  | nil => simp [patternNamesList]
  | cons t ts ih => simp [patternNamesList, ih]

theorem Binds.mem_patternNames {t : Tree} {n : String} (binds : t.Binds n) :
    ∃ s, (⟨s, n⟩ : Name) ∈ t.patternNames := by
  induction binds with
  | name => exact ⟨_, List.mem_singleton_self _⟩
  | element container listed _ ih =>
      obtain ⟨s, named⟩ := ih
      have among := mem_patternNamesList.mpr ⟨_, listed, named⟩
      rcases container with rfl | rfl | rfl
      · exact ⟨s, among⟩
      · exact ⟨s, among⟩
      · exact ⟨s, among⟩
  | property listed _ ih =>
      obtain ⟨s, named⟩ := ih
      exact ⟨s, mem_patternNamesList.mpr ⟨_, listed, named⟩⟩
  | defaulted _ ih => exact ih
  | annotated _ ih => exact ih

mutual

theorem binds_of_mem_patternNames {t : Tree} {n : Name} (named : n ∈ t.patternNames) :
    t.Binds n.text := by
  unfold patternNames at named
  split at named
  · rw [List.mem_singleton.mp named]
    exact .name
  · obtain ⟨p, listed, binds⟩ := exists_binds_of_mem_patternNamesList named
    exact .property listed binds
  · exact .defaulted (binds_of_mem_patternNames named)
  · exact .annotated (binds_of_mem_patternNames named)
  · obtain ⟨p, listed, binds⟩ := exists_binds_of_mem_patternNamesList named
    exact .element (.inl rfl) listed binds
  · obtain ⟨p, listed, binds⟩ := exists_binds_of_mem_patternNamesList named
    exact .element (.inr (.inl rfl)) listed binds
  · obtain ⟨p, listed, binds⟩ := exists_binds_of_mem_patternNamesList named
    exact .element (.inr (.inr rfl)) listed binds
  · cases named

theorem exists_binds_of_mem_patternNamesList {ts : List Tree} {n : Name}
    (named : n ∈ patternNamesList ts) : ∃ t ∈ ts, t.Binds n.text := by
  cases ts with
  | nil => cases named
  | cons t ts =>
      rcases List.mem_append.mp named with first | later
      · exact ⟨t, List.mem_cons_self, binds_of_mem_patternNames first⟩
      · obtain ⟨u, listed, binds⟩ := exists_binds_of_mem_patternNamesList later
        exact ⟨u, List.mem_cons_of_mem _ listed, binds⟩

end

end Tree

namespace Item

theorem offers_of_mem_names {i : Item} {n : String} (named : n ∈ i.names) : i.Offers n := by
  cases i with
  | exportDeclaration span d =>
      obtain ⟨k, bound, rfl⟩ := List.mem_map.mp (List.mem_eraseDups.mp named)
      cases d with
      | «variable» d =>
          obtain ⟨declarator, listed, bound⟩ := List.mem_flatMap.mp bound
          exact .variable listed (Tree.binds_of_mem_patternNames bound)
      | function d => exact .function (Option.mem_toList.mp bound)
      | classes d => exact .classes (Option.mem_toList.mp bound)
      | other t => exact absurd bound List.not_mem_nil
  | exportDefault span v => exact .defaultValue (Option.mem_toList.mp named)
  | exportAll e =>
      obtain ⟨k, exported, rfl⟩ := Option.map_eq_some_iff.mp (Option.mem_toList.mp named)
      exact .all exported rfl
  | imports | declaration | exportList | statement => exact absurd named List.not_mem_nil

theorem offers_iff {i : Item} {n : String} : i.Offers n ↔ ∃ o ∈ i.occurrences, o.text = n := by
  have byItself (span : Span) (d : Declaration) {k : Name} (bound : k ∈ d.boundNames) :
      ∃ o ∈ (Item.exportDeclaration span d).occurrences, o.text = k.text :=
    ⟨.named k.text, List.mem_map_of_mem (List.mem_eraseDups.mpr (List.mem_map_of_mem bound)), rfl⟩
  constructor
  · intro offers
    cases offers with
    | @«variable» span d declarator listed binds =>
        obtain ⟨s, bound⟩ := binds.mem_patternNames
        exact byItself span (.variable d) (List.mem_flatMap.mpr ⟨declarator, listed, bound⟩)
    | @function span s d named => exact byItself span (.function d) (Option.mem_toList.mpr named)
    | @classes span s d named => exact byItself span (.classes d) (Option.mem_toList.mpr named)
    | specifier listed exported => exact ⟨_, List.mem_map_of_mem listed, exported⟩
    | @all e k named exported =>
        refine ⟨.named k.text, List.mem_map_of_mem (Option.mem_toList.mpr ?_), exported⟩
        rw [named]
        rfl
    | defaultValue named => exact ⟨_, List.mem_map_of_mem (Option.mem_toList.mpr named), rfl⟩
  · rintro ⟨o, listed, rfl⟩
    cases i with
    | exportList l =>
        obtain ⟨s, specified, rfl⟩ := List.mem_map.mp listed
        exact .specifier specified rfl
    | imports | declaration | statement => exact absurd listed List.not_mem_nil
    | exportDeclaration | exportDefault | exportAll =>
        obtain ⟨k, named, rfl⟩ := List.mem_map.mp listed
        exact offers_of_mem_names named

theorem ExportsValue.offers {i : Item} {n : String} (exported : i.ExportsValue n) :
    i.Offers n ∨ ∃ span t, i = .exportDeclaration span (.other t) := by
  cases exported with
  | «variable» listed binds => exact .inl (.variable listed binds)
  | function named => exact .inl (.function named)
  | classes named => exact .inl (.classes named)
  | enumeration | moduleBlock | importEquals => exact .inr ⟨_, _, rfl⟩
  | specifier listed valued exported => exact .inl (.specifier listed exported)
  | all valued named exported => exact .inl (.all named exported)

end Item

namespace Report

def Mentions (r : Report) (n : String) : Prop :=
  n ∈ r.wrapped.map (·.name) ∨ n ∈ r.skipped.map (·.name)

instance (r : Report) (n : String) : Decidable (r.Mentions n) :=
  inferInstanceAs (Decidable (_ ∨ _))

end Report

namespace Module

variable {m : Module} {preset : Preset} {routeId : String}

theorem mentions_of_occurrence {n : String} (recognized : preset.recognizes n) {i : Item}
    (listed : i ∈ m.items) (stays : ¬ m.Overloads preset i) {o : Occurrence}
    (occurs : o ∈ i.occurrences) (text : o.text = n) :
    (m.rewriteExports preset routeId).2.Mentions n := by
  obtain ⟨accounts, settled, pairs, skipped⟩ := m.exists_accounts preset routeId
  obtain ⟨a, accounted, fits⟩ := exists_of_forall₂_left settled listed
  obtain ⟨outcome, listed, settles⟩ := exists_of_forall₂_left fits.each occurs
  cases settles with
  | passed unreported =>
      rw [text, recognized] at unreported
      rcases unreported with unrecognized | overloads
      · cases unrecognized
      · exact absurd overloads stays
  | @wrapped _ w recognized name entry =>
      refine .inl (List.mem_map.mpr ⟨w.entry, ?_, name.trans text⟩)
      rw [wrapped_rewriteExports, ← flatMap_wrappings pairs]
      refine List.mem_map_of_mem (List.mem_flatMap.mpr ⟨a, accounted, ?_⟩)
      exact List.mem_filterMap.mpr ⟨_, listed, rfl⟩
  | skipped recognized stays | listed recognized list stays kept =>
      have silent : _ ∈ a.skips := List.mem_filterMap.mpr ⟨_, listed, rfl⟩
      have reported := skipped.mem_iff.mpr (List.mem_flatMap.mpr ⟨a, accounted, silent⟩)
      exact .inr (List.mem_map.mpr ⟨_, reported, text⟩)

theorem exists_occurrence_of_mentions {n : String}
    (mentions : (m.rewriteExports preset routeId).2.Mentions n) :
    ∃ i ∈ m.items, ∃ o ∈ i.occurrences, o.text = n := by
  obtain ⟨accounts, settled, pairs, skipped⟩ := m.exists_accounts preset routeId
  -- An outcome that is reported belongs to an occurrence of the name that it reports.
  have occurs {a : Account} (accounted : a ∈ accounts) {outcome : Outcome}
      (listed : outcome ∈ a.outcomes) :
      ∃ i ∈ m.items, ∃ o ∈ i.occurrences, m.Settles preset i a.block o outcome := by
    obtain ⟨i, listedI, fits⟩ := exists_of_forall₂_right settled accounted
    obtain ⟨o, occurs, settles⟩ := exists_of_forall₂_right fits.each listed
    exact ⟨i, listedI, o, occurs, settles⟩
  rcases mentions with wrapped | skips
  · rw [wrapped_rewriteExports, ← flatMap_wrappings pairs, List.map_map] at wrapped
    obtain ⟨w, wraps, rfl⟩ := List.mem_map.mp wrapped
    obtain ⟨a, accounted, wraps⟩ := List.mem_flatMap.mp wraps
    obtain ⟨outcome, listed, wraps⟩ := List.mem_filterMap.mp wraps
    obtain ⟨i, listedI, o, occurs, settles⟩ := occurs accounted listed
    refine ⟨i, listedI, o, occurs, ?_⟩
    cases settles with
    | wrapped recognized name entry =>
        obtain rfl := Option.some.inj wraps
        exact name.symm
    | passed | skipped | listed => cases wraps
  · obtain ⟨e, reported, rfl⟩ := List.mem_map.mp skips
    obtain ⟨a, accounted, skips⟩ := List.mem_flatMap.mp (skipped.mem_iff.mp reported)
    obtain ⟨outcome, listed, skips⟩ := List.mem_filterMap.mp skips
    obtain ⟨i, listedI, o, occurs, settles⟩ := occurs accounted listed
    refine ⟨i, listedI, o, occurs, ?_⟩
    cases settles with
    | skipped | listed =>
        obtain rfl := Option.some.inj skips
        rfl
    | passed | wrapped => cases skips

theorem exists_offers_staying {n : String} {i : Item} (listed : i ∈ m.items)
    (offers : i.Offers n) : ∃ j ∈ m.items, j.Offers n ∧ ¬ m.Overloads preset j := by
  -- A signature that is dropped has a function beside it, which offers the same name.
  by_cases overloads : m.Overloads preset i
  · obtain ⟨span, d, k, rfl, named, -, -, -, span', d', ⟨s, n'⟩, listed', named', same, bodied⟩ :=
      overloads
    obtain rfl : n' = n := by
      cases offers with
      | function offered =>
          rw [named] at offered
          rw [Option.some.inj offered] at same
          exact same
    refine ⟨_, listed', .function named', ?_⟩
    rintro ⟨_, d'', _, function, -, bodiless, -⟩
    cases function
    simp [bodiless] at bodied
  · exact ⟨i, listed, offers, overloads⟩

/-- A recognized name is reported just where the module offers it. What else can export it as a
value is an enumeration, a namespace or an import by assignment. -/
theorem mentions_iff_offers (m : Module) (preset : Preset) (routeId : String) {n : String}
    (recognized : preset.recognizes n) :
    ((m.rewriteExports preset routeId).2.Mentions n ↔ ∃ i ∈ m.items, i.Offers n) ∧
      ∀ i ∈ m.items, i.ExportsValue n →
        i.Offers n ∨ ∃ span t, i = .exportDeclaration span (.other t) := by
  refine ⟨⟨fun mentions => ?_, ?_⟩, fun i _ exported => exported.offers⟩
  · obtain ⟨i, listed, occurs⟩ := exists_occurrence_of_mentions mentions
    exact ⟨i, listed, Item.offers_iff.mpr occurs⟩
  · rintro ⟨i, listed, offers⟩
    obtain ⟨j, listed, offers, stays⟩ := exists_offers_staying listed offers
    obtain ⟨o, occurs, text⟩ := Item.offers_iff.mp offers
    exact mentions_of_occurrence recognized listed stays occurs text

/-- `export const { a: [loader] } = x` -/
def exportingNested : Module :=
  .ofItems
    [.exportDeclaration .none (.variable
      { span := .none, kind := .const, declare := false
        declarators :=
          [{ span := .none, definite := false
             target := .pat .none .object
               [.pat .none (.property false false)
                 [.expr .none (.keyName "a") [],
                  .pat .none .array [.bind .none .lexical "loader"]]]
             ascription := .absent, initial := some (.ref .none .value "x") }] })]

theorem exportingNested_mentions_loader :
    Preset.dataFunctions.recognizes "loader" ∧
      (exportingNested.rewriteExports .dataFunctions "r").2.Mentions "loader" := by
  have recognized : Preset.dataFunctions.recognizes "loader" := by decide
  refine ⟨recognized, ?_⟩
  refine (mentions_iff_offers exportingNested .dataFunctions "r" recognized).1.mpr ?_
  refine ⟨_, List.mem_singleton_self _, .variable (List.mem_singleton_self _) ?_⟩
  refine .element (.inl rfl) (List.mem_singleton_self _) ?_
  refine .property (List.mem_singleton_self _) ?_
  exact .element (.inr (.inl rfl)) (List.mem_singleton_self _) .name

/-- `export enum loader {}` -/
def exportingEnumeration : Module :=
  .ofItems
    [.exportDeclaration .none (.other
      (.stmt .none (.enumeration false false)
        [.bind .none .enumeration "loader", .stmt .none .enumBody []]))]

theorem exportingEnumeration_passes_loader :
    Preset.dataFunctions.fault? = none ∧ Preset.dataFunctions.recognizes "loader" ∧
      (∃ i ∈ exportingEnumeration.items, i.ExportsValue "loader") ∧
      ¬ (exportingEnumeration.rewriteExports .dataFunctions "r").2.Mentions "loader" := by
  refine ⟨by decide, by decide, ⟨_, List.mem_singleton_self _, .enumeration⟩, by decide⟩

end Module

end RouteWrap
