import Mathlib.Data.List.Dedup
import Mathlib.Data.List.Perm.Subperm
import RouteWrap.Proofs.Scope.Bindings
import RouteWrap.Scope.Surface

/-!
The names that a module declares as values and the names it exports. A function may be declared
by any number of signatures beside its implementation: they count as one declaration, so
signatures are tallied apart from what is declared for good.
-/

namespace RouteWrap

structure Tally where
  /-- Names declared for good, once for each declaration. -/
  definite : List String
  /-- Names of function signatures. -/
  signatures : List String
  /-- Names of functions with a body, which are definite, too. -/
  implementations : List String
deriving DecidableEq, Repr, Inhabited

theorem eq_of_count_flatMap_le_one {f : α → List String} {as : List α} {n : String} {a b : α}
    (once : (as.flatMap f).count n ≤ 1) (listedA : a ∈ as) (listedB : b ∈ as) (inA : n ∈ f a)
    (inB : n ∈ f b) : a = b := by
  induction as with
  | nil => exact absurd listedA List.not_mem_nil
  | cons c as ih =>
      rw [List.flatMap_cons, List.count_append] at once
      have inTail {d : α} (inD : n ∈ f d) (rest : d ∈ as) : 0 < (as.flatMap f).count n :=
        List.count_pos_iff.mpr (List.mem_flatMap.mpr ⟨d, rest, inD⟩)
      have inHead (inC : n ∈ f c) : 0 < (f c).count n := List.count_pos_iff.mpr inC
      rcases List.mem_cons.mp listedA with rfl | restA
      · rcases List.mem_cons.mp listedB with rfl | restB
        · rfl
        · have := inHead inA
          have := inTail inB restB
          omega
      · rcases List.mem_cons.mp listedB with rfl | restB
        · have := inHead inB
          have := inTail inA restA
          omega
        · exact ih (by omega) restA restB

namespace Tally

def empty : Tally := ⟨[], [], []⟩

def definitely (names : List String) : Tally := ⟨names, [], []⟩

/-- A function that is declared under `names`, with or without a body. -/
def function (names : List String) (bodied : Bool) : Tally :=
  if bodied then ⟨names, [], names⟩ else ⟨[], names, []⟩

def append (s t : Tally) : Tally :=
  { definite := s.definite ++ t.definite
    signatures := s.signatures ++ t.signatures
    implementations := s.implementations ++ t.implementations }

instance : Append Tally := ⟨append⟩

@[simp] theorem definite_append (s t : Tally) :
    (s ++ t).definite = s.definite ++ t.definite := rfl

@[simp] theorem signatures_append (s t : Tally) :
    (s ++ t).signatures = s.signatures ++ t.signatures := rfl

def total (tally : α → Tally) (as : List α) : Tally :=
  { definite := as.flatMap fun a => (tally a).definite
    signatures := as.flatMap fun a => (tally a).signatures
    implementations := as.flatMap fun a => (tally a).implementations }

/-- All names, the signatures of one function counted once and not beside its implementation. -/
def names (t : Tally) : List String :=
  t.definite ++ t.signatures.dedup.filter fun n => !t.implementations.contains n

theorem mem_names {t : Tally} (sound : t.implementations ⊆ t.definite) {n : String} :
    n ∈ t.names ↔ n ∈ t.definite ∨ n ∈ t.signatures := by
  simp only [names, List.mem_append, List.mem_filter, List.mem_dedup, Bool.not_eq_true',
    List.contains_eq_mem, decide_eq_false_iff_not]
  constructor
  · exact fun listed => listed.imp_right And.left
  · rintro (definite | signed)
    · exact .inl definite
    · by_cases implemented : n ∈ t.implementations
      · exact .inl (sound implemented)
      · exact .inr ⟨signed, implemented⟩

theorem nodup_names_iff {t : Tally} :
    t.names.Nodup ↔
      t.definite.Nodup ∧ ∀ n ∈ t.signatures, n ∈ t.definite → n ∈ t.implementations := by
  have once : (t.signatures.dedup.filter fun n => !t.implementations.contains n).Nodup :=
    (List.nodup_dedup _).filter _
  rw [names, List.nodup_append']
  constructor
  · rintro ⟨distinct, -, apart⟩
    refine ⟨distinct, fun n signed definite => ?_⟩
    by_contra missing
    exact apart definite (by simp [signed, missing])
  · rintro ⟨distinct, implemented⟩
    refine ⟨distinct, once, fun n definite listed => ?_⟩
    simp only [List.mem_filter, List.mem_dedup, Bool.not_eq_true', List.contains_eq_mem,
      decide_eq_false_iff_not] at listed
    exact listed.2 (implemented n listed.1 definite)

/-- A tally gains names, some of its functions are declared otherwise, and it loses signatures of
no functions but `implemented` ones. -/
structure Gains (implemented : List String) (before after : Tally)
    (added functions : List String) : Prop where
  definite : after.definite.Perm (added ++ before.definite)
  signatures : after.signatures ⊆ before.signatures
  kept : ∀ n ∈ before.signatures, n ∈ after.signatures ∨ n ∈ implemented
  implementations : before.implementations.Perm (after.implementations ++ functions)

section Gains

variable {implemented : List String}

theorem Gains.refl (t : Tally) : Gains implemented t t [] [] where
  definite := List.Perm.refl _
  signatures := List.Subset.refl _
  kept := fun _ signed => .inl signed
  implementations := by simp

theorem Gains.total {before after : α → Tally} {added functions : α → List String} {as : List α}
    (each : ∀ a ∈ as, Gains implemented (before a) (after a) (added a) (functions a)) :
    Gains implemented (total before as) (total after as) (as.flatMap added)
      (as.flatMap functions) where
  definite :=
    (List.Perm.flatMap_left as fun a listed => (each a listed).definite).trans
      (List.flatMap_append_perm as _ _).symm
  signatures := by
    intro n signed
    obtain ⟨a, listed, signed⟩ := List.mem_flatMap.mp signed
    exact List.mem_flatMap.mpr ⟨a, listed, (each a listed).signatures signed⟩
  kept := by
    intro n signed
    obtain ⟨a, listed, signed⟩ := List.mem_flatMap.mp signed
    exact ((each a listed).kept n signed).imp_left fun left =>
      List.mem_flatMap.mpr ⟨a, listed, left⟩
  implementations :=
    (List.Perm.flatMap_left as fun a listed => (each a listed).implementations).trans
      (List.flatMap_append_perm as _ _).symm

theorem Gains.append_left {before after : Tally} {added functions names : List String}
    (gains : Gains implemented before after added functions) :
    Gains implemented before (definitely names ++ after) (names ++ added) functions where
  definite := by
    rw [definite_append, List.append_assoc]
    exact gains.definite.append_left names
  signatures := gains.signatures
  kept := gains.kept
  implementations := gains.implementations

variable {before after : Tally} {added functions : List String}

theorem Gains.perm {added' : List String} (gains : Gains implemented before after added functions)
    (same : added.Perm added') : Gains implemented before after added' functions :=
  { gains with definite := gains.definite.trans (same.append_right _) }

theorem Gains.mem_names (gains : Gains implemented before after added functions)
    (soundBefore : before.implementations ⊆ before.definite)
    (soundAfter : after.implementations ⊆ after.definite)
    (implementedBefore : implemented ⊆ before.definite) {n : String} :
    n ∈ after.names ↔ n ∈ before.names ∨ n ∈ added := by
  rw [Tally.mem_names soundBefore, Tally.mem_names soundAfter, gains.definite.mem_iff,
    List.mem_append]
  constructor
  · rintro ((gained | definite) | signed)
    · exact .inr gained
    · exact .inl (.inl definite)
    · exact .inl (.inr (gains.signatures signed))
  · rintro ((definite | signed) | gained)
    · exact .inl (.inr definite)
    · rcases gains.kept n signed with left | dropped
      · exact .inr left
      · exact .inl (.inr (implementedBefore dropped))
    · exact .inl (.inl gained)

/-- A tally without repetition that gains names stays without repetition unless a gained name was
there, or a signature outlives its function. -/
theorem Gains.nodup_names_iff (gains : Gains implemented before after added functions)
    (sound : before.implementations.Subperm before.definite)
    (implementedBefore : implemented ⊆ before.definite) (distinct : before.names.Nodup) :
    after.names.Nodup ↔
      added.Nodup ∧ (∀ n ∈ added, n ∉ before.names) ∧ ∀ n ∈ functions, n ∉ after.signatures := by
  obtain ⟨definite, signatures, kept, implementations⟩ := gains
  have known {n : String} : n ∈ before.names ↔ n ∈ before.definite ∨ n ∈ before.signatures :=
    Tally.mem_names sound.subset
  rw [Tally.nodup_names_iff] at distinct ⊢
  obtain ⟨distinct, signed⟩ := distinct
  have once : (after.implementations ++ functions).Nodup := by
    obtain ⟨part, same, within⟩ := sound
    exact implementations.nodup_iff.mp (same.nodup_iff.mp (distinct.sublist within))
  rw [definite.nodup_iff, List.nodup_append']
  constructor
  · rintro ⟨⟨addedOnce, -, apart⟩, implements⟩
    refine ⟨addedOnce, fun n isAdded => ?_, fun n wrapped left => ?_⟩
    · rw [known, not_or]
      have notBefore : n ∉ before.definite := apart isAdded
      refine ⟨notBefore, fun signedBefore => ?_⟩
      rcases kept n signedBefore with left | dropped
      · have stays := implements n left (definite.mem_iff.mpr (by simp [isAdded]))
        exact notBefore (sound.subset (implementations.mem_iff.mpr (by simp [stays])))
      · exact notBefore (implementedBefore dropped)
    · have was : n ∈ before.definite :=
        sound.subset (implementations.mem_iff.mpr (by simp [wrapped]))
      have stays := implements n left (definite.mem_iff.mpr (by simp [was]))
      exact (List.disjoint_of_nodup_append once) stays wrapped
  · rintro ⟨addedOnce, free, outlived⟩
    refine ⟨⟨addedOnce, distinct, fun n isAdded was => ?_⟩, ?_⟩
    · exact free n isAdded (known.mpr (.inl was))
    intro n left definitely
    rcases List.mem_append.mp (definite.mem_iff.mp definitely) with isAdded | was
    · exact absurd (known.mpr (.inr (signatures left))) (free n isAdded)
    · have wasImplemented := signed n (signatures left) was
      rcases List.mem_append.mp (implementations.mem_iff.mp wasImplemented) with stays | wrapped
      · exact stays
      · exact absurd left (outlived n wrapped)

end Gains

end Tally

/-! What items declare and export -/

/-- Names of the bindings below a tree that are visible outside it, of the kinds in question. -/
def Tree.bound (kinds : Binder → Bool) (t : Tree) : List String :=
  (t.escaping.filter fun b => kinds b.1).map (·.2)

/-- The kinds of binding that declare a value. A namespace merges with what bears its name. -/
def Binder.declaresValue : Binder → Bool
  | .moduleBlock => false
  | b => b.isValue

def FunctionDecl.tally (d : FunctionDecl) : Tally :=
  .function (d.name.map Name.text).toList d.body.isSome

def Declaration.tally (kinds : Binder → Bool) : Declaration → Tally
  | .function d => d.tally
  | d => .definitely (d.toTree.bound kinds)

namespace Item

/-- Names declared as values in the scope of the module. -/
def values : Item → Tally
  | imports d => .definitely d.valueNames
  | declaration d | exportDeclaration _ d | exportDefault _ (.declaration d) =>
      d.tally Binder.declaresValue
  | exportDefault _ (.expression t) | statement t => .definitely (t.bound Binder.declaresValue)
  | exportList _ | exportAll _ => .empty

/-- Names by which other modules can ask for something. -/
def exports : Item → Tally
  | exportDeclaration _ d => d.tally (· != .inferred)
  | exportDefault _ (.declaration (.function d)) => .function ["default"] d.body.isSome
  | exportDefault .. => .definitely ["default"]
  | exportList l => .definitely (l.specifiers.map (·.exported.text))
  | exportAll e => .definitely (e.exported.map LinkName.text).toList
  | imports _ | declaration _ | statement _ => .empty

end Item

namespace Module

def values (m : Module) : Tally := .total Item.values m.items

/-- Names that a module declares as values, the signatures of a function counted with it. -/
def valueNames (m : Module) : List String := m.values.names

def exports (m : Module) : Tally := .total Item.exports m.items

/-- Names that a module exports, the signatures of a function counted with it. -/
def exportNames (m : Module) : List String := m.exports.names

end Module

namespace Tally

theorem implementations_sublist_function (names : List String) (bodied : Bool) :
    (function names bodied).implementations.Sublist (function names bodied).definite := by
  cases bodied <;> exact List.Sublist.refl _

theorem implementations_subperm_total {tally : α → Tally}
    (each : ∀ a, (tally a).implementations.Sublist (tally a).definite) (as : List α) :
    (total tally as).implementations.Subperm (total tally as).definite := by
  apply List.Sublist.subperm
  induction as with
  | nil => exact List.Sublist.slnil
  | cons a as ih => exact (each a).append ih

theorem total_singleton (tally : α → Tally) (a : α) : total tally [a] = tally a := by
  simp [total]

theorem total_append (tally : α → Tally) (as bs : List α) :
    total tally (as ++ bs) = total tally as ++ total tally bs := by
  simp only [total, List.flatMap_append]
  rfl

theorem total_definitely (names : α → List String) (as : List α) :
    total (fun a => definitely (names a)) as = definitely (as.flatMap names) := by
  simp [total, definitely]

theorem total_flatMap (tally : β → Tally) (f : α → List β) (as : List α) :
    total tally (as.flatMap f) = total (fun a => total tally (f a)) as := by
  simp only [total, List.flatMap_assoc]

theorem total_map (tally : β → Tally) (f : α → β) (as : List α) :
    total tally (as.map f) = total (fun a => tally (f a)) as := by
  simp only [total, List.flatMap_map]

end Tally

theorem Declaration.implementations_sublist_tally (kinds : Binder → Bool) (d : Declaration) :
    (d.tally kinds).implementations.Sublist (d.tally kinds).definite := by
  cases d with
  | function d => exact Tally.implementations_sublist_function _ _
  | _ => exact List.nil_sublist _

theorem Item.implementations_sublist_values (i : Item) :
    i.values.implementations.Sublist i.values.definite := by
  cases i with
  | declaration d | exportDeclaration s d => exact d.implementations_sublist_tally _
  | exportDefault s v =>
      cases v with
      | declaration d => exact d.implementations_sublist_tally _
      | expression t => exact List.nil_sublist _
  | _ => exact List.nil_sublist _

theorem Module.implementations_subperm_values (m : Module) :
    m.values.implementations.Subperm m.values.definite :=
  Tally.implementations_subperm_total Item.implementations_sublist_values m.items

theorem Module.implementations_subperm_exports (m : Module) :
    m.exports.implementations.Subperm m.exports.definite := by
  refine Tally.implementations_subperm_total (fun i => ?_) m.items
  cases i with
  | exportDeclaration s d => exact d.implementations_sublist_tally _
  | exportDefault s v =>
      match v with
      | .declaration (.function d) => exact Tally.implementations_sublist_function _ _
      | .declaration (.variable _) | .declaration (.classes _) | .declaration (.other _)
      | .expression _ => exact List.nil_sublist _
  | _ => exact List.nil_sublist _

/-! Names in use -/

theorem Declaration.tally_mem_names {kinds : Binder → Bool} {d : Declaration} {n : String}
    (tallied : n ∈ (d.tally kinds).definite ∨ n ∈ (d.tally kinds).signatures) :
    n ∈ d.toTree.names := by
  have bound {t : Tree} (tallied : n ∈ t.bound kinds ∨ n ∈ ([] : List String)) :
      n ∈ t.names := by
    rcases tallied with binds | none
    · obtain ⟨b, escapes, rfl⟩ := List.mem_map.mp binds
      exact Tree.escaping_mem_names (List.mem_filter.mp escapes).1
    · exact absurd none List.not_mem_nil
  cases d with
  | function d =>
      have named : n ∈ (d.name.map Name.text).toList := by
        revert tallied
        cases bodied : d.body.isSome <;>
          simp [Declaration.tally, FunctionDecl.tally, Tally.function, bodied]
      simp only [Option.mem_toList, Option.map_eq_some_iff] at named
      obtain ⟨name, named, rfl⟩ := named
      simp [Declaration.toTree, FunctionDecl.toTree, FunctionDecl.binding, named, Tree.names,
        Tree.namesList]
  | «variable» | classes | other => exact bound tallied

theorem ImportSpecifier.localName_mem_names (typeOnly : Bool) (s : ImportSpecifier) :
    s.localName.text ∈ (s.toTree typeOnly).names := by
  cases imported : s.imported <;> simp [toTree, imported, Tree.names, Tree.namesList]

theorem ImportDecl.valueNames_mem_names {d : ImportDecl} {n : String} (binds : n ∈ d.valueNames) :
    n ∈ d.toTree.names := by
  unfold valueNames at binds
  split at binds
  · exact absurd binds List.not_mem_nil
  obtain ⟨s, listed, rfl⟩ := List.mem_map.mp binds
  have among : s.localName.text ∈
      Tree.namesList ((d.specifiers.getD []).map (·.toTree d.typeOnly)) :=
    Tree.mem_namesList.mpr
      ⟨_, List.mem_map_of_mem (List.mem_filter.mp listed).1, s.localName_mem_names _⟩
  simp only [toTree, Tree.names, Tree.namesList_append, List.mem_append]
  exact .inr among

theorem Item.values_mem_names {i : Item} {n : String}
    (declares : n ∈ i.values.definite ∨ n ∈ i.values.signatures) : n ∈ i.toTree.names := by
  have bound {t : Tree} (declares : n ∈ t.bound Binder.declaresValue ∨ n ∈ ([] : List String)) :
      n ∈ t.names := by
    exact Declaration.tally_mem_names (d := .other t) declares
  cases i with
  | imports d =>
      rcases declares with imported | none
      · exact d.valueNames_mem_names imported
      · exact absurd none List.not_mem_nil
  | declaration d => exact Declaration.tally_mem_names declares
  | exportDeclaration s d =>
      simpa [Item.toTree, Tree.names, Tree.namesList] using Declaration.tally_mem_names declares
  | exportDefault s v =>
      cases v with
      | declaration d =>
          simpa [Item.toTree, DefaultValue.toTree, Tree.names, Tree.namesList]
            using Declaration.tally_mem_names declares
      | expression t =>
          simpa [Item.toTree, DefaultValue.toTree, Tree.names, Tree.namesList] using bound declares
  | statement t => exact bound declares
  | exportList | exportAll => simp [Item.values, Tally.empty] at declares

theorem Module.valueNames_subset_names (m : Module) : m.valueNames ⊆ m.names := by
  intro n declared
  have tallied := (Tally.mem_names m.implementations_subperm_values.subset).mp declared
  have each : ∃ i ∈ m.items, n ∈ i.values.definite ∨ n ∈ i.values.signatures := by
    rcases tallied with definite | signed
    · obtain ⟨i, listed, definite⟩ := List.mem_flatMap.mp definite
      exact ⟨i, listed, .inl definite⟩
    · obtain ⟨i, listed, signed⟩ := List.mem_flatMap.mp signed
      exact ⟨i, listed, .inr signed⟩
  obtain ⟨i, listed, declares⟩ := each
  exact Tree.mem_namesList.mpr
    ⟨i.toTree, List.mem_map_of_mem listed, Item.values_mem_names declares⟩

/-! Renaming -/

theorem Declaration.tally_rename (kinds : Binder → Bool) (σ : Renaming) (d : Declaration) :
    (d.rename σ).tally kinds = d.tally kinds := by
  have bound : (d.rename σ).toTree.bound kinds = d.toTree.bound kinds := by
    rw [Tree.bound, Declaration.toTree_rename, Tree.escaping_rename]
    rfl
  cases d with
  | function d =>
      simp [Declaration.rename, Declaration.tally, FunctionDecl.tally, FunctionDecl.rename]
  | «variable» | classes | other => exact congrArg Tally.definitely bound

theorem Item.values_rename (σ : Renaming) (i : Item) : (i.rename σ).values = i.values := by
  cases i with
  | declaration d | exportDeclaration s d => exact d.tally_rename _ σ
  | exportDefault s v =>
      cases v with
      | declaration d => exact d.tally_rename _ σ
      | expression t => simp [Item.rename, DefaultValue.rename, Item.values, Tree.bound]
  | statement t => simp [Item.rename, Item.values, Tree.bound]
  | _ => rfl

theorem Item.values_rename_renameImports (σ τ : Renaming) (i : Item) :
    ((i.rename σ).renameImports τ).values = (i.renameImports τ).values := by
  have same := i.values_rename σ
  cases i with
  | imports d => rfl
  | _ => exact same

theorem Item.exports_rename (σ : Renaming) (i : Item) : (i.rename σ).exports = i.exports := by
  cases i with
  | exportDeclaration s d => exact d.tally_rename _ σ
  | exportDefault s v =>
      cases v with
      | declaration d =>
          cases d with
          | function d =>
              simp [Item.rename, DefaultValue.rename, Declaration.rename, Item.exports,
                FunctionDecl.rename]
          | _ => rfl
      | expression t => rfl
  | exportList l =>
      cases request : l.request <;>
        simp [Item.rename, ExportList.rename, request, Item.exports, Function.comp_def]
  | _ => rfl

theorem Item.exports_renameImports (τ : Renaming) (i : Item) :
    (i.renameImports τ).exports = i.exports := by
  cases i <;> rfl

end RouteWrap
