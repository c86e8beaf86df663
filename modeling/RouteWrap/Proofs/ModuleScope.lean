import Mathlib
import RouteWrap.Proofs.ImportReexports
import RouteWrap.Proofs.ReadItems

/-!
The surface of a module against its scope. The names that the surface imports are those that the
module imports as values. Of the names that variables, functions and classes declare at the top, it
leaves out those of default exports and those that statements hoist out of their blocks.
-/

namespace RouteWrap

namespace Module

variable {m : Module}

/-- A variable, function or class binds the name in the scope of the module. -/
def Declares (m : Module) (n : String) : Prop :=
  ∃ b, b.declares = true ∧ (b, n) ∈ m.bindings

/-- An item that the surface looks into declares the name. -/
def Shows (m : Module) (n : String) : Prop :=
  ∃ i ∈ m.items, ¬ i.Hidden ∧ n ∈ i.toTree.bound Binder.declares

/-- A default export declares the name, or a statement lets it out of its blocks. -/
def Hides (m : Module) (n : String) : Prop :=
  ∃ i ∈ m.items, i.Hidden ∧ n ∈ i.toTree.bound Binder.declares

/-- Whatever is declared at the top is in sight or hidden. -/
theorem declares_iff {n : String} : m.Declares n ↔ m.Shows n ∨ m.Hides n := by
  have items : m.Declares n ↔ ∃ i ∈ m.items, n ∈ i.toTree.bound Binder.declares := by
    simp only [Declares, bindings, trees, Tree.mem_escapingList, List.mem_map, Tree.bound,
      List.mem_filter, Prod.exists]
    constructor
    · rintro ⟨b, declared, _, ⟨i, listed, rfl⟩, out⟩
      exact ⟨i, listed, b, n, ⟨out, declared⟩, rfl⟩
    · rintro ⟨i, listed, b, _, ⟨out, declared⟩, rfl⟩
      exact ⟨b, declared, _, ⟨i, listed, rfl⟩, out⟩
  rw [items]
  constructor
  · rintro ⟨i, listed, named⟩
    by_cases hidden : i.Hidden
    · exact .inr ⟨i, listed, hidden, named⟩
    · exact .inl ⟨i, listed, hidden, named⟩
  · rintro (⟨i, listed, _, named⟩ | ⟨i, listed, _, named⟩) <;> exact ⟨i, listed, named⟩

theorem imports_iff (n : String) :
    (Surface.ofItems m.items).imports n = true ↔ ∃ request what, m.BindsImport n request what := by
  rw [Surface.imports, List.contains_iff_mem]
  constructor
  · exact bindsImport_of_imported
  · rintro ⟨_, _, binds⟩
    exact binds.imported

theorem declaredNames_of_hidden {i : Item} (hidden : i.Hidden) : i.declaredNames = [] := by
  cases i with
  | exportDefault | statement => rfl
  | _ => cases hidden

/-- Where items declare what the surface finds in them, it binds all that is in sight. -/
theorem binds_iff (met : ∀ i ∈ m.items, Meets i) (n : String) :
    (Surface.ofItems m.items).binds n = true ↔
      (Surface.ofItems m.items).imports n = true ∨ m.Shows n := by
  rw [Surface.binds, Bool.or_eq_true]
  refine or_congr_right ?_
  rw [List.contains_iff_mem]
  change n ∈ m.items.flatMap Item.declaredNames ↔ _
  rw [List.mem_flatMap]
  refine exists_congr fun i => and_congr_right fun listed => ?_
  by_cases hidden : i.Hidden
  · simp [hidden, declaredNames_of_hidden hidden]
  · rw [(met i listed).meets hidden]
    simp [hidden]

/-- In a module that is read, the surface imports what is imported as a value and binds, beside
that, what is declared in sight. It is the scope of the module just where whatever is hidden has a
binding in sight, too. -/
theorem surface_iff_scope {source : String} {options : ReadOptions} {faults : List Diagnostic}
    (read : Module.ofSource source options = .ok (m, faults)) :
    (∀ n, (Surface.ofItems m.items).imports n = true ↔
        ∃ request what, m.BindsImport n request what) ∧
      (∀ n, (Surface.ofItems m.items).binds n = true ↔
        (Surface.ofItems m.items).imports n = true ∨ m.Shows n) ∧
      ((∀ n, (Surface.ofItems m.items).binds n = true ↔
          (Surface.ofItems m.items).imports n = true ∨ m.Declares n) ↔
        ∀ n, m.Hides n → (Surface.ofItems m.items).binds n = true) := by
  have binds := binds_iff (meets_of_ofSource read)
  refine ⟨imports_iff, binds, ?_⟩
  constructor
  · intro whole n hidden
    exact (whole n).mpr (.inr (declares_iff.mpr (.inr hidden)))
  · intro covered n
    constructor
    · intro bound
      exact ((binds n).mp bound).imp_right fun shown => declares_iff.mpr (.inl shown)
    · rintro (imported | declared)
      · exact (binds n).mpr (.inl imported)
      · rcases declares_iff.mp declared with shown | hidden
        · exact (binds n).mpr (.inr shown)
        · exact covered n hidden

/-- `export default function f(){}`, as it is read. -/
def exportingDefault : Module where
  dialect := .plain
  length := 29
  hashbang := none
  directives := []
  items :=
    [.exportDefault ⟨0, 29⟩ (.declaration (.function
      { span := ⟨15, 29⟩, traits := ⟨false, false, false, false⟩
        name := some ⟨⟨24, 25⟩, "f"⟩, typeParameters := .absent
        parameters := .pat ⟨25, 27⟩ .parameters [], result := .absent
        body := some (.expr ⟨27, 29⟩ .body []) }))]
  comments := []

set_option maxRecDepth 10000 in
theorem ofSource_exportingDefault :
    Module.ofSource "export default function f(){}" ⟨.plain, false⟩ =
      .ok (exportingDefault, []) := by
  cbv

theorem exportingDefault_hides :
    exportingDefault.Hides "f" ∧ (Surface.ofItems exportingDefault.items).binds "f" = false := by
  refine ⟨⟨_, List.mem_singleton_self _, trivial, ?_⟩, ?_⟩
  · decide
  · decide

theorem exportingDefault_surface :
    Module.ofSource "export default function f(){}" ⟨.plain, false⟩ = .ok (exportingDefault, []) ∧
      ¬ ∀ n, (Surface.ofItems exportingDefault.items).binds n = true ↔
        (Surface.ofItems exportingDefault.items).imports n = true ∨
          exportingDefault.Declares n := by
  refine ⟨ofSource_exportingDefault, fun whole => ?_⟩
  have covered := (surface_iff_scope ofSource_exportingDefault).2.2.mp whole
  obtain ⟨hidden, unbound⟩ := exportingDefault_hides
  rw [covered "f" hidden] at unbound
  cases unbound

/-- The function is bound at the top, and the surface does not have it. -/
theorem exportingDefault_unbound :
    Module.ofSource "export default function f(){}" ⟨.plain, false⟩ = .ok (exportingDefault, []) ∧
      exportingDefault.Declares "f" ∧
      (Surface.ofItems exportingDefault.items).binds "f" = false := by
  obtain ⟨hidden, unbound⟩ := exportingDefault_hides
  exact ⟨ofSource_exportingDefault, declares_iff.mpr (.inr hidden), unbound⟩

end Module

end RouteWrap
