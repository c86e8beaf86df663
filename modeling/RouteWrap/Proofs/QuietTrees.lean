import RouteWrap.Grammar.Pattern
import RouteWrap.Proofs.Readers
import RouteWrap.Proofs.Tally

/-!
What is expected of the trees that are read. A phrase declares nothing outside itself. A pattern
declares the names in it, as `Tree.patternNames` lists them, where it belongs to a declaration.
-/

namespace RouteWrap

/-- The kinds of binding that declare a variable, function or class. -/
def Binder.declares : Binder → Bool
  | .variable | .lexical | .function | .classDefinition => true
  | _ => false

theorem Binder.kept_of_declares {b : Binder} (declared : b.declares = true) :
    Scope.function.keeps b = true := by
  cases b with
  | inferred => cases declared
  | _ => rfl

namespace Tree

variable {s : Span} {f : Form} {ps : List Tree} {kinds : Binder → Bool}

theorem bound_eq_nil_iff {t : Tree} :
    t.bound kinds = [] ↔ ∀ b ∈ t.escaping, kinds b.1 = false := by
  simp [bound, List.filter_eq_nil_iff]

theorem escapingList_eq_flatMap (ts : List Tree) : escapingList ts = ts.flatMap escaping := by
  induction ts with
  | nil => rfl
  | cons t ts ih => rw [escapingList, ih, List.flatMap_cons]

theorem bound_node_of_unscoped (unscoped : f.scope = none) :
    (node s f ps).bound kinds = ps.flatMap (bound kinds) := by
  have passes : (node s f ps).escaping = escapingList ps := by
    simp [escaping, Form.keeps, unscoped]
  rw [bound, passes, escapingList_eq_flatMap, List.filter_flatMap, List.map_flatMap]
  rfl

theorem patternNamesList_eq_flatMap (ts : List Tree) :
    patternNamesList ts = ts.flatMap patternNames := by
  induction ts with
  | nil => rfl
  | cons t ts ih => rw [patternNamesList, ih, List.flatMap_cons]

end Tree

/-! What is expected of trees -/

instance : Expected Tree := ⟨fun t => t.bound Binder.declares = []⟩

namespace Meets

variable {s : Span} {f : Form} {ps : List Tree} {b : Binder} {n : String} {u : Use}

theorem tree_iff {t : Tree} : Meets t ↔ ∀ b ∈ t.escaping, b.1.declares = false :=
  ⟨fun met => Tree.bound_eq_nil_iff.mp met.meets, fun none => ⟨Tree.bound_eq_nil_iff.mpr none⟩⟩

theorem bound {t : Tree} (met : Meets t) : t.bound Binder.declares = [] := met.meets

theorem of_escaping {t t' : Tree} (same : t'.escaping = t.escaping) (met : Meets t) : Meets t' :=
  tree_iff.mpr (same ▸ tree_iff.mp met)

theorem trees_iff : Meets ps ↔ ∀ b ∈ Tree.escapingList ps, b.1.declares = false := by
  rw [list_iff]
  simp only [tree_iff, Tree.mem_escapingList]
  exact ⟨fun each b ⟨t, listed, out⟩ => each t listed b out,
    fun each t listed b out => each b ⟨t, listed, out⟩⟩

instance absent : Meets Tree.absent := ⟨rfl⟩

instance ref : Meets (Tree.ref s u n) := ⟨rfl⟩

theorem bind (undeclared : b.declares = false) : Meets (Tree.bind s b n) := by
  rw [tree_iff]
  intro c out
  rw [List.mem_singleton.mp out]
  exact undeclared

instance node [parts : Meets ps] : Meets (Tree.node s f ps) := by
  rw [tree_iff]
  intro b out
  rw [Tree.escaping] at out
  exact trees_iff.mp parts b (List.mem_filter.mp out).1

/-- A tree without a scope of its own declares all that its parts do. -/
theorem parts (unscoped : f.scope = none) (met : Meets (Tree.node s f ps)) : Meets ps := by
  rw [trees_iff]
  intro b out
  refine tree_iff.mp met b ?_
  rw [Tree.escaping]
  exact List.mem_filter.mpr ⟨out, by simp [Form.keeps, unscoped]⟩

theorem both {t u : Tree} (unscoped : f.scope = none) (met : Meets (Tree.node s f [t, u])) :
    Meets t ∧ Meets u :=
  ⟨(met.parts unscoped).head, (met.parts unscoped).tail.head⟩

/-- Nothing is declared outside a function, whatever its parts are. -/
theorem enclosed (closed : f.scope = some .function) : Meets (Tree.node s f ps) := by
  rw [tree_iff]
  intro b out
  rw [Tree.escaping] at out
  have passed := (List.mem_filter.mp out).2
  rw [Form.keeps, closed] at passed
  by_contra declared
  rw [Bool.not_eq_false] at declared
  simp [Binder.kept_of_declares declared] at passed

/-- A block keeps all that is declared in it but variables. -/
theorem block (own : f.scope = some .block)
    (kept : ∀ t ∈ ps, ∀ b ∈ t.escaping, b.1.declares = true → b.1 ≠ .variable) :
    Meets (Tree.node s f ps) := by
  rw [tree_iff]
  intro b out
  rw [Tree.escaping] at out
  obtain ⟨inside, passed⟩ := List.mem_filter.mp out
  obtain ⟨t, listed, out⟩ := Tree.mem_escapingList.mp inside
  rw [Form.keeps, own] at passed
  by_contra declared
  rw [Bool.not_eq_false] at declared
  have other := kept t listed b out declared
  revert passed other declared
  cases b.1 <;> simp [Scope.keeps, Binder.declares]

end Meets

/-! What is expected of patterns -/

/-- The names of a pattern are declared if what they are bound as is. -/
@[reducible] def Expected.pattern (b : Binder) : Expected Tree :=
  ⟨fun t => t.bound Binder.declares = if b.declares then t.patternNames.map Name.text else []⟩

/-- The tree is a pattern whose names are bound as `b`. -/
abbrev Patterned (b : Binder) (t : Tree) : Prop := @Meets Tree (.pattern b) t

/-- Whatever is read is such a pattern. -/
abbrev ReadsPattern (b : Binder) (m : P Tree) : Prop := @Reads Tree (.pattern b) m

/-- Whatever is read after dots is such a pattern. -/
abbrev ReadsPatternRest (b : Binder) (m : P (Tree × Nat)) : Prop :=
  @Reads (Tree × Nat) (@Expected.pair _ _ (.pattern b) _) m

/-- Whatever is read are such patterns. -/
abbrev ReadsPatterns (b : Binder) (m : P (List Tree)) : Prop :=
  @Reads (List Tree) (@Expected.list _ (.pattern b)) m

namespace Patterned

variable {b : Binder} {s : Span} {t key value type : Tree} {ts : List Tree}

theorem of_bound
    (names : t.bound Binder.declares = if b.declares then t.patternNames.map Name.text else []) :
    Patterned b t := @Meets.mk Tree (.pattern b) t names

theorem bound (met : Patterned b t) :
    t.bound Binder.declares = if b.declares then t.patternNames.map Name.text else [] :=
  @Meets.meets Tree (.pattern b) t met

theorem quiet (undeclared : b.declares = false) (met : Patterned b t) : Meets t :=
  ⟨met.bound.trans (by simp [undeclared])⟩

theorem absent : Patterned b .absent :=
  of_bound (by simp [Tree.bound, Tree.escaping, Tree.patternNames])

theorem bind {n : String} : Patterned b (.bind s b n) := by
  refine of_bound ?_
  by_cases declared : b.declares <;> simp [Tree.bound, Tree.escaping, Tree.patternNames, declared]

/-- The names of a form are those of some of its parts, where the others declare nothing. -/
theorem of_parts {f : Form} (before patterns after : List Tree) (unscoped : f.scope = none)
    (named : (Tree.node s f (before ++ patterns ++ after)).patternNames =
      Tree.patternNamesList patterns)
    (each : ∀ t ∈ patterns, Patterned b t) (quiet : Meets (before ++ after)) :
    Patterned b (.node s f (before ++ patterns ++ after)) := by
  have none (ts : List Tree) (quiet : ∀ t ∈ ts, Meets t) :
      ts.flatMap (Tree.bound Binder.declares) = [] :=
    List.flatMap_eq_nil_iff.mpr fun t listed => (quiet t listed).bound
  obtain ⟨front, back⟩ := List.forall_mem_append.mp (Meets.list_iff.mp quiet)
  refine of_bound ?_
  rw [Tree.bound_node_of_unscoped unscoped, List.flatMap_append, List.flatMap_append,
    none before front, none after back, List.nil_append, List.append_nil, named,
    Tree.patternNamesList_eq_flatMap, List.map_flatMap,
    List.flatMap_congr fun t listed => (each t listed).bound]
  by_cases declared : b.declares <;> simp [declared]

theorem property {shorthand computed : Bool} (quiet : Meets key) (pattern : Patterned b t) :
    Patterned b (.pat s (.property shorthand computed) [key, t]) :=
  of_parts [key] [t] [] rfl rfl (List.forall_mem_singleton.mpr pattern) inferInstance

theorem defaulted (pattern : Patterned b t) (quiet : Meets value) :
    Patterned b (.pat s .defaulted [t, value]) :=
  of_parts [] [t] [value] rfl (by simp [Tree.patternNames, Tree.patternNamesList])
    (List.forall_mem_singleton.mpr pattern) inferInstance

theorem annotated {isOptional : Bool} (pattern : Patterned b t) (quiet : Meets type) :
    Patterned b (.pat s (.annotated isOptional) [t, type]) :=
  of_parts [] [t] [type] rfl (by simp [Tree.patternNames, Tree.patternNamesList])
    (List.forall_mem_singleton.mpr pattern) inferInstance

theorem elements {f : PatternForm} (container : f = .object ∨ f = .array ∨ f = .rest)
    (each : ∀ t ∈ ts, Patterned b t) : Patterned b (.pat s f ts) := by
  have whole := @of_parts b s (.pattern f) [] ts []
  simp only [List.nil_append, List.append_nil] at whole
  rcases container with rfl | rfl | rfl <;> exact whole rfl rfl each inferInstance

theorem reads (pattern : Patterned b t) : ReadsPattern b (pure t) :=
  @Reads.mk Tree (.pattern b) _ fun _ => pattern

theorem readsRest (pattern : Patterned b t) (offset : Nat) :
    ReadsPatternRest b (pure (t, offset)) :=
  @Reads.mk _ (@Expected.pair _ _ (.pattern b) _) _ fun _ =>
    @Meets.mk _ (@Expected.pair _ _ (.pattern b) _) _ ⟨pattern.bound, trivial⟩

end Patterned

namespace ReadsPattern

variable {b : Binder} {m : P Tree}

theorem quiet (undeclared : b.declares = false) (reads : ReadsPattern b m) : Reads m :=
  ⟨fun c => Patterned.quiet undeclared (@Reads.reads Tree (.pattern b) m reads c)⟩

theorem followed {α : Type} {_ : Expected α} {f : Tree → P α} (first : ReadsPattern b m)
    (rest : ∀ t, Patterned b t → Reads (f t)) : Reads (m >>= f) :=
  ⟨fun c => (rest _ (@Reads.reads Tree (.pattern b) m first c)).reads _⟩

theorem separated {close : Kind} {rest : P (Tree × Nat)} {misplaced : Fault}
    (each : ReadsPattern b m) (last : ReadsPatternRest b rest) :
    ReadsPatterns b (P.separatedWithRest close m rest misplaced) :=
  @P.reads_separatedWithRest _ (.pattern b) m each close rest last misplaced

end ReadsPattern

theorem ReadsPatterns.followed {b : Binder} {m : P (List Tree)} {α : Type} {_ : Expected α}
    {f : List Tree → P α} (first : ReadsPatterns b m)
    (rest : ∀ ts, (∀ t ∈ ts, Patterned b t) → Reads (f ts)) : Reads (m >>= f) := by
  refine ⟨fun c => (rest _ ?_).reads _⟩
  exact (@Meets.list_iff Tree (.pattern b) _).mp (@Reads.reads _ _ m first c)

end RouteWrap
