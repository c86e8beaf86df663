import RouteWrap.Proofs.Scope.Bindings

/-!
What the evaluation of a module comes across, in order: names that are read and declarations that
are passed. Bodies of functions and initializers of instances run later and are left out, and so
are types. A read that a scope inside the module answers shows only if it comes too early there.
-/

namespace RouteWrap

/-- Whether the binding is there before evaluation starts. -/
def Binder.isHoisted : Binder → Bool
  | .function | .importValue | .importType | .typeAlias | .interface => true
  | _ => false

inductive Step
  | reads (use : Use) (name : String)
  | declares (binder : Binder) (name : String)
  /-- A read before the declaration in a scope inside that answers it. -/
  | early (name : String)
deriving DecidableEq, Repr

namespace Step

def binding : Step → Option Binding
  | declares b n => some (b, n)
  | _ => none

/-- The steps of a scope as they show outside, behind the declarations that it has passed. -/
def settle (kept : List Binding) : List Binding → List Step → List Step
  | _, [] => []
  | passed, declares b n :: steps =>
      if (b, n) ∈ kept then settle kept (passed ++ [(b, n)]) steps
      else declares b n :: settle kept passed steps
  | passed, reads u n :: steps =>
      if answers kept u n then
        if answers (passed ++ kept.filter (·.1.isHoisted)) u n then settle kept passed steps
        else early n :: settle kept passed steps
      else reads u n :: settle kept passed steps
  | passed, early n :: steps => early n :: settle kept passed steps

def rename (σ : Renaming) (hidden : List Binding) : Step → Step
  | reads u n => reads u (if answers hidden u n then n else σ.apply n)
  | s => s

end Step

/-- The parts of a function without a body. -/
def Tree.isSignature : Tree → Bool
  | .node _ f ps => f == .expression .callable && ps[3]?.any isAbsent
  | _ => false

/-- The entries at some places of a list. -/
def pick (places : List Nat) (as : List α) : List α := places.filterMap (as[·]?)

namespace Form

/-- Whether only declarations under the form count, which are for the types. -/
def isAmbient : Form → Bool
  | .statement (.variable _ declare) | .statement (.classDeclaration _ declare)
  | .statement (.enumeration _ declare) | .statement (.moduleBlock _ declare) => declare
  | _ => false

/-- What is evaluated of the parts `ps`, in order: of a list with an entry for each part, the entries
of those. -/
def evaluated (f : Form) (ps : List Tree) (as : List α) : List α :=
  match f with
  | .statement (.declarator _) => pick [2, 0] as
  | .statement .forIn | .statement (.forOf _) => pick [1, 0, 2] as
  | .statement (.functionDeclaration _) => if ps.any Tree.isSignature then [] else pick [0] as
  | .statement (.enumMember _) => pick [1, 0] as
  | .statement (.typeAlias _) | .statement (.interface _) => pick [0] as
  | .link (.importDeclaration ..) => as.drop 2
  | .link (.exportNamed _) | .link (.exportAll _) => []
  | .expression (.objectMethod ..) => pick [0] as
  | .expression .callable => pick [1] as
  | .expression (.functionExpression _) | .expression (.arrow ..) => []
  | .pattern .defaulted => pick [1, 0] as
  -- What a parameter is decorated with is evaluated where its function is.
  | .pattern (.parameter _) => pick [0] as
  | .pattern .thisParameter => []
  | .classPart (.field modifiers ..) => if modifiers.isStatic then as else pick [0, 1] as
  | .classPart .implements => []
  | .type _ => []
  | _ => as

/-- What shows outside the form of the steps of its parts. -/
def steps (f : Form) (ps : List Tree) (each : List (List Step)) : List Step :=
  let shown := Step.settle (f.kept ps) [] (f.evaluated ps each).flatten
  if f.isAmbient then shown.filter (·.binding.isSome) else shown

end Form

mutual

def Tree.steps : Tree → List Step
  | .absent | .label _ _ => []
  | .ref _ .value n => [.reads .value n]
  | .ref _ .valueOrType n => [.reads .valueOrType n]
  | .ref _ _ _ => []
  | .bind _ b n => [.declares b n]
  | .node _ f ps => f.steps ps (Tree.stepsEach ps)

def Tree.stepsEach : List Tree → List (List Step)
  | [] => []
  | t :: ts => t.steps :: Tree.stepsEach ts

end

theorem pick_map (places : List Nat) (g : α → β) (as : List α) :
    pick places (as.map g) = (pick places as).map g := by
  simp [pick, List.map_filterMap]

theorem pick_subset (places : List Nat) (as : List α) : pick places as ⊆ as := by
  intro a picked
  obtain ⟨i, -, found⟩ := List.mem_filterMap.mp picked
  exact List.mem_of_getElem? found

theorem Form.evaluated_map (f : Form) (ps : List Tree) (g : α → β) (as : List α) :
    f.evaluated ps (as.map g) = (f.evaluated ps as).map g := by
  unfold evaluated
  split <;> first | rfl | exact pick_map .. | skip
  · split
    · rfl
    · exact pick_map ..
  · exact List.map_drop.symm
  · split
    · rfl
    · exact pick_map ..

theorem Form.evaluated_subset (f : Form) (ps : List Tree) (as : List α) :
    f.evaluated ps as ⊆ as := by
  unfold evaluated
  split <;> first | exact pick_subset .. | exact List.nil_subset _ | exact List.Subset.refl _ | skip
  · split
    · exact List.nil_subset _
    · exact pick_subset ..
  · exact List.drop_subset ..
  · split
    · exact List.Subset.refl _
    · exact pick_subset ..

theorem Tree.stepsEach_eq_map (ts : List Tree) : Tree.stepsEach ts = ts.map Tree.steps := by
  induction ts with
  | nil => rfl
  | cons t ts ih => rw [Tree.stepsEach, ih, List.map_cons]

/-! Renaming -/

/-- No name becomes one of these, unless it was. -/
def Renaming.Avoids (σ : Renaming) (names : List String) : Prop :=
  ∀ n, σ.apply n = n ∨ σ.apply n ∉ names

theorem Renaming.Avoids.mono {σ : Renaming} {names names' : List String}
    (avoids : σ.Avoids names') (fewer : names ⊆ names') : σ.Avoids names :=
  fun n => (avoids n).imp_right fun apart listed => apart (fewer listed)

theorem answers_append (bs cs : List Binding) (u : Use) (n : String) :
    answers (bs ++ cs) u n = (answers bs u n || answers cs u n) :=
  List.any_append

theorem exists_of_answers {bs : List Binding} {u : Use} {n : String} (answered : answers bs u n) :
    ∃ b, (b, n) ∈ bs ∧ b.answers u := by
  obtain ⟨⟨b, n'⟩, listed, answered⟩ := List.any_eq_true.mp answered
  obtain ⟨same, answers⟩ := Bool.and_eq_true_iff.mp answered
  obtain rfl : n' = n := beq_iff_eq.mp same
  exact ⟨b, listed, answers⟩

theorem answers_of_mem {bs : List Binding} {b : Binder} {u : Use} {n : String}
    (listed : (b, n) ∈ bs) (answered : b.answers u) : answers bs u n :=
  List.any_eq_true.mpr ⟨(b, n), listed, by simp [answered]⟩

namespace Step

theorem settle_rename {σ : Renaming} {kept : List Binding} (hidden : List Binding)
    (avoids : σ.Avoids (kept.map Prod.snd)) (passed : List Binding) (steps : List Step) :
    settle kept passed (steps.map (rename σ (kept ++ hidden))) =
      (settle kept passed steps).map (rename σ hidden) := by
  induction steps generalizing passed with
  | nil => rfl
  | cons s steps ih =>
      cases s with
      | early n => simp only [List.map_cons, rename, settle, ih]
      | declares b n =>
          by_cases keeps : (b, n) ∈ kept
          · simp only [List.map_cons, rename, settle, if_pos keeps, ih]
          · simp only [List.map_cons, rename, settle, if_neg keeps, ih]
      | reads u n =>
          simp only [List.map_cons, rename, settle, answers_append]
          cases inside : answers kept u n with
          | true =>
              simp only [Bool.true_or, if_true, inside]
              split
              · exact ih passed
              · rw [ih]
                rfl
          | false =>
              have outside : answers kept u (if answers hidden u n then n else σ.apply n) = false := by
                split
                · exact inside
                · rw [Bool.eq_false_iff]
                  intro answered
                  obtain ⟨b, listed, -⟩ := exists_of_answers answered
                  rcases avoids n with same | apart
                  · rw [same] at answered
                    exact absurd answered (Bool.eq_false_iff.mp inside)
                  · exact apart (List.mem_map_of_mem (f := Prod.snd) listed)
              simp only [Bool.false_or, outside, Bool.false_eq_true, if_false, ih, List.map_cons,
                rename]

@[simp] theorem isSome_binding_rename (σ : Renaming) (hidden : List Binding) (s : Step) :
    (s.rename σ hidden).binding.isSome = s.binding.isSome := by
  cases s <;> rfl

end Step

theorem Tree.renameListUnder_eq_map (σ : Renaming) (hidden : List Binding) (ts : List Tree) :
    Tree.renameListUnder σ hidden ts = ts.map (Tree.renameUnder σ hidden) := by
  induction ts with
  | nil => rfl
  | cons t ts ih => rw [Tree.renameListUnder, ih, List.map_cons]

@[simp] theorem Tree.isAbsent_renameUnder (σ : Renaming) (hidden : List Binding) (t : Tree) :
    (t.renameUnder σ hidden).isAbsent = t.isAbsent := by
  cases t <;> rfl

/-- A form is reformed only where a property is written out, which is evaluated as it was. -/
theorem Form.reformed_cases (f : Form) (ps qs : List Tree) :
    f.reformed ps qs = f ∨ ∃ shorthand shorthand' computed,
      f = .expression (.property shorthand computed) ∧
        f.reformed ps qs = .expression (.property shorthand' computed) := by
  unfold reformed
  split
  · exact .inr ⟨_, _, _, rfl, rfl⟩
  · exact .inl rfl

@[simp] theorem Tree.isSignature_renameUnder (σ : Renaming) (hidden : List Binding) (t : Tree) :
    (t.renameUnder σ hidden).isSignature = t.isSignature := by
  cases t with
  | absent | ref | bind | label => rfl
  | node s f ps =>
      rw [Tree.renameUnder, isSignature, isSignature, renameListUnder_eq_map, List.getElem?_map,
        Option.any_map]
      simp only [isAbsent_renameUnder]
      rcases f.reformed_cases ps (ps.map (Tree.renameUnder σ (f.kept ps ++ hidden))) with
        same | ⟨_, _, _, rfl, written⟩
      · rw [same]
      · rw [written]
        rfl

namespace Form

theorem kept_renamed (f : Form) (σ : Renaming) (hidden : List Binding) (ps qs : List Tree) :
    (f.reformed ps qs).kept (Tree.renameListUnder σ hidden ps) = f.kept ps := by
  simp [kept]

theorem evaluated_renamed (f : Form) (σ : Renaming) (hidden : List Binding) (ps qs : List Tree)
    (as : List α) :
    (f.reformed ps qs).evaluated (Tree.renameListUnder σ hidden ps) as = f.evaluated ps as := by
  rcases f.reformed_cases ps qs with same | ⟨_, _, _, rfl, written⟩
  · rw [same, Tree.renameListUnder_eq_map]
    unfold evaluated
    split <;> first | rfl | simp only [List.any_map, Function.comp_def, Tree.isSignature_renameUnder]
  · rw [written]
    rfl

theorem isAmbient_reformed (f : Form) (ps qs : List Tree) :
    (f.reformed ps qs).isAmbient = f.isAmbient := by
  rcases f.reformed_cases ps qs with same | ⟨_, _, _, rfl, written⟩
  · rw [same]
  · rw [written]
    rfl

theorem kept_names_subset (f : Form) (ps : List Tree) :
    (f.kept ps).map Prod.snd ⊆ Tree.namesList ps := by
  intro n named
  obtain ⟨b, keeps, rfl⟩ := List.mem_map.mp named
  exact Tree.escapingList_mem_names (List.mem_filter.mp keeps).1

end Form

mutual

/-- Renaming a phrase renames what its evaluation reads. -/
theorem Tree.steps_renameUnder (σ : Renaming) (hidden : List Binding) {t : Tree}
    (avoids : σ.Avoids t.names) :
    (t.renameUnder σ hidden).steps = t.steps.map (Step.rename σ hidden) := by
  cases t with
  | absent | bind | label => rfl
  | ref s u n => cases u <;> rfl
  | node s f ps =>
      rw [Tree.renameUnder, Tree.steps, Tree.steps, Form.steps, Form.steps, Form.kept_renamed,
        Form.evaluated_renamed, Form.isAmbient_reformed,
        Tree.stepsEach_renameListUnder σ (f.kept ps ++ hidden) avoids, Form.evaluated_map,
        ← List.map_flatten, Step.settle_rename hidden (avoids.mono (f.kept_names_subset ps))]
      split
      · simp [List.filter_map, Function.comp_def]
      · rfl

theorem Tree.stepsEach_renameListUnder (σ : Renaming) (hidden : List Binding) {ts : List Tree}
    (avoids : σ.Avoids (Tree.namesList ts)) :
    Tree.stepsEach (Tree.renameListUnder σ hidden ts) =
      (Tree.stepsEach ts).map (List.map (Step.rename σ hidden)) := by
  cases ts with
  | nil => rfl
  | cons t ts =>
      rw [Tree.renameListUnder, Tree.stepsEach, Tree.stepsEach, List.map_cons,
        Tree.steps_renameUnder σ hidden (avoids.mono (List.subset_append_left ..)),
        Tree.stepsEach_renameListUnder σ hidden (avoids.mono (List.subset_append_right ..))]

end

/-! What is read is named -/

theorem Step.reads_of_mem_settle {kept passed : List Binding} {steps : List Step} {u : Use}
    {n : String} (shown : reads u n ∈ settle kept passed steps) : reads u n ∈ steps := by
  induction steps generalizing passed with
  | nil => exact absurd shown List.not_mem_nil
  | cons s steps ih =>
      cases s with
      | early n' =>
          simp only [settle, List.mem_cons, reduceCtorEq, false_or] at shown
          exact List.mem_cons_of_mem _ (ih shown)
      | declares b n' =>
          rw [settle] at shown
          split at shown
          · exact List.mem_cons_of_mem _ (ih shown)
          · simp only [List.mem_cons, reduceCtorEq, false_or] at shown
            exact List.mem_cons_of_mem _ (ih shown)
      | reads u' n' =>
          rw [settle] at shown
          split at shown
          · split at shown
            · exact List.mem_cons_of_mem _ (ih shown)
            · simp only [List.mem_cons, reduceCtorEq, false_or] at shown
              exact List.mem_cons_of_mem _ (ih shown)
          · rcases List.mem_cons.mp shown with same | shown
            · exact List.mem_cons.mpr (.inl same)
            · exact List.mem_cons_of_mem _ (ih shown)

mutual

theorem Tree.mem_names_of_reads {t : Tree} {u : Use} {n : String}
    (read : .reads u n ∈ t.steps) : n ∈ t.names := by
  cases t with
  | absent | label => exact absurd read List.not_mem_nil
  | bind s b n' => simp [Tree.steps] at read
  | ref s u' n' =>
      cases u' with
      | value | valueOrType =>
          simp only [Tree.steps, List.mem_singleton, Step.reads.injEq] at read
          simp [Tree.names, read.2]
      | type | valueAsType => exact absurd read List.not_mem_nil
  | node s f ps =>
      have shown : .reads u n ∈ Step.settle (f.kept ps) [] (f.evaluated ps (Tree.stepsEach ps)).flatten := by
        rw [Tree.steps, Form.steps] at read
        split at read
        · exact (List.mem_filter.mp read).1
        · exact read
      obtain ⟨part, evaluated, read⟩ := List.mem_flatten.mp (Step.reads_of_mem_settle shown)
      exact Tree.mem_namesList_of_reads (f.evaluated_subset ps _ evaluated) read

theorem Tree.mem_namesList_of_reads {ts : List Tree} {part : List Step} {u : Use} {n : String}
    (listed : part ∈ Tree.stepsEach ts) (read : .reads u n ∈ part) : n ∈ Tree.namesList ts := by
  cases ts with
  | nil => exact absurd listed List.not_mem_nil
  | cons t ts =>
      rw [Tree.stepsEach] at listed
      rw [Tree.namesList, List.mem_append]
      rcases List.mem_cons.mp listed with rfl | listed
      · exact .inl (Tree.mem_names_of_reads read)
      · exact .inr (Tree.mem_namesList_of_reads listed read)

end

/-! Forms without a scope -/

theorem Step.settle_nil (passed : List Binding) (steps : List Step) :
    settle [] passed steps = steps := by
  induction steps generalizing passed with
  | nil => rfl
  | cons s steps ih => cases s <;> simp [settle, answers, ih]

theorem Form.steps_open {f : Form} (unscoped : f.scope = none) (ps : List Tree)
    (each : List (List Step)) :
    f.steps ps each =
      if f.isAmbient then (f.evaluated ps each).flatten.filter (·.binding.isSome)
      else (f.evaluated ps each).flatten := by
  have kept : f.kept ps = [] := by simp [kept, keeps, unscoped]
  rw [steps, kept, Step.settle_nil]

theorem Form.steps_plain {f : Form} (unscoped : f.scope = none) (real : f.isAmbient = false)
    (ps : List Tree) (each : List (List Step)) : f.steps ps each = (f.evaluated ps each).flatten := by
  rw [steps_open unscoped, real]
  rfl

end RouteWrap
