import RouteWrap.Proofs.ForwardGrammar
import RouteWrap.Proofs.NamePlaces
import RouteWrap.Proofs.QuietTrees

/-!
The names of patterns and of declarations are read in the order of the text.
-/

namespace RouteWrap

open P

/-- The names of a pattern are read in the order of the text. -/
class Grammar.Ordered (g : Grammar) : Prop where
  pattern : ∀ b, Adds (g.pattern b) Tree.patternNames

namespace Grammar

variable {g : Grammar}

/-! Patterns -/

/-- A value after a pattern adds nothing to its names. -/
theorem gives_defaulted (s : Nat) (left : Tree) :
    Gives (fun t => t.patternNames = left.patternNames) (defaulted g s left) := by
  unfold defaulted
  refine .after fun hasValue => ?_
  split
  · exact .after fun value => .after fun span => .pure (by rw [Tree.patternNames])
  · exact .pure rfl

/-- What a key binds if it stands alone. -/
def shorthandNames (b : Binder) (key : Tree) : List Name :=
  ((shorthandBinding b key).map Tree.patternNames).getD []

theorem adds_keyName (b : Binder) : Adds keyName (shorthandNames b) := by
  intro before
  unfold keyName
  refine .bind (adds_anyName before) fun n => .pure ?_
  rw [shorthandNames, shorthandBinding, Option.map_some, Option.getD_some, Tree.patternNames]

theorem places_propertyName (b : Binder) {c : Cursor} {before : List Name}
    (named : c.token.kind.isName) :
    PlacesFrom c before (propertyName g) fun r => before ++ shorthandNames b r.1 := by
  unfold propertyName
  refine .kind ?_
  cases found : c.token.kind with
  | identifier | word => exact .bind ((adds_keyName b before).places c) fun key => .pure (.refl _)
  | _ =>
      rw [found] at named
      cases named

section

variable [ordered : g.Ordered] {b : Binder}

theorem adds_patternRest : Adds (patternRest g b) fun r => r.1.patternNames := by
  intro before
  unfold patternRest
  refine .on fun s => .on fun _ => .bind (ordered.pattern b before) fun p => .on fun span =>
    .pure ?_
  simp [Tree.patternNames, Tree.patternNamesList]

variable [g.Onward]

/-- Nor does a question mark or a type. -/
theorem adds_annotatedPattern : Adds (annotatedPattern g b) Tree.patternNames := by
  intro before
  unfold annotatedPattern
  refine .on fun s => .bind (ordered.pattern b before) fun p => ?_
  have same (isOptional : Bool) : Gives (fun t => t.patternNames = p.patternNames) do
      let type ← ascription g
      if isOptional || !type.isAbsent then
        return .pat (← since s) (.annotated isOptional) [p, type]
      else return p := by
    refine .after fun type => ?_
    split
    · exact .after fun span => .pure (by rw [Tree.patternNames])
    · exact .pure rfl
  refine .of_same (.after fun types => ?_)
  split <;> exact .after fun isOptional => same isOptional

theorem adds_patternElement : Adds (patternElement g b) Tree.patternNames := by
  intro before
  unfold patternElement
  exact .on fun s => .bind (adds_annotatedPattern before) fun p => .of_same (gives_defaulted s p)

/-- A name may stand both for a property and for what it is bound to. -/
theorem adds_patternProperty : Adds (patternProperty g b) Tree.patternNames := by
  refine fun before => ⟨inferInstance, fun c => .start (.kind (.start ?_))⟩
  have ofValue (s : Nat) (key : Tree) (computed : Bool) : Places before (do
      expectMark ":"
      let value ← patternElement g b
      return Tree.pat (← since s) (.property false computed) [key, value])
        fun t => before ++ Tree.patternNames t := by
    refine .on fun _ => .bind (adds_patternElement before) fun value => .on fun span => .pure ?_
    simp [Tree.patternNames, Tree.patternNamesList]
  cases named : c.token.kind.isName with
  | true =>
      refine .bind (places_propertyName b named) ?_
      rintro ⟨key, computed⟩
      refine .on fun colon => ?_
      split
      · cases bound : shorthandBinding b key with
        | some binding =>
            have names : shorthandNames b key = binding.patternNames := by
              rw [shorthandNames, bound]
              rfl
            dsimp only
            rw [names]
            refine .on fun x => .on fun _ => .bind (.of_same (gives_defaulted _ _)) fun value =>
              .on fun span => .pure ?_
            simp [Tree.patternNames, Tree.patternNamesList]
        | none => exact .on fun _ => .pure (by simp [Tree.patternNames])
      · exact (ofValue _ _ _).aside (List.sublist_append_left ..)
  | false =>
      refine (Places.on ?_).places c
      rintro ⟨key, computed⟩
      exact .on fun colon => ofValue _ _ _

theorem adds_objectPattern : Adds (objectPattern g b) Tree.patternNames := by
  intro before
  unfold objectPattern
  refine .on fun s => .on fun _ => .bind
    (adds_separatedWithRest _ adds_patternProperty adds_patternRest before) fun ps => ?_
  extract_lets closed
  have adds (u : Unit) : Places (before ++ ps.flatMap Tree.patternNames) (closed u)
      fun t => before ++ t.patternNames := by
    refine .on fun _ => .on fun span => .pure ?_
    rw [Tree.patternNames, Tree.patternNamesList_eq_flatMap]
  clear_value closed
  split
  · split
    · exact adds ()
    · exact .on fun _ => adds ()
  · exact adds ()

theorem adds_arrayPattern : Adds (arrayPattern g b) Tree.patternNames := by
  intro before
  unfold arrayPattern
  refine .on fun s => .on fun _ => .bind (adds_separatedWithRest _ ?_ adds_patternRest before)
    fun ps => .on fun _ => .on fun span => .pure ?_
  · intro before
    refine .on fun isHole => ?_
    split
    · exact .pure (by simp [Tree.patternNames])
    · exact adds_patternElement before
  · rw [Tree.patternNames, Tree.patternNamesList_eq_flatMap]

theorem adds_bindingPattern : Adds (bindingPattern g b) Tree.patternNames := by
  intro before
  unfold bindingPattern
  refine .on fun k => ?_
  split
  · exact adds_objectPattern before
  · exact adds_arrayPattern before
  · exact .bind (adds_bindingName before) fun n => .pure (by rw [Tree.patternNames])

/-! Variables -/

theorem adds_declarator {kind : VariableKind} {checked : Bool} :
    Adds (declarator g kind checked) (·.target.patternNames) := by
  intro before
  unfold declarator
  refine .on fun s => .bind (ordered.pattern _ before) fun target => ?_
  extract_lets rest
  have kept (definite : Bool) : Places (before ++ target.patternNames) (rest definite)
      fun d => before ++ d.target.patternNames := by
    refine .on fun type => .on fun hasValue => ?_
    extract_lets made
    have kept (initial : Option Tree) : Places (before ++ target.patternNames) (made initial)
        fun d => before ++ d.target.patternNames := by
      refine .on fun span => ?_
      dsimp only
      split
      · exact .on fun _ => .pure (.refl _)
      · exact .pure (.refl _)
    split
    · exact .on fun initial => kept initial
    · exact kept none
  clear_value rest
  split
  · refine .on fun types => .on fun mark => .on fun newline => ?_
    split
    · exact .on fun _ => kept true
    · exact kept false
  · exact kept false

theorem adds_variableDecl {s : Nat} {kind : VariableKind} {declare checked : Bool} :
    Adds (variableDecl g s kind declare checked) fun d => (Declaration.variable d).boundNames := by
  intro before
  unfold variableDecl
  refine .bind (adds_declarator before) fun first => ?_
  refine .bind (places_iterate (fun found =>
    before ++ found.toList.flatMap (·.target.patternNames)) (by simp) fun found => ?_)
    fun found => .on fun span => .pure (.refl _)
  refine .on fun comma => .on fun fatal => ?_
  split
  · exact .on fun _ => .bind (adds_declarator _) fun d => .pure (pushed _ _)
  · exact .pure (.refl _)

end

/-! Functions and classes -/

theorem adds_functionName {required isExpression async generator : Bool} :
    Adds (functionName required isExpression async generator) Option.toList := by
  refine fun before => ⟨inferInstance, fun c => .token ?_⟩
  split
  · next named =>
    refine .keeping rfl fun x c₁ same₁ => ?_
    refine .keeping (token_checkName _ _ _ _) fun _ c₂ same₂ => ?_
    refine .bind (places_takeName ?_) fun n => .pure (.refl _)
    rw [same₂, same₁]
    exact Kind.isText_of_isName named
  · have unnamed : Gives (fun n? => (before ++ Option.toList n?).Sublist before)
        (pure none : P (Option Name)) :=
      .pure (by simp)
    refine (Places.of_gives ?_).places c
    split
    · split
      · exact .after fun _ => unnamed
      split
      · exact .after fun _ => unnamed
      · exact unnamed
    · exact unnamed

theorem gives_functionFrom {s : Nat} {name : Option Name} {traits : FunctionTraits} :
    Gives (·.name = name) (functionFrom g s name traits) := by
  unfold functionFrom
  refine .after fun (tps, ps, result, body) => ?_
  dsimp -zeta only
  extract_lets made
  have named (u : Unit) : Gives (·.name = name) (made u) := .after fun span => .pure rfl
  clear_value made
  split
  · refine .after fun types => ?_
    split
    · exact .after fun _ => named ()
    · exact .after fun _ => named ()
  · exact named ()

variable [g.Onward]

theorem adds_function {place : FunctionPlace} {declare : Bool} :
    Adds (function g place declare) (·.name.toList) := by
  intro before
  unfold function
  refine .on fun s => .on fun async => .on fun _ => .on fun generator => ?_
  refine .bind (adds_functionName before) fun name => .of_same fun c => ?_
  exact congrArg Option.toList (gives_functionFrom c)

theorem adds_classFrom {s : Nat} {ds : Tree} {isAbstract declare : Bool} :
    Adds (classFrom g s ds isAbstract declare) (·.name.toList) := by
  intro before
  unfold classFrom
  refine .on fun _ => .on fun k => .on fun isHeritage => ?_
  extract_lets made
  have named (name : Option Name) : Places (before ++ name.toList) (made name)
      fun d => before ++ d.name.toList :=
    .on fun tailStart => .on fun tps => .on fun h => .on fun members => .on fun inner =>
      .on fun span => .pure (.refl _)
  clear_value made
  split
  · exact .bind (.map (adds_bindingName before)) fun name => named name
  · exact (named none).aside (by simp)

/-! Declarations -/

variable [ordered : g.Ordered]

theorem adds_declarationFrom {s : Nat} {ms : ModifierList} {ds : Tree} :
    Adds (declarationFrom g s ms ds) Declaration.boundNames := by
  intro before
  have other {m : P Tree} (forward : Forward m) :
      Places before (do return Declaration.other (← m)) fun d => before ++ d.boundNames :=
    .on fun t => .pure (by simp [Declaration.boundNames])
  have refused : Places before declarationFrom.none? fun d => before ++ d.boundNames :=
    .on fun _ => .pure (by simp [Declaration.boundNames])
  have whereTyped {m : P Declaration} (places : Places before m fun d => before ++ d.boundNames) :
      Places before (do if ← typed then m else declarationFrom.none?)
        fun d => before ++ d.boundNames := by
    refine .on fun types => ?_
    split
    · exact places
    · exact refused
  have declares (kind : VariableKind) : Places before (do
      let d ← variableDecl g s kind (ms.has "declare") true
      semicolon
      return Declaration.variable { d with span := ← since s }) fun d => before ++ d.boundNames :=
    .bind (adds_variableDecl before) fun d => .on fun _ => .on fun span => .pure (.refl _)
  have function : Places before (do
      let d ← function g .declaration (ms.has "declare")
      return Declaration.function { d with span := ⟨s, d.span.stop⟩ })
        fun d => before ++ d.boundNames :=
    .bind (adds_function before) fun d => .pure (.refl _)
  unfold declarationFrom
  refine .on fun k => ?_
  split
  · refine .on fun types => .on fun isEnum => ?_
    split
    · exact .on fun _ => other inferInstance
    · exact .on fun _ => declares _
  · exact .bind (adds_classFrom before) fun d => .pure (.refl _)
  · exact function
  · refine .on fun isFunction => ?_
    split
    · exact function
    · exact .on fun _ => .pure (by simp [Declaration.boundNames])
  · exact whereTyped (other inferInstance)
  · exact whereTyped (other inferInstance)
  · exact whereTyped (other inferInstance)
  · exact whereTyped (.on fun _ => other inferInstance)
  · exact whereTyped (.on fun _ => other inferInstance)
  · exact whereTyped (other inferInstance)
  · exact whereTyped (.on fun _ => .on fun n => other inferInstance)
  · refine .on fun kind => ?_
    split
    · exact declares _
    · exact refused

theorem adds_modifiedDeclaration {s : Nat} {ds : Tree} :
    Adds (modifiedDeclaration g s ds) Declaration.boundNames := by
  intro before
  unfold modifiedDeclaration
  refine .on fun types => ?_
  split <;> exact .on fun ms => .within (adds_declarationFrom before)

end Grammar

end RouteWrap
