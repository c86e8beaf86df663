import RouteWrap.Grammar.Type
import RouteWrap.Proofs.QuietTrees

/-!
Names, patterns and types declare nothing outside themselves, but for the names of the patterns,
where the phrases that they are made of declare nothing.
-/

namespace RouteWrap

open P

/-- The phrases that a grammar reads declare nothing outside themselves, and its patterns declare
the names in them. -/
class Grammar.Quiet (g : Grammar) : Prop where
  expression : Reads g.expression
  assignment : ∀ allow, Reads (g.assignment allow)
  binary : ∀ level, Reads (g.binary level)
  unary : Reads g.unary
  leftHand : Reads g.leftHand
  members : Reads g.members
  pattern : ∀ b, ReadsPattern b (g.pattern b)
  type : Reads g.type
  operatorType : Reads g.operatorType
  element : ∀ s between, Reads (g.element s between)
  moduleBlock : ∀ s keyword declare, Reads (g.moduleBlock s keyword declare)

attribute [instance] Grammar.Quiet.expression Grammar.Quiet.assignment Grammar.Quiet.binary
  Grammar.Quiet.unary Grammar.Quiet.leftHand Grammar.Quiet.members Grammar.Quiet.pattern
  Grammar.Quiet.type Grammar.Quiet.operatorType Grammar.Quiet.element Grammar.Quiet.moduleBlock

instance : Reads reference := by unfold reference; infer_instance

namespace Grammar

variable {g : Grammar} [g.Quiet]

/-! Names and literals -/

instance {s : Span} {n : String} : Meets (Tree.bind s .typeParameter n) := .bind rfl
instance {s : Span} {n : String} : Meets (Tree.bind s .inferred n) := .bind rfl

instance : Reads stringLiteral := by unfold stringLiteral; infer_instance
instance {k : NumeralKind} : Reads (numeral k) := by
  unfold numeral
  refine .after fun t => .after fun _ => ?_
  split <;> infer_instance
instance : Reads regexLiteral := by unfold regexLiteral; infer_instance
instance {tagged : Bool} : Reads (chunk tagged) := by unfold chunk; infer_instance
instance {tagged : Bool} {part : P Tree} [Reads part] : Reads (templateParts tagged part) := by
  unfold templateParts
  refine .after fun whole => ?_
  split
  · infer_instance
  refine .followed inferInstance fun head => .followed inferInstance fun first =>
    .after fun _ => .followed (reads_iterate inferInstance fun acc => .after fun fatal => ?_)
      fun _ => inferInstance
  split
  · infer_instance
  refine .after fun k => ?_
  split <;> infer_instance
instance {tagged : Bool} : Reads (template g tagged) := by unfold template; infer_instance
instance {f : ExpressionForm} : Reads (keywordLiteral f) := by unfold keywordLiteral; infer_instance
instance : Reads keyName := by unfold keyName; infer_instance
instance : Reads privateName := by unfold privateName; infer_instance
instance : Reads (propertyName g) := by
  unfold propertyName
  refine .after fun k => ?_
  split <;> infer_instance
instance : Reads (memberName g) := by unfold memberName; infer_instance
instance : Reads (ascription g) := by unfold ascription; infer_instance
instance : Reads (typeList g) := by unfold typeList; infer_instance
instance : Reads (typeArguments? g) := by unfold typeArguments?; infer_instance
-- Each condition in a chain counts what follows it twice.
set_option synthInstance.maxSize 500 in
instance : Reads (typeParameter g) := by unfold typeParameter; infer_instance
instance : Reads (typeParameters g) := by unfold typeParameters; infer_instance
instance : Reads (decorator g) := by unfold decorator; infer_instance
instance : Reads (decorators g) := by unfold decorators; infer_instance

/-! Patterns -/

variable {b : Binder}

theorem readsPattern_defaulted {s : Nat} {left : Tree} (pattern : Patterned b left) :
    ReadsPattern b (defaulted g s left) := by
  unfold defaulted
  refine .after fun hasValue => ?_
  split
  · exact .followed inferInstance fun value => .after fun _ => (pattern.defaulted value.met).reads
  · exact pattern.reads

theorem readsPattern_annotatedPattern : ReadsPattern b (annotatedPattern g b) := by
  unfold annotatedPattern
  refine .after fun s => ReadsPattern.followed (Quiet.pattern b) fun p pattern => ?_
  -- The question mark is looked for in typed modules alone; what follows is the same.
  refine .after fun types => ?_
  split <;>
  · refine .after fun isOptional => .followed inferInstance fun type => ?_
    split
    · exact .after fun _ => (pattern.annotated type.met).reads
    · exact pattern.reads

theorem readsPattern_patternElement : ReadsPattern b (patternElement g b) := by
  unfold patternElement
  exact .after fun s => readsPattern_annotatedPattern.followed fun p => readsPattern_defaulted

theorem readsPattern_patternProperty : ReadsPattern b (patternProperty g b) := by
  unfold patternProperty
  refine .after fun s => .after fun k => .after fun offset => .followed inferInstance fun key => ?_
  obtain ⟨⟨key, computed⟩, met⟩ := key
  have quiet := met.of_pair.1
  refine .after fun colon => ?_
  split
  · cases bound : shorthandBinding b key with
    | some binding =>
        have pattern : Patterned b binding := by
          unfold shorthandBinding at bound
          split at bound
          · cases bound
            exact .bind
          · cases bound
        exact .after fun c => .after fun _ => (readsPattern_defaulted pattern).followed
          fun value pattern => .after fun _ => (pattern.property quiet).reads
    | none => exact .after fun _ => Patterned.absent.reads
  · exact .after fun _ => readsPattern_patternElement.followed fun value pattern => .after fun _ =>
      (pattern.property quiet).reads

theorem readsPatternRest_patternRest : ReadsPatternRest b (patternRest g b) := by
  unfold patternRest
  refine .after fun s => .after fun _ => ReadsPattern.followed (Quiet.pattern b) fun p pattern => ?_
  refine .after fun span => (Patterned.elements (.inr (.inr rfl)) ?_).readsRest s
  exact List.forall_mem_singleton.mpr pattern

theorem readsPattern_objectPattern : ReadsPattern b (objectPattern g b) := by
  unfold objectPattern
  refine .after fun s => .after fun _ => ReadsPatterns.followed
    (readsPattern_patternProperty.separated readsPatternRest_patternRest) fun ps patterns => ?_
  have object (span : Span) : Patterned b (.pat span .object ps) := .elements (.inl rfl) patterns
  dsimp only
  split
  · split
    · exact .after fun _ => .after fun span => (object span).reads
    · exact .after fun _ => .after fun _ => .after fun span => (object span).reads
  · exact .after fun _ => .after fun span => (object span).reads

theorem readsPattern_arrayPattern : ReadsPattern b (arrayPattern g b) := by
  unfold arrayPattern
  refine .after fun s => .after fun _ => ReadsPatterns.followed
    (ReadsPattern.separated (.after fun isHole => ?_) readsPatternRest_patternRest)
    fun ps patterns => ?_
  · split
    · exact Patterned.absent.reads
    · exact readsPattern_patternElement
  · exact .after fun _ => .after fun span => (Patterned.elements (.inr (.inl rfl)) patterns).reads

theorem readsPattern_bindingPattern : ReadsPattern b (bindingPattern g b) := by
  unfold bindingPattern
  refine .after fun k => ?_
  split
  · exact readsPattern_objectPattern
  · exact readsPattern_arrayPattern
  · exact .after fun n => Patterned.bind.reads

instance : Reads (patternElement g .parameter) := readsPattern_patternElement.quiet rfl
instance : Reads (g.pattern .parameter) := ReadsPattern.quiet rfl (Quiet.pattern _)

/-! Parameters -/

instance {s : Nat} {left : Tree} [Meets left] : Reads (defaulted g s left) := by
  unfold defaulted; infer_instance
set_option synthInstance.maxSize 500 in
instance : Reads (parameter g) := by unfold parameter; infer_instance
instance : Reads (restParameter g) := by
  unfold restParameter
  refine .after fun s => .followed inferInstance fun ds => .after fun _ => .after fun from_ =>
    .followed inferInstance fun p => .after fun _ => .after fun _ => ?_
  extract_lets rest
  have (u : Unit) : Reads (rest u) := by
    dsimp -zeta only [rest]
    refine .followed inferInstance fun type => .after fun span => ?_
    extract_lets whole
    have : Meets whole := by
      dsimp only [whole]
      infer_instance
    clear_value whole
    infer_instance
  clear_value rest
  infer_instance
instance : Reads (thisParameter g) := by unfold thisParameter; infer_instance
set_option synthInstance.maxSize 500 in
instance : Reads (parameters g) := by unfold parameters; infer_instance

/-! Types -/

set_option synthInstance.maxSize 1000 in
instance {u : Use} {reserved : Bool} : Reads (entityName u reserved) := by
  unfold entityName; infer_instance
instance : Reads (typeReference g) := by unfold typeReference; infer_instance
instance : Reads keywordType := by unfold keywordType; infer_instance
instance {p : P Tree} [Reads p] : Reads (literalType p) := by unfold literalType; infer_instance
instance : Reads negativeLiteral := by
  unfold negativeLiteral
  refine .after fun s => .after fun _ => .after fun k => ?_
  split <;> infer_instance
instance : Reads (templateType g) := by unfold templateType; infer_instance
set_option synthInstance.maxSize 1000 in
instance {separator : String} : Reads (resultType g separator) := by
  unfold resultType
  refine .after fun s => .after fun _ => .after fun inner => ?_
  extract_lets rest shown
  have (type : Met Tree) : Reads (rest type.value) := by
    dsimp -zeta only [rest]
    infer_instance
  clear_value rest
  infer_instance
instance : Reads (result? g) := by unfold result?; infer_instance
set_option synthInstance.maxSize 500 in
instance : Reads (functionType g) := by unfold functionType; infer_instance
set_option synthInstance.maxSize 500 in
instance : Reads (tupleElement g) := by unfold tupleElement; infer_instance
instance : Reads (tupleType g) := by unfold tupleType; infer_instance
instance {s : Nat} {isReadonly isStatic : Bool} :
    Reads (indexSignature g s isReadonly isStatic) := by
  unfold indexSignature; infer_instance
instance {f : TypeForm} {key : List Tree} [Meets key] {s : Nat} :
    Reads (signatureOf g f key s) := by
  unfold signatureOf; infer_instance
set_option synthInstance.maxSize 500 in
instance : Reads (typeMember g) := by unfold typeMember; infer_instance
instance : Reads (objectType g) := by unfold objectType; infer_instance
set_option synthInstance.maxSize 1000 in
instance : Reads (mappedType g) := by unfold mappedType; infer_instance
set_option synthInstance.maxSize 500 in
instance : Reads (importType g) := by
  unfold importType
  refine .after fun s => .after fun _ => .after fun _ => .followed inferInstance fun argument => ?_
  extract_lets rest
  have (options : Met Tree) : Reads (rest options.value) := by
    dsimp -zeta only [rest]
    infer_instance
  clear_value rest
  infer_instance
set_option synthInstance.maxSize 500 in
instance : Reads (typeQuery g) := by unfold typeQuery; infer_instance
instance : Reads (parenthesizedType g) := by unfold parenthesizedType; infer_instance
instance : Reads (primaryType g) := by
  unfold primaryType
  refine .after fun k => ?_
  split <;> infer_instance
set_option synthInstance.maxSize 500 in
instance : Reads (postfixType g) := by unfold postfixType; infer_instance
set_option synthInstance.maxSize 1000 in
instance : Reads (inferredType g) := by
  unfold inferredType; infer_instance
instance : Reads (readOperatorType g) := by
  unfold readOperatorType
  refine .after fun s => .after fun k => ?_
  split <;> infer_instance
set_option synthInstance.maxSize 1000 in
instance {m : String} {f : TypeForm} {part : P Tree} [Reads part] :
    Reads (joinedTypes g m f part) := by
  unfold joinedTypes; infer_instance
instance : Reads (unionType g) := by unfold unionType; infer_instance
set_option synthInstance.maxSize 1000 in
instance : Reads (readType g) := by unfold readType; infer_instance

end Grammar

end RouteWrap
