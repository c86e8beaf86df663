import RouteWrap.Grammar.Reading
import RouteWrap.Proofs.ForwardReading
import RouteWrap.Proofs.QuietExpressions

/-!
The phrases of a module are read onwards: each reader goes forward where those that it calls do, and
so do all of them, to whatever depth phrases are nested.
-/

namespace RouteWrap

open P

/-- The phrases that a grammar reads are read onwards. -/
class Grammar.Onward (g : Grammar) : Prop where
  item : ∀ single, Forward (g.item single)
  expression : Forward g.expression
  assignment : ∀ allow, Forward (g.assignment allow)
  binary : ∀ level, Forward (g.binary level)
  unary : Forward g.unary
  leftHand : Forward g.leftHand
  members : Forward g.members
  pattern : ∀ b, Forward (g.pattern b)
  type : Forward g.type
  operatorType : Forward g.operatorType
  element : ∀ s between, Forward (g.element s between)
  moduleBlock : ∀ s keyword declare, Forward (g.moduleBlock s keyword declare)

attribute [instance] Grammar.Onward.item Grammar.Onward.expression Grammar.Onward.assignment
  Grammar.Onward.binary Grammar.Onward.unary Grammar.Onward.leftHand Grammar.Onward.members
  Grammar.Onward.pattern Grammar.Onward.type Grammar.Onward.operatorType Grammar.Onward.element
  Grammar.Onward.moduleBlock

namespace Grammar

variable {g : Grammar} [g.Onward]

/-! Literals, names and modifiers -/

instance {single : Bool} : Forward (statement g single) := by unfold statement; infer_instance
instance : Forward stringLiteral := by unfold stringLiteral; infer_instance
instance {k : NumeralKind} : Forward (numeral k) := by
  unfold numeral
  refine .on fun _ => .on fun _ => ?_
  split <;> infer_instance
instance : Forward regexLiteral := by unfold regexLiteral; infer_instance
instance {tagged : Bool} : Forward (chunk tagged) := by unfold chunk; infer_instance
instance : Forward reenterTemplate := by unfold reenterTemplate; infer_instance
instance {tagged : Bool} {part : P Tree} [Forward part] : Forward (templateParts tagged part) := by
  unfold templateParts
  refine .on fun isWhole => ?_
  split
  · infer_instance
  refine .on fun head => .on fun first => .on fun _ => ?_
  refine .followed (forward_iterate fun found => .on fun fatal => ?_) inferInstance
  split
  · infer_instance
  refine .on fun k => ?_
  split <;> infer_instance
instance {tagged : Bool} : Forward (template g tagged) := by unfold template; infer_instance
instance {form : ExpressionForm} : Forward (keywordLiteral form) := by
  unfold keywordLiteral; infer_instance
instance : Forward keyName := by unfold keyName; infer_instance
instance : Forward privateName := by unfold privateName; infer_instance
instance : Forward (propertyName g) := by
  unfold propertyName
  refine .on fun _ => ?_
  split <;> infer_instance
instance : Forward (memberName g) := by unfold memberName; infer_instance
instance : Forward atModifier := by
  unfold atModifier
  refine .on fun _ => ?_
  split <;> infer_instance
instance {seen : List String} {t : Token} : Forward (checkModifier seen t) := by
  unfold checkModifier
  extract_lets checked
  have (u : Unit) : Forward (checked u) := by
    dsimp only [checked]
    split
    · infer_instance
    split <;> infer_instance
  clear_value checked
  infer_instance
instance {allowed : List String} : Forward (modifiers allowed) := by
  unfold modifiers; infer_instance
instance {w : String} : Forward (eatBeforeName w) := by unfold eatBeforeName; infer_instance
instance : Forward (ascription g) := by unfold ascription; infer_instance
instance : Forward (typeList g) := by unfold typeList; infer_instance
instance : Forward splitLeftAngle := by unfold splitLeftAngle; infer_instance
instance : Forward (typeArguments? g) := by unfold typeArguments?; infer_instance
instance : Forward (typeParameter g) := by unfold typeParameter; infer_instance
instance : Forward (typeParameters g) := by unfold typeParameters; infer_instance
instance : Forward (decorator g) := by unfold decorator; infer_instance
instance : Forward (decorators g) := by unfold decorators; infer_instance

/-! Patterns and parameters -/

instance {s : Nat} {left : Tree} : Forward (defaulted g s left) := by
  unfold defaulted; infer_instance
instance {binder : Binder} : Forward (annotatedPattern g binder) := by
  unfold annotatedPattern; infer_instance
instance {binder : Binder} : Forward (patternElement g binder) := by
  unfold patternElement; infer_instance
instance {binder : Binder} : Forward (patternRest g binder) := by unfold patternRest; infer_instance
instance {binder : Binder} : Forward (patternProperty g binder) := by
  unfold patternProperty
  refine .on fun s => .on fun k => .on fun offset => .on fun (key, computed) => .on fun colon => ?_
  split
  · split <;> infer_instance
  · infer_instance
instance {binder : Binder} : Forward (objectPattern g binder) := by
  unfold objectPattern
  refine .on fun s => .on fun _ => .on fun ps => ?_
  dsimp only
  split
  · split <;> infer_instance
  · infer_instance
instance {binder : Binder} : Forward (arrayPattern g binder) := by
  unfold arrayPattern; infer_instance
instance {binder : Binder} : Forward (bindingPattern g binder) := by
  unfold bindingPattern
  refine .on fun _ => ?_
  split <;> infer_instance
instance : Forward (parameter g) := by unfold parameter; infer_instance
-- Each condition in a chain counts what follows it twice.
set_option synthInstance.maxSize 500 in
instance : Forward (restParameter g) := by unfold restParameter; infer_instance
instance : Forward (thisParameter g) := by unfold thisParameter; infer_instance
set_option synthInstance.maxSize 500 in
instance : Forward (parameters g) := by unfold parameters; infer_instance

/-! Types -/

set_option synthInstance.maxSize 500 in
instance {use : Use} {allowReserved : Bool} : Forward (entityName use allowReserved) := by
  unfold entityName; infer_instance
instance : Forward (typeReference g) := by unfold typeReference; infer_instance
instance : Forward keywordType := by unfold keywordType; infer_instance
instance {p : P Tree} [Forward p] : Forward (literalType p) := by unfold literalType; infer_instance
instance : Forward negativeLiteral := by
  unfold negativeLiteral
  refine .on fun _ => .on fun _ => .on fun _ => ?_
  split <;> infer_instance
instance : Forward (templateType g) := by unfold templateType; infer_instance
instance : Forward (opensFunctionType g) := by unfold opensFunctionType; infer_instance
set_option synthInstance.maxSize 1000 in
instance {separator : String} : Forward (resultType g separator) := by
  unfold resultType; infer_instance
instance : Forward (result? g) := by unfold result?; infer_instance
instance : Forward (functionType g) := by unfold functionType; infer_instance
instance : Forward (atFunctionType g) := by
  unfold atFunctionType
  refine .on fun _ => ?_
  split <;> infer_instance
instance : Forward (tupleElement g) := by unfold tupleElement; infer_instance
instance : Forward (tupleType g) := by unfold tupleType; infer_instance
instance : Forward memberEnd := by unfold memberEnd; infer_instance
instance : Forward atIndexSignature := by unfold atIndexSignature; infer_instance
instance {s : Nat} {isReadonly isStatic : Bool} :
    Forward (indexSignature g s isReadonly isStatic) := by
  unfold indexSignature; infer_instance
instance {form : TypeForm} {key : List Tree} {s : Nat} : Forward (signatureOf g form key s) := by
  unfold signatureOf; infer_instance
instance : Forward (typeMember g) := by unfold typeMember; infer_instance
instance : Forward (objectType g) := by unfold objectType; infer_instance
instance : Forward opensMappedType := by unfold opensMappedType; infer_instance
instance {k : Kind} : Forward (mappedModifier k) := by unfold mappedModifier; infer_instance
set_option synthInstance.maxSize 500 in
instance : Forward (mappedType g) := by unfold mappedType; infer_instance
set_option synthInstance.maxSize 1000 in
instance : Forward (importType g) := by unfold importType; infer_instance
instance : Forward (typeQuery g) := by unfold typeQuery; infer_instance
instance : Forward (parenthesizedType g) := by unfold parenthesizedType; infer_instance
instance : Forward (primaryType g) := by
  unfold primaryType
  refine .on fun _ => ?_
  split <;> infer_instance
instance : Forward (startsType g) := by
  unfold startsType
  refine .on fun _ => ?_
  split <;> infer_instance
set_option synthInstance.maxSize 500 in
instance : Forward (postfixType g) := by unfold postfixType; infer_instance
instance : Forward (inferredType g) := by unfold inferredType; infer_instance
instance : Forward (readOperatorType g) := by
  unfold readOperatorType
  refine .on fun _ => .on fun _ => ?_
  split <;> infer_instance
set_option synthInstance.maxSize 500 in
instance {m : String} {form : TypeForm} {part : P Tree} [Forward part] :
    Forward (joinedTypes g m form part) := by
  unfold joinedTypes; infer_instance
instance : Forward (unionType g) := by unfold unionType; infer_instance
instance : Forward (readType g) := by unfold readType; infer_instance

/-! Functions -/

instance {close : Option Kind} : Forward (statements g close) := by
  unfold statements
  refine .followed (forward_iterate fun (ds, is, heading) => ?_) inferInstance
  refine .on fun isEnd => .on fun k => ?_
  split
  · infer_instance
  refine .on fun t => .on fun item => ?_
  split
  · split <;> infer_instance
  · infer_instance
instance : Forward (functionBody g) := by unfold functionBody; infer_instance
instance {s : Nat} {name : Option Name} {traits : FunctionTraits} :
    Forward (functionFrom g s name traits) := by
  unfold functionFrom; infer_instance
instance {required isExpression async generator : Bool} :
    Forward (functionName required isExpression async generator) := by
  unfold functionName; infer_instance
instance {place : FunctionPlace} {declare : Bool} : Forward (function g place declare) := by
  unfold function; infer_instance
instance : Forward (functionExpression g) := by unfold functionExpression; infer_instance
instance {async generator : Bool} : Forward (method g async generator) := by
  unfold method; infer_instance
instance : Forward atAsyncFunction := by unfold atAsyncFunction; infer_instance
instance : Forward arrowChance := by
  unfold arrowChance
  refine .on fun _ => ?_
  split <;> infer_instance
instance {async allowResult : Bool} : Forward (arrowBody g async allowResult) := by
  unfold arrowBody; infer_instance
instance : Forward arrowMark := by unfold arrowMark; infer_instance
instance : Forward (arrowHead g) := by unfold arrowHead; infer_instance
instance {h : ArrowHead} {allowResult : Bool} : Forward (arrowFrom g h allowResult) := by
  unfold arrowFrom; infer_instance
instance {allowResult : Bool} : Forward (arrow? g allowResult) := by
  unfold arrow?
  refine .on fun chance => ?_
  split <;> infer_instance
instance {s : Nat} {async pure : Bool} {t : Tree} {allowResult : Bool} :
    Forward (simpleArrow g s async pure t allowResult) := by
  unfold simpleArrow; infer_instance
instance {allowResult : Bool} : Forward (asyncArrow? g allowResult) := by
  unfold asyncArrow?; infer_instance

/-! Classes -/

instance : Forward (extended g) := by
  unfold extended
  refine .on fun _ => ?_
  extract_lets one
  have : Forward one := .on fun e => by split <;> infer_instance
  infer_instance
instance : Forward (heritageType g) := by unfold heritageType; infer_instance
instance : Forward (implemented g) := by unfold implemented; infer_instance
set_option synthInstance.maxSize 500 in
instance : Forward (heritage g) := by unfold heritage; infer_instance
instance {s : Nat} : Forward (staticBlock g s) := by unfold staticBlock; infer_instance
instance {kind : MethodKind} {callable : Tree} : Forward (checkAccessor kind callable) := by
  unfold checkAccessor
  split <;> infer_instance
instance {ms : ModifierList} {key : Tree} : Forward (checkPrivate ms key) := by
  unfold checkPrivate
  have (l : List (String × Nat)) : Forward (l.forM fun (w, offset) =>
      if accessibilityWords.contains w then fault .privateAccessibility offset else pure ()) :=
    inferInstance
  split <;> infer_instance
instance {ms : ModifierList} {key : Tree} {computed : Bool} :
    Forward (checkPrototype ms key computed) := by
  unfold checkPrototype; infer_instance
instance {ms : ModifierList} : Forward (classMemberName g ms) := by
  unfold classMemberName; infer_instance
instance {s : Nat} {kind : MethodKind} {ds : Tree} {ms : ModifierList} :
    Forward (accessorMember g s kind ds ms) := by
  unfold accessorMember; infer_instance
instance {s : Nat} {ds : Tree} {ms : ModifierList} {generator : Bool} {key : Tree}
    {computed isOptional : Bool} :
    Forward (methodMember g s ds ms generator key computed isOptional) := by
  unfold methodMember; infer_instance
set_option synthInstance.maxSize 500 in
instance {s : Nat} {ds : Tree} {ms : ModifierList} {key : Tree} {computed isOptional : Bool} :
    Forward (fieldMember g s ds ms key computed isOptional) := by
  unfold fieldMember; infer_instance
instance : Forward (classMember g) := by unfold classMember; infer_instance
instance : Forward (classMembers g) := by unfold classMembers; infer_instance
set_option synthInstance.maxSize 500 in
instance {s : Nat} {ds : Tree} {isAbstract declare : Bool} :
    Forward (classFrom g s ds isAbstract declare) := by
  unfold classFrom; infer_instance
instance : Forward (classExpression g) := by unfold classExpression; infer_instance

/-! Elements -/

instance : Forward tagName := by unfold tagName; infer_instance
instance : Forward elementName := by unfold elementName; infer_instance
instance {between : Bool} {m : String} : Forward (expectInside between m) := by
  unfold expectInside; infer_instance
instance {s : Nat} {between : Bool} : Forward (container g s between) := by
  unfold container
  refine .on fun isEmpty => ?_
  split
  · infer_instance
  refine .on fun e => ?_
  dsimp only
  split <;> infer_instance
instance : Forward (attributeValue g) := by
  unfold attributeValue
  refine .on fun t => ?_
  split
  · infer_instance
  · refine .on fun _ => .on fun c => ?_
    dsimp only
    split <;> infer_instance
  · infer_instance
  · infer_instance
set_option synthInstance.maxSize 500 in
instance : Forward (tagAttribute g) := by unfold tagAttribute; infer_instance
instance : Forward (tagAttributes g) := by unfold tagAttributes; infer_instance
instance : Forward (children g) := by
  unfold children
  refine .followed (forward_iterate fun found => .on fun fatal => ?_) inferInstance
  split
  · infer_instance
  refine .on fun t => ?_
  split <;> infer_instance
instance {s : Nat} {between : Bool} : Forward (readElement g s between) := by
  unfold readElement; infer_instance

/-! Targets -/

instance {t : Tree} : Forward (invalidTarget t) := by unfold invalidTarget; infer_instance
instance forward_simpleTarget {t : Tree} : Forward (simpleTarget t) := by
  fun_induction simpleTarget t with
  | case11 s inner whole _ _ ih =>
      split
      · infer_instance
      · infer_instance
      · exact ih
  | _ => infer_instance

instance {start : Nat} : Forward (uncover start) := by unfold uncover; infer_instance
instance {element : Tree → P Tree} [each : ∀ t, Forward (element t)] {comma : Option Nat}
    {ts : List Tree} : Forward (targetElements element comma ts) := by
  fun_induction targetElements element comma ts <;> infer_instance

/-- At each depth, the three readers of targets read one another's parts at the depth below. -/
theorem forward_targets (depth : Nat) :
    (∀ t, Forward (target depth t)) ∧ (∀ t, Forward (targetMaybeDefault depth t)) ∧
      ∀ t, Forward (targetProperty depth t) := by
  induction depth with
  | zero =>
      refine ⟨fun t => ?_, fun t => ?_, fun t => ?_⟩
      · unfold target; infer_instance
      · unfold targetMaybeDefault; infer_instance
      · unfold targetProperty; infer_instance
  | succ depth ih =>
      obtain ⟨_, _, _⟩ := ih
      refine ⟨fun t => ?_, fun t => ?_, fun t => ?_⟩
      · unfold target
        split
        · next same => cases same; infer_instance
        · next same => cases same; infer_instance
        · infer_instance
      · unfold targetMaybeDefault
        split
        · infer_instance
        · next same _ => cases same; infer_instance
        · infer_instance
      · unfold targetProperty
        split
        · infer_instance
        · infer_instance
        · next same => cases same; infer_instance
        · next same _ _ _ => cases same; infer_instance
        · infer_instance

instance {depth : Nat} {t : Tree} : Forward (target depth t) := (forward_targets depth).1 t

instance {patterns : Bool} {t : Tree} : Forward (assignmentTarget patterns t) := by
  unfold assignmentTarget
  split <;> infer_instance

/-! Expressions -/

instance : Forward (spread g) := by unfold spread; infer_instance
instance : Forward (arrayElement g) := by
  unfold arrayElement
  refine .on fun _ => ?_
  split <;> infer_instance
instance : Forward (array g) := by
  unfold array
  refine .on fun s => .on fun _ => .on fun (es, comma) => ?_
  dsimp only
  split <;> infer_instance
instance {s : Nat} {kind : MethodKind} {async generator : Bool} {key : Tree} {computed : Bool} :
    Forward (objectMethod g s kind async generator key computed) := by
  unfold objectMethod; infer_instance
set_option synthInstance.maxSize 500 in
instance : Forward (objectProperty g) := by unfold objectProperty; infer_instance
instance : Forward (object g) := by unfold object; infer_instance
instance : Forward (parenthesized g) := by
  unfold parenthesized
  refine .on fun s => .on fun _ => .on fun inner => .on fun (es, comma) => ?_
  dsimp -zeta only
  extract_lets rest
  have (u : Unit) : Forward (rest u) := by
    dsimp only [rest]
    split <;> infer_instance
  clear_value rest
  split <;> infer_instance
instance : Forward (argument g) := by unfold argument; infer_instance
instance : Forward (arguments g) := by unfold arguments; infer_instance
instance : Forward (construction g) := by
  unfold construction
  refine .on fun s => .on fun _ => .on fun dot => ?_
  split
  · infer_instance
  refine .on fun found => ?_
  split
  split
  refine .on fun opens => ?_
  extract_lets constructed
  have (as : List Tree) : Forward (constructed as) := by
    dsimp only [constructed]
    split <;> infer_instance
  clear_value constructed
  infer_instance
instance {s : Nat} {phase : ImportPhase} : Forward (importCall g s phase) := by
  unfold importCall; infer_instance
instance : Forward (importExpression g) := by unfold importExpression; infer_instance
instance : Forward superExpression := by unfold superExpression; infer_instance
instance : Forward (primary g) := by
  unfold primary
  refine .on fun _ => ?_
  split <;> infer_instance
instance : Forward startsExpression := by
  unfold startsExpression
  refine .on fun _ => ?_
  split <;> infer_instance
instance : Forward followsTypeArguments := by
  unfold followsTypeArguments
  refine .on fun _ => ?_
  split <;> infer_instance
set_option synthInstance.maxSize 500 in
instance : Forward (typeArgumentsInExpression g) := by
  unfold typeArgumentsInExpression; infer_instance
instance {s : Nat} {inChain : Bool} {tag types : Tree} :
    Forward (taggedTemplate g s inChain tag types) := by
  unfold taggedTemplate; infer_instance
instance {s : Nat} {isOptional : Bool} {object : Tree} :
    Forward (memberAfter g s isOptional object) := by
  unfold memberAfter; infer_instance
instance {s : Nat} {isOptional : Bool} {object : Tree} :
    Forward (computedAfter g s isOptional object) := by
  unfold computedAfter; infer_instance
instance {s : Nat} {first : Tree} {inChain : Bool} : Forward (memberTail g s first inChain) := by
  unfold memberTail
  refine forward_iterate fun (t, inChain) => .on fun fatal => ?_
  split
  · infer_instance
  refine .on fun k => ?_
  split <;> try infer_instance
  all_goals split <;> infer_instance
instance : Forward (readMembers g) := by unfold readMembers; infer_instance
set_option synthInstance.maxSize 1000 in
instance {s : Nat} {first : Tree} {inChain : Bool} : Forward (callTail g s first inChain) := by
  unfold callTail; infer_instance
instance : Forward (readLeftHand g) := by unfold readLeftHand; infer_instance
instance : Forward opensElement := by unfold opensElement; infer_instance
instance : Forward (elementExpression g) := by unfold elementExpression; infer_instance
instance : Forward (updateExpression g) := by
  unfold updateExpression
  refine .on fun s => .on fun k => ?_
  split
  · infer_instance
  refine .on fun opens => ?_
  split
  · infer_instance
  refine .on fun t => .on fun k => ?_
  split <;> infer_instance
instance : Forward hasOperand := by unfold hasOperand; infer_instance
instance : Forward atAwait := by unfold atAwait; infer_instance
instance : Forward (awaitExpression g) := by unfold awaitExpression; infer_instance
instance : Forward (typeAssertion g) := by unfold typeAssertion; infer_instance
instance : Forward (readUnary g) := by
  unfold readUnary
  refine .on fun k => ?_
  split <;> infer_instance
instance {s : Nat} {left : Tree} {level : Precedence} : Forward (binaryTail g s left level) := by
  unfold binaryTail
  refine forward_iterate fun left => .on fun fatal => ?_
  split
  · infer_instance
  refine .on fun _ => .on fun k => ?_
  split
  · infer_instance
  split <;> infer_instance
instance {level : Precedence} : Forward (readBinary g level) := by unfold readBinary; infer_instance
instance : Forward atYield := by unfold atYield; infer_instance
set_option synthInstance.maxSize 500 in
instance : Forward (yieldExpression g) := by unfold yieldExpression; infer_instance
instance {s : Nat} {test : Tree} {allowResult : Bool} :
    Forward (conditionTail g s test allowResult) := by
  unfold conditionTail; infer_instance
instance {allowResult : Bool} : Forward (readAssignment g allowResult) := by
  unfold readAssignment
  refine .on fun isYield => ?_
  split
  · infer_instance
  refine .on fun t => .on fun arrow => ?_
  split
  · infer_instance
  refine .on fun asyncArrow => ?_
  split
  · infer_instance
  refine .on fun left => ?_
  extract_lets assigned
  have (u : Unit) : Forward (assigned u) := by
    dsimp only [assigned]
    refine .on fun k => ?_
    split <;> infer_instance
  clear_value assigned
  split <;> infer_instance
instance : Forward (readExpression g) := by unfold readExpression; infer_instance

/-! Declarations -/

instance {kind : VariableKind} {d : Declarator} : Forward (checkInitial kind d) := by
  unfold checkInitial
  refine .on fun c => ?_
  split
  · split
    · split <;> infer_instance
    · infer_instance
  · infer_instance
set_option synthInstance.maxSize 500 in
instance {kind : VariableKind} {checked : Bool} : Forward (declarator g kind checked) := by
  unfold declarator
  refine .on fun s => .on fun target => ?_
  dsimp only
  split <;> infer_instance
instance {s : Nat} {kind : VariableKind} {declare checked : Bool} :
    Forward (variableDecl g s kind declare checked) := by
  unfold variableDecl; infer_instance
instance : Forward (enumMember g) := by
  unfold enumMember
  refine .on fun s => .on fun t => ?_
  extract_lets rest
  have (named : MemberSpelling × String) : Forward (rest named) := by
    dsimp only [rest]
    infer_instance
  clear_value rest
  split <;> try infer_instance
  refine .on fun _ => .on fun e => .on fun _ => ?_
  split <;> infer_instance
instance {s : Nat} {const declare : Bool} : Forward (enumeration g s const declare) := by
  unfold enumeration; infer_instance
instance : Forward (blockOfItems g) := by unfold blockOfItems; infer_instance
instance {s : Nat} {keyword : NamespaceKeyword} {declare : Bool} :
    Forward (readModuleBlock g s keyword declare) := by
  unfold readModuleBlock; infer_instance
instance {s : Nat} {declare : Bool} : Forward (globalBlock g s declare) := by
  unfold globalBlock; infer_instance
set_option synthInstance.maxSize 500 in
instance {s : Nat} {declare : Bool} : Forward (interface g s declare) := by
  unfold interface; infer_instance
instance {s : Nat} {declare : Bool} : Forward (typeAlias g s declare) := by
  unfold typeAlias; infer_instance
set_option synthInstance.maxSize 500 in
instance {s : Nat} {n : Name} {typeOnly : Bool} : Forward (importEquals g s n typeOnly) := by
  unfold importEquals; infer_instance
instance : Forward startsTypedDeclaration := by unfold startsTypedDeclaration; infer_instance
instance : Forward declarationModifiers := by
  unfold declarationModifiers
  refine .followed (forward_iterate fun found => .on fun t => ?_) inferInstance
  extract_lets moved rest
  have (isModifier : Bool) : Forward (rest isModifier) := by
    dsimp only [rest, moved]
    infer_instance
  clear_value rest
  split <;> infer_instance
instance : Forward isUsing := by unfold isUsing; infer_instance
instance : Forward isAwaitUsing := by unfold isAwaitUsing; infer_instance
instance : Forward variableKeyword? := by
  unfold variableKeyword?
  refine .on fun _ => ?_
  split <;> infer_instance
instance : Forward declarationFrom.none? := by unfold declarationFrom.none?; infer_instance
instance {s : Nat} {ms : ModifierList} {ds : Tree} : Forward (declarationFrom g s ms ds) := by
  unfold declarationFrom
  refine .on fun k => ?_
  split <;> infer_instance
instance {s : Nat} {ds : Tree} : Forward (modifiedDeclaration g s ds) := by
  unfold modifiedDeclaration; infer_instance

/-! Imports and exports -/

instance : Forward requestAttribute := by unfold requestAttribute; infer_instance
instance : Forward requestAttributes := by unfold requestAttributes; infer_instance
instance : Forward request := by unfold request; infer_instance
instance : Forward linkName := by unfold linkName; infer_instance
instance : Forward atLinkName := by unfold atLinkName; infer_instance
set_option synthInstance.maxSize 500 in
instance : Forward rawSpecifier := by unfold rawSpecifier; infer_instance
instance {n : LinkName} : Forward (checkLocal n) := by
  unfold checkLocal
  split <;> infer_instance
instance {typeOnly : Bool} : Forward (importSpecifier typeOnly) := by
  unfold importSpecifier
  refine .on fun r => ?_
  dsimp only
  split <;> infer_instance
instance {default : Option Name} {typeOnly : Bool} : Forward (importClause default typeOnly) := by
  unfold importClause; infer_instance
instance : Forward importHead := by
  unfold importHead
  refine .on fun k => ?_
  split
  · infer_instance
  refine .on fun t => .on fun n => ?_
  dsimp only
  split <;> infer_instance
instance : Forward (importItem g) := by
  unfold importItem
  refine .on fun s => .on fun isExpression => ?_
  split
  · infer_instance
  refine .on fun _ => .on fun h => ?_
  extract_lets requested imported
  have (u : Unit) : Forward (imported u) := by
    dsimp only [imported, requested]
    infer_instance
  clear_value imported
  split <;> infer_instance
instance {typeOnly : Bool} : Forward (exportSpecifier typeOnly) := by
  unfold exportSpecifier
  refine .on fun r => ?_
  dsimp only
  split <;> infer_instance
instance {e : ExportSpecifier} : Forward (checkExported e) := by
  unfold checkExported
  split <;> infer_instance
set_option synthInstance.maxSize 500 in
instance {s : Nat} : Forward (exportListItem s) := by
  unfold exportListItem
  have (es : List ExportSpecifier) : Forward (es.forM checkExported) := inferInstance
  infer_instance
instance {s : Nat} : Forward (exportAllItem s) := by unfold exportAllItem; infer_instance
set_option synthInstance.maxSize 500 in
instance {ds : Tree} : Forward (defaultValue g ds) := by unfold defaultValue; infer_instance
instance {s : Nat} {ds : Tree} : Forward (exportItem.declared g s ds) := by
  unfold exportItem.declared; infer_instance
instance {s : Nat} {ds : Tree} : Forward (exportItem g s ds) := by
  unfold exportItem
  refine .on fun _ => .on fun _ => .on fun _ => ?_
  split <;> infer_instance

/-! Statements and items -/

instance : Forward (block g) := by unfold block; infer_instance
instance : Forward (condition g) := by unfold condition; infer_instance
set_option synthInstance.maxSize 500 in
instance {s : Nat} {await : Bool} {initial : Tree} : Forward (forParts g s await initial) := by
  unfold forParts; infer_instance
instance {s : Nat} {left : Tree} : Forward (forInParts g s left) := by
  unfold forInParts; infer_instance
instance {s : Nat} {await : Bool} {left : Tree} : Forward (forOfParts g s await left) := by
  unfold forOfParts; infer_instance
instance {s : Nat} {await : Bool} {kind : VariableKind} {from_ : Nat} :
    Forward (forVariables g s await kind from_) := by
  unfold forVariables
  have (ds : List Declarator) : Forward (ds.forM (checkInitial kind)) := inferInstance
  infer_instance
instance : Forward atForVariables := by
  unfold atForVariables
  refine .on fun _ => ?_
  split <;> infer_instance
set_option synthInstance.maxSize 500 in
instance : Forward (forStatement g) := by
  unfold forStatement
  refine .on fun s => .on fun _ => ?_
  extract_lets head
  have (await : Bool) : Forward (head await) := by
    dsimp -zeta only [head]
    refine .on fun _ => .on fun _ => ?_
    split
    · infer_instance
    refine .on fun _ => ?_
    extract_lets initial
    have (u : Unit) : Forward (initial u) := by
      dsimp -zeta only [initial]
      refine .on fun _ => ?_
      split
      · infer_instance
      refine .on fun _ => .on fun _ => .on fun _ => ?_
      extract_lets left
      have (isAsyncOf : Bool) : Forward (left isAsyncOf) := by
        dsimp -zeta only [left]
        infer_instance
      clear_value left
      infer_instance
    clear_value initial
    infer_instance
  clear_value head
  infer_instance
instance {form : StatementForm} : Forward (jump form) := by unfold jump; infer_instance
instance : Forward (returnStatement g) := by unfold returnStatement; infer_instance
instance : Forward (throwStatement g) := by unfold throwStatement; infer_instance
instance : Forward (ifStatement g) := by unfold ifStatement; infer_instance
set_option synthInstance.maxSize 500 in
instance : Forward (switchCase g) := by unfold switchCase; infer_instance
instance : Forward (switchStatement g) := by unfold switchStatement; infer_instance
set_option synthInstance.maxSize 1000 in
instance : Forward (tryStatement g) := by unfold tryStatement; infer_instance
instance : Forward (expressionStatement g) := by
  unfold expressionStatement
  refine .on fun s => .on fun e => ?_
  dsimp only
  split <;> infer_instance
instance {s : Nat} {kind : VariableKind} {single : Bool} :
    Forward (variableItem g s kind single) := by
  unfold variableItem; infer_instance
instance {single : Bool} : Forward (letItem g single) := by unfold letItem; infer_instance
instance {single : Bool} : Forward (functionItem g single) := by unfold functionItem; infer_instance
instance {s : Nat} {single : Bool} : Forward (classItem g s single) := by
  unfold classItem; infer_instance
instance : Forward (decoratedItem g) := by
  unfold decoratedItem
  refine .on fun s => .on fun ds => .on fun isExport => ?_
  split
  · infer_instance
  refine .on fun d => ?_
  split <;> infer_instance
instance : Forward (typedItem g) := by unfold typedItem; infer_instance
instance {single : Bool} : Forward (plainItem g single) := by
  unfold plainItem
  refine .on fun s => ?_
  extract_lets statement
  have (p : P Tree) [Forward p] : Forward (statement p) := inferInstanceAs (Forward (_ <$> p))
  clear_value statement
  refine .on fun k => ?_
  split <;> try infer_instance
  split <;> infer_instance
instance {single : Bool} : Forward (readItem g single) := by unfold readItem; infer_instance

end Grammar

/-! The knot -/

theorem forward_refuse : Forward Grammar.ofDepth.refuse := by
  unfold Grammar.ofDepth.refuse; infer_instance

instance onward_ofDepth (depth : Nat) : (Grammar.ofDepth depth).Onward := by
  induction depth with
  | zero =>
      exact {
        item := fun _ => Leads.on fun _ => inferInstance
        expression := forward_refuse
        assignment := fun _ => forward_refuse
        binary := fun _ => forward_refuse
        unary := forward_refuse
        leftHand := forward_refuse
        members := Leads.on fun _ => inferInstance
        pattern := fun _ => forward_refuse
        type := forward_refuse
        operatorType := forward_refuse
        element := fun _ _ => forward_refuse
        moduleBlock := fun _ _ _ => forward_refuse }
  | succ depth ih =>
      exact {
        item := fun single => inferInstanceAs (Forward ((Grammar.ofDepth depth).readItem single))
        expression := inferInstanceAs (Forward (Grammar.ofDepth depth).readExpression)
        assignment := fun allow =>
          inferInstanceAs (Forward ((Grammar.ofDepth depth).readAssignment allow))
        binary := fun level => inferInstanceAs (Forward ((Grammar.ofDepth depth).readBinary level))
        unary := inferInstanceAs (Forward (Grammar.ofDepth depth).readUnary)
        leftHand := inferInstanceAs (Forward (Grammar.ofDepth depth).readLeftHand)
        members := inferInstanceAs (Forward (Grammar.ofDepth depth).readMembers)
        pattern := fun b => inferInstanceAs (Forward ((Grammar.ofDepth depth).bindingPattern b))
        type := inferInstanceAs (Forward (Grammar.ofDepth depth).readType)
        operatorType := inferInstanceAs (Forward (Grammar.ofDepth depth).readOperatorType)
        element := fun s between =>
          inferInstanceAs (Forward ((Grammar.ofDepth depth).readElement s between))
        moduleBlock := fun s keyword declare =>
          inferInstanceAs (Forward ((Grammar.ofDepth depth).readModuleBlock s keyword declare)) }

end RouteWrap
