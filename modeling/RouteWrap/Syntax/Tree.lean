import RouteWrap.Number.Binary64
import RouteWrap.Syntax.Operator

/-!
Syntax trees with names set apart. A tree is a reference to a name, a binding of a name, a label,
or a form applied to parts; whatever else a phrase holds (operators, literal values, property
names, modifiers) is data of its form. Some forms open a scope around their parts: the bindings
below such a form that it keeps are visible in all of its parts and nowhere else. So renaming,
free names and the names in use are each one recursion over five cases.
-/

namespace RouteWrap

structure Span where
  start : Nat
  stop : Nat
deriving DecidableEq, Repr, Inhabited

/-- The span of phrases that no source text stands for. -/
def Span.none : Span := ⟨0, 0⟩

/-- Code points of a string value; surrogates may stand alone. -/
abbrev Points := List Nat

def isSurrogate (n : Nat) : Bool := 0xd800 ≤ n && n ≤ 0xdfff

/-- What a reference asks of the binding it resolves to. -/
inductive Use
  | value | type | valueAsType | valueOrType
deriving DecidableEq, Repr, Inhabited

inductive Binder
  | variable | lexical | function | classDefinition | parameter | caught | importValue
  | importType | enumeration | enumMember | moduleBlock | typeAlias | interface | typeParameter
  | inferred
deriving DecidableEq, Repr, Inhabited

namespace Binder

def isValue : Binder → Bool
  | importType | typeAlias | interface | typeParameter | inferred => false
  | _ => true

def isType : Binder → Bool
  | classDefinition | importValue | importType | enumeration | enumMember | moduleBlock
  | typeAlias | interface | typeParameter | inferred => true
  | _ => false

/-- Whether a reference with use `u` can mean this binding. -/
def answers (b : Binder) : Use → Bool
  | .value => b.isValue
  | .type => b.isType
  | .valueAsType => b.isValue
  | .valueOrType => true

end Binder

/-- A scope of functions keeps every value bound below it; a scope of blocks passes variables on
to the function around it; a conditional type keeps the types it infers. -/
inductive Scope
  | function | block | conditional
deriving DecidableEq, Repr, Inhabited

def Scope.keeps : Scope → Binder → Bool
  | .function, .inferred => false
  | .function, _ => true
  | .block, .variable => false
  | .block, .inferred => false
  | .block, _ => true
  | .conditional, .inferred => true
  | .conditional, _ => false

inductive VariableKind
  | var | «let» | const | «using» | awaitUsing
deriving DecidableEq, Repr, Inhabited

namespace VariableKind

def text : VariableKind → String
  | var => "var" | «let» => "let" | const => "const" | «using» => "using"
  | awaitUsing => "await using"

def binder : VariableKind → Binder
  | var => .variable
  | _ => .lexical

end VariableKind

structure FunctionTraits where
  async : Bool
  generator : Bool
  declare : Bool
  pure : Bool
deriving DecidableEq, Repr, Inhabited

inductive MethodKind
  | method | getter | setter | constructor
deriving DecidableEq, Repr, Inhabited

inductive Accessibility
  | isPublic | isPrivate | isProtected
deriving DecidableEq, Repr, Inhabited

def Accessibility.text : Accessibility → String
  | isPublic => "public" | isPrivate => "private" | isProtected => "protected"

structure Modifiers where
  declare : Bool
  accessibility : Option Accessibility
  isStatic : Bool
  isAbstract : Bool
  isOverride : Bool
  isReadonly : Bool
  isAccessor : Bool
deriving DecidableEq, Repr, Inhabited

def Modifiers.none : Modifiers := ⟨false, .none, false, false, false, false, false⟩

inductive MemberSpelling
  | plain
  | quoted (points : Points)
  | computedQuoted (points : Points)
  | computedTemplate (raw : String)
deriving DecidableEq, Repr, Inhabited

inductive MappedModifier
  | absent | plain | plus | minus
deriving DecidableEq, Repr, Inhabited

inductive ImportPhase
  | none | source | defer
deriving DecidableEq, Repr, Inhabited

inductive NamespaceKeyword
  | isModule | isNamespace | isGlobal
deriving DecidableEq, Repr, Inhabited

inductive StatementForm
  | empty
  | block
  | variable (kind : VariableKind) (declare : Bool)
  | declarator (definite : Bool)
  | evaluation
  | directive (raw : String)
  | ifElse
  | forLoop
  | forIn
  | forOf (await : Bool)
  | whileLoop
  | doLoop
  | continueLoop
  | breakOut
  | returnValue
  | withObject
  | switchOn
  | switchCases
  | switchCase
  | labelled
  | throwValue
  | tryCatch
  | handler
  | debugger
  | functionDeclaration (traits : FunctionTraits)
  | classDeclaration (isAbstract declare : Bool)
  | enumeration (const declare : Bool)
  | enumBody
  | enumMember (spelling : MemberSpelling)
  | moduleBlock (keyword : NamespaceKeyword) (declare : Bool)
  | moduleBlockBody
  | typeAlias (declare : Bool)
  | typeAliasBody
  | interface (declare : Bool)
  | interfaceTail
  | interfaceBody
  | importEquals (typeOnly : Bool)
  | externalModule
  | exportAssignment
  | exportAsNamespace (name : String)
deriving DecidableEq, Repr, Inhabited

/-- Declarations that move names between modules. -/
inductive LinkForm
  | importDeclaration (typeOnly : Bool) (phase : ImportPhase) (hasClause : Bool)
  | importSpecifier (typeOnly : Bool)
  | importDefault
  | importNamespace
  | moduleName (text : String)
  | moduleString (points : Points)
  | exportNamed (typeOnly : Bool)
  | exportSpecifier (typeOnly : Bool)
  | exportDeclared
  | exportDefault
  | exportAll (typeOnly : Bool)
  | attributes (keyword : String)
  | attributePair
deriving DecidableEq, Repr, Inhabited

inductive ExpressionForm
  | null
  | boolean (value : Bool)
  | number (value : Binary64) (written : String)
  | bigint (digits : String)
  | regex (pattern flags : String)
  | string (points : Points)
  | template
  | chunk (raw : String)
  | metaProperty (subject property : String)
  | superValue
  | thisValue
  | array
  | spread
  | object
  | property (shorthand computed : Bool)
  | objectMethod (kind : MethodKind) (computed : Bool) (traits : FunctionTraits)
  | functionExpression (traits : FunctionTraits)
  | callable
  | body
  | arrow (async isExpression pure : Bool)
  | classExpression (isAbstract : Bool)
  | unary (op : UnaryOperator)
  | update (op : UpdateOperator) (before : Bool)
  | binary (op : BinaryOperator)
  | assignment (op : AssignOperator)
  | conditional
  | call (isOptional pure : Bool)
  | construct (pure : Bool)
  | member (isOptional : Bool) (name : String)
  | privateMember (isOptional : Bool) (name : String)
  | computedMember (isOptional : Bool)
  | chain
  | sequence
  | parenthesized
  | taggedTemplate
  | importCall (phase : ImportPhase)
  | await
  | yield (delegate : Bool)
  | asType
  | satisfies
  | nonNull
  | assertion
  | instantiation
  | keyName (name : String)
  | privateName (name : String)
  | objectTarget
  | arrayTarget
  | targetProperty (computed : Bool)
  | targetShorthand
  | targetDefault
  | targetRest
deriving DecidableEq, Repr, Inhabited

inductive PatternForm
  | object
  | array
  | property (shorthand computed : Bool)
  | rest
  | defaulted
  | annotated (isOptional : Bool)
  | parameters
  | parameter (modifiers : Modifiers)
  | thisParameter
deriving DecidableEq, Repr, Inhabited

inductive ClassForm
  | tail
  | heritage
  | implements
  | members
  | method (kind : MethodKind) (modifiers : Modifiers) (computed isOptional : Bool)
      (traits : FunctionTraits)
  | field (modifiers : Modifiers) (computed isOptional definite : Bool)
  | staticBlock
  | decorators
  | decorator
deriving DecidableEq, Repr, Inhabited

inductive TypeForm
  | ascription
  | keyword (name : String)
  | literal
  | reference
  | qualified (name : String)
  | union
  | intersection
  | array
  | tuple
  | tupleMember (label : String) (isOptional : Bool)
  | optional
  | rest
  | indexed
  | operator (name : String)
  | query
  | importType
  | function
  | construct (isAbstract : Bool)
  | conditional
  | conditionalHead
  | infer
  | mapped (isReadonly isOptional : MappedModifier)
  | template
  | predicate (asserts : Bool) (subject : String)
  | object
  | propertySignature (computed isOptional isReadonly : Bool)
  | methodSignature (kind : MethodKind) (computed isOptional : Bool)
  | callSignature
  | constructSignature
  | indexSignature (name : String) (isReadonly isStatic : Bool)
  | parenthesized
  | parameters
  | parameter (const isIn isOut : Bool)
  | arguments
  | heritage
deriving DecidableEq, Repr, Inhabited

inductive JsxForm
  | element (selfClosing : Bool)
  | fragment
  | tagAttributes
  | tagAttribute
  | spreadAttribute
  | name (text : String)
  | namespaced (space name : String)
  | member (name : String)
  | container
  | empty
  | text (raw : String)
  | string (raw : String)
  | spreadChild
deriving DecidableEq, Repr, Inhabited

inductive Form
  | statement (f : StatementForm)
  | link (f : LinkForm)
  | expression (f : ExpressionForm)
  | pattern (f : PatternForm)
  | classPart (f : ClassForm)
  | type (f : TypeForm)
  | jsx (f : JsxForm)
deriving DecidableEq, Repr, Inhabited

namespace Form

/-- The scope that a form opens around its parts. The body of a function has one inside that of its
parameters, which see nothing that the body declares. -/
def scope : Form → Option Scope
  | statement .block | statement .forLoop | statement .forIn | statement (.forOf _)
  | statement .switchCases | statement .handler | statement .enumBody | statement .typeAliasBody
  | statement .interfaceTail => some .block
  | statement .moduleBlockBody => some .function
  | expression .callable | expression .body | expression (.arrow ..) => some .function
  | expression (.functionExpression _) | expression (.classExpression _) => some .block
  | classPart .tail => some .block
  | classPart .staticBlock => some .function
  | type .function | type (.construct _) | type (.mapped ..) | type .callSignature
  | type .constructSignature | type (.methodSignature ..) => some .function
  | type .conditionalHead => some .conditional
  | _ => none

/-- Whether the form keeps a binding from being visible outside. -/
def keeps (f : Form) (b : Binder) : Bool :=
  match f.scope with
  | some s => s.keeps b
  | none => false

end Form

inductive Tree
  | absent
  | ref (span : Span) (use : Use) (name : String)
  | bind (span : Span) (as : Binder) (name : String)
  | label (span : Span) (name : String)
  | node (span : Span) (form : Form) (parts : List Tree)
deriving Repr, Inhabited

namespace Tree

def span : Tree → Span
  | absent => .none
  | ref s _ _ | bind s _ _ | label s _ | node s _ _ => s

def isAbsent : Tree → Bool
  | absent => true
  | _ => false

@[match_pattern] abbrev stmt (s : Span) (f : StatementForm) (ps : List Tree) : Tree :=
  node s (.statement f) ps

@[match_pattern] abbrev link (s : Span) (f : LinkForm) (ps : List Tree) : Tree :=
  node s (.link f) ps

@[match_pattern] abbrev expr (s : Span) (f : ExpressionForm) (ps : List Tree) : Tree :=
  node s (.expression f) ps

@[match_pattern] abbrev pat (s : Span) (f : PatternForm) (ps : List Tree) : Tree :=
  node s (.pattern f) ps

@[match_pattern] abbrev cls (s : Span) (f : ClassForm) (ps : List Tree) : Tree :=
  node s (.classPart f) ps

@[match_pattern] abbrev type (s : Span) (f : TypeForm) (ps : List Tree) : Tree :=
  node s (.type f) ps

@[match_pattern] abbrev jsx (s : Span) (f : JsxForm) (ps : List Tree) : Tree :=
  node s (.jsx f) ps

/-- The expression inside any number of parentheses. -/
def bare : Tree → Tree
  | node _ (.expression .parenthesized) [t] => bare t
  | t => t

mutual

def depth : Tree → Nat
  | node _ _ ps => depthList ps + 1
  | _ => 1

def depthList : List Tree → Nat
  | [] => 0
  | t :: ts => max t.depth (depthList ts)

end

end Tree

end RouteWrap
