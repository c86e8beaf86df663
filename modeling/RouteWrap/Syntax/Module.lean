import RouteWrap.Syntax.Comment
import RouteWrap.Syntax.Token
import RouteWrap.Syntax.Tree

/-!
Modules as lists of items. The items that declare names or move them between modules are told
apart with their parts; every other statement is a tree. `Item.toTree` forgets the distinction,
which is all that printing and collecting names need.
-/

namespace RouteWrap

structure Name where
  span : Span
  text : String
deriving DecidableEq, Repr, Inhabited

/-- A name by which modules exchange a binding: an identifier or any string. -/
inductive LinkName
  | name (span : Span) (text : String)
  | string (span : Span) (points : Points)
deriving DecidableEq, Repr, Inhabited

def Points.ofString (s : String) : Points :=
  s.toList.map Char.toNat

/-- The string with these points; a surrogate that stands alone is shown as a replacement. -/
def Points.text (ps : Points) : String :=
  String.ofList (ps.map fun n =>
    if n < 0xd800 || 0xdfff < n then Char.ofNat n else Char.ofNat 0xfffd)

/-- The points that spell a string where nothing is escaped. A surrogate that stands alone is shown
as its digits after a replacement character, and then replacement characters are spelled the same
way. -/
def Points.unescaped (ps : Points) : Points :=
  let marked := ps.any isSurrogate
  ps.flatMap fun n =>
    if isSurrogate n || marked && n == 0xfffd then 0xfffd :: (Nat.toDigits 16 n).map Char.toNat
    else [n]

namespace LinkName

def text : LinkName → String
  | name _ t => t
  | string _ ps => ps.text

def span : LinkName → Span
  | name s _ | string s _ => s

def toTree : LinkName → Tree
  | name s t => .link s (.moduleName t) []
  | string s ps => .link s (.moduleString ps) []

/-- The name as a reference to a binding of the module itself. -/
def toReference (use : Use) : LinkName → Tree
  | name s t => .ref s use t
  | string s ps => .link s (.moduleString ps) []

end LinkName

/-- The module that an import or export names, with the attributes of the request. -/
structure Request where
  span : Span
  specifier : Points
  attributes : Tree
deriving Repr, Inhabited

def Request.toTrees (r : Request) : List Tree :=
  [.link r.span (.moduleString r.specifier) [], r.attributes]

inductive Imported
  | name (n : LinkName)
  | default
  | namespace
deriving DecidableEq, Repr, Inhabited

structure ImportSpecifier where
  span : Span
  typeOnly : Bool
  imported : Imported
  localName : Name
deriving DecidableEq, Repr, Inhabited

structure ImportDecl where
  span : Span
  typeOnly : Bool
  phase : ImportPhase
  /-- None where only the module is requested. -/
  specifiers : Option (List ImportSpecifier)
  request : Request
deriving Repr, Inhabited

def ImportSpecifier.toTree (typeOnly : Bool) (s : ImportSpecifier) : Tree :=
  let binder : Binder := if typeOnly || s.typeOnly then .importType else .importValue
  let binding := Tree.bind s.localName.span binder s.localName.text
  match s.imported with
  | .name n => .link s.span (.importSpecifier s.typeOnly) [n.toTree, binding]
  | .default => .link s.span .importDefault [binding]
  | .namespace => .link s.span .importNamespace [binding]

def ImportDecl.toTree (d : ImportDecl) : Tree :=
  .link d.span (.importDeclaration d.typeOnly d.phase d.specifiers.isSome)
    (d.request.toTrees ++ (d.specifiers.getD []).map (·.toTree d.typeOnly))

structure ExportSpecifier where
  span : Span
  typeOnly : Bool
  localName : LinkName
  exported : LinkName
deriving DecidableEq, Repr, Inhabited

/-- An export list, of names of the module itself or of another one. -/
structure ExportList where
  span : Span
  typeOnly : Bool
  specifiers : List ExportSpecifier
  request : Option Request
deriving Repr, Inhabited

def ExportSpecifier.toTree (typeOnly : Bool) (isLocal : Bool) (s : ExportSpecifier) : Tree :=
  let use : Use := if typeOnly || s.typeOnly then .type else .valueOrType
  .link s.span (.exportSpecifier s.typeOnly)
    [if isLocal then s.localName.toReference use else s.localName.toTree, s.exported.toTree]

def ExportList.toTree (l : ExportList) : Tree :=
  .link l.span (.exportNamed l.typeOnly)
    ((l.request.map Request.toTrees).getD [.absent, .absent]
      ++ l.specifiers.map (·.toTree l.typeOnly l.request.isNone))

structure ExportAll where
  span : Span
  typeOnly : Bool
  exported : Option LinkName
  request : Request
deriving Repr, Inhabited

def ExportAll.toTree (e : ExportAll) : Tree :=
  .link e.span (.exportAll e.typeOnly)
    (((e.exported.map LinkName.toTree).getD .absent) :: e.request.toTrees)

structure Declarator where
  span : Span
  definite : Bool
  target : Tree
  ascription : Tree
  initial : Option Tree
deriving Repr, Inhabited

def Declarator.toTree (d : Declarator) : Tree :=
  .stmt d.span (.declarator d.definite) [d.target, d.ascription, d.initial.getD .absent]

structure VariableDecl where
  span : Span
  kind : VariableKind
  declare : Bool
  declarators : List Declarator
deriving Repr, Inhabited

def VariableDecl.toTree (d : VariableDecl) : Tree :=
  .stmt d.span (.variable d.kind d.declare) (d.declarators.map Declarator.toTree)

structure FunctionDecl where
  span : Span
  traits : FunctionTraits
  name : Option Name
  typeParameters : Tree
  parameters : Tree
  result : Tree
  body : Option Tree
deriving Repr, Inhabited

namespace FunctionDecl

def callable (d : FunctionDecl) : Tree :=
  .expr d.span .callable [d.typeParameters, d.parameters, d.result, d.body.getD .absent]

def binding (d : FunctionDecl) : Tree :=
  match d.name with
  | some n => .bind n.span .function n.text
  | none => .absent

def toTree (d : FunctionDecl) : Tree :=
  .stmt d.span (.functionDeclaration d.traits) [d.binding, d.callable]

/-- The function as an expression, with its name bound inside. -/
def toExpression (d : FunctionDecl) : Tree :=
  .expr d.span (.functionExpression d.traits) [d.binding, d.callable]

end FunctionDecl

structure ClassDecl where
  span : Span
  isAbstract : Bool
  declare : Bool
  decorators : Tree
  name : Option Name
  tail : Tree
deriving Repr, Inhabited

namespace ClassDecl

def binding (d : ClassDecl) : Tree :=
  match d.name with
  | some n => .bind n.span .classDefinition n.text
  | none => .absent

def toTree (d : ClassDecl) : Tree :=
  .stmt d.span (.classDeclaration d.isAbstract d.declare) [d.decorators, d.binding, d.tail]

def toExpression (d : ClassDecl) : Tree :=
  .expr d.span (.classExpression d.isAbstract) [d.decorators, d.binding, d.tail]

end ClassDecl

inductive Declaration
  | variable (d : VariableDecl)
  | function (d : FunctionDecl)
  | classes (d : ClassDecl)
  | other (t : Tree)
deriving Repr, Inhabited

def Declaration.toTree : Declaration → Tree
  | .variable d => d.toTree
  | .function d => d.toTree
  | .classes d => d.toTree
  | .other t => t

inductive DefaultValue
  | declaration (d : Declaration)
  | expression (t : Tree)
deriving Repr, Inhabited

def DefaultValue.toTree : DefaultValue → Tree
  | declaration d => d.toTree
  | expression t => t

inductive Item
  | imports (d : ImportDecl)
  | declaration (d : Declaration)
  | exportDeclaration (span : Span) (d : Declaration)
  | exportList (l : ExportList)
  | exportDefault (span : Span) (v : DefaultValue)
  | exportAll (e : ExportAll)
  | statement (t : Tree)
deriving Repr, Inhabited

def Item.toTree : Item → Tree
  | imports d => d.toTree
  | declaration d => d.toTree
  | exportDeclaration s d => .link s .exportDeclared [d.toTree]
  | exportList l => l.toTree
  | exportDefault s v => .link s .exportDefault [v.toTree]
  | exportAll e => e.toTree
  | statement t => t

structure Module where
  dialect : Dialect
  /-- The length of the source in bytes. -/
  length : Nat
  hashbang : Option String
  directives : List Tree
  items : List Item
  comments : List Comment
deriving Repr, Inhabited

def Module.trees (m : Module) : List Tree :=
  m.items.map Item.toTree

end RouteWrap
