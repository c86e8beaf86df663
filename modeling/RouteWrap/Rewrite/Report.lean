/-!
What a rewrite did to the exports of a module.
-/

namespace RouteWrap

inductive ExportShape
  | variableDeclaration
  | functionDeclaration
  | reExport
  | importReExport
deriving DecidableEq, Repr, Inhabited

def ExportShape.text : ExportShape → String
  | variableDeclaration => "variable declaration"
  | functionDeclaration => "function declaration"
  | reExport => "re-export"
  | importReExport => "import re-export"

def ExportShape.key : ExportShape → String
  | variableDeclaration => "variable-declaration"
  | functionDeclaration => "function-declaration"
  | reExport => "re-export"
  | importReExport => "import-re-export"

inductive SkipReason
  | defaultExport
  | classDeclaration
  | destructuredBinding
  | multipleDeclarators
  | missingInitializer
  | missingBody
  | typeOnly
  | stringLiteralName
  | namespaceReExport
  | localBinding
  | nameCollision
deriving DecidableEq, Repr, Inhabited

def SkipReason.text : SkipReason → String
  | defaultExport => "default exports are not instrumented"
  | classDeclaration => "class declarations are not instrumented"
  | destructuredBinding => "destructured bindings are not instrumented"
  | multipleDeclarators => "declarations with several declarators are not instrumented"
  | missingInitializer => "declaration has no initializer"
  | missingBody => "function has no body"
  | typeOnly => "type-only exports have no runtime value"
  | stringLiteralName => "string literal export names are not instrumented"
  | namespaceReExport => "namespace re-exports are not instrumented"
  | localBinding =>
      "exported binding is declared locally, not imported; export the declaration directly"
  | nameCollision => "export name is already bound in this module"

def SkipReason.key : SkipReason → String
  | defaultExport => "default-export"
  | classDeclaration => "class-declaration"
  | destructuredBinding => "destructured-binding"
  | multipleDeclarators => "multiple-declarators"
  | missingInitializer => "missing-initializer"
  | missingBody => "missing-body"
  | typeOnly => "type-only"
  | stringLiteralName => "string-literal-name"
  | namespaceReExport => "namespace-re-export"
  | localBinding => "local-binding"
  | nameCollision => "name-collision"

structure WrappedExport where
  name : String
  shape : ExportShape
  /-- What the runtime calls the wrapper. -/
  wrapper : String
  /-- What the module calls it. -/
  wrapperLocal : String
  group : String
  runtimePath : String
deriving DecidableEq, Repr, Inhabited

structure SkippedExport where
  name : String
  reason : SkipReason
deriving DecidableEq, Repr, Inhabited

structure Report where
  wrapped : List WrappedExport
  skipped : List SkippedExport
deriving DecidableEq, Repr, Inhabited

namespace Report

def empty : Report := ⟨[], []⟩

def modified (r : Report) : Bool := !r.wrapped.isEmpty

def append (r s : Report) : Report := ⟨r.wrapped ++ s.wrapped, r.skipped ++ s.skipped⟩

instance : Append Report := ⟨append⟩

end Report

end RouteWrap
