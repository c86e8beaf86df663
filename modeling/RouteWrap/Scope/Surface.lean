import RouteWrap.Syntax.Exports

/-!
The surface of a module: the names its own statements import and declare, and the functions it
exports with a body. Only the statements at the top are looked at, not the bindings that nested
ones hoist out of their blocks.
-/

namespace RouteWrap

structure Surface where
  imported : List String
  declared : List String
  implemented : List String
deriving DecidableEq, Repr, Inhabited

namespace ImportDecl

def valueNames (d : ImportDecl) : List String :=
  if d.typeOnly then []
  else ((d.specifiers.getD []).filter fun s => !s.typeOnly).map fun s => s.localName.text

end ImportDecl

namespace Item

def importedNames : Item → List String
  | imports d => d.valueNames
  | _ => []

def declaredNames : Item → List String
  | declaration d => d.boundNames.map Name.text
  | exportDeclaration _ d => d.boundNames.map Name.text
  | _ => []

def implementedNames : Item → List String
  | exportDeclaration _ (.function d) =>
      if d.body.isSome then (d.name.map Name.text).toList else []
  | _ => []

end Item

namespace Surface

def ofItems (items : List Item) : Surface :=
  { imported := items.flatMap Item.importedNames
    declared := items.flatMap Item.declaredNames
    implemented := items.flatMap Item.implementedNames }

def imports (s : Surface) (n : String) : Bool := s.imported.contains n

def binds (s : Surface) (n : String) : Bool := s.imported.contains n || s.declared.contains n

def implements (s : Surface) (n : String) : Bool := s.implemented.contains n

end Surface

end RouteWrap
