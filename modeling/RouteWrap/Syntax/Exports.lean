import RouteWrap.Syntax.Fault
import RouteWrap.Syntax.Module

/-!
The names that declarations bind and modules export, in the order of the source. In a module
without types a name is exported once.
-/

namespace RouteWrap

mutual

/-- The names that a pattern binds, in order, with where they stand. -/
def Tree.patternNames : Tree → List Name
  | .bind s _ n => [⟨s, n⟩]
  | .node _ (.pattern (.property ..)) (_ :: value) => patternNamesList value
  | .node _ (.pattern .defaulted) (left :: _) => left.patternNames
  | .node _ (.pattern (.annotated _)) (p :: _) => p.patternNames
  | .node _ (.pattern .object) ps => patternNamesList ps
  | .node _ (.pattern .array) ps => patternNamesList ps
  | .node _ (.pattern .rest) ps => patternNamesList ps
  | _ => []

def Tree.patternNamesList : List Tree → List Name
  | [] => []
  | t :: ts => t.patternNames ++ patternNamesList ts

end

def Declaration.boundNames : Declaration → List Name
  | .variable d => d.declarators.flatMap (·.target.patternNames)
  | .function d => d.name.toList
  | .classes d => d.name.toList
  | .other _ => []

def Item.exportedNames : Item → List (String × Nat)
  | .exportDeclaration _ d => d.boundNames.map fun n => (n.text, n.span.start)
  | .exportList l => l.specifiers.map fun e => (e.exported.text, e.exported.span.start)
  | .exportAll e => (e.exported.map fun n => (n.text, n.span.start)).toList
  | _ => []

def duplicates : List (String × Nat) → List (String × Nat) → List Diagnostic
  | _, [] => []
  | seen, (n, offset) :: rest =>
      match seen.lookup n with
      | some first => ⟨.duplicateExport n, first⟩ :: duplicates seen rest
      | none => duplicates (seen ++ [(n, offset)]) rest

def defaultFaults (items : List Item) : List Diagnostic :=
  let offsets := items.filterMap fun i => match i with
    | .exportDefault s _ => some (s.start + 7)
    | _ => none
  match offsets with
  | first :: _ :: _ => [⟨.duplicateDefault, first⟩]
  | _ => []

/-- What is wrong with the exports of a module without types. -/
def exportFaults (items : List Item) : List Diagnostic :=
  duplicates [] (items.flatMap Item.exportedNames) ++ defaultFaults items

end RouteWrap
