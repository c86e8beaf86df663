import RouteWrap.Rewrite.Plan
import RouteWrap.Scope.Rename

/-!
The items that take an item's place. What the module held is renamed after the imports that
moved; what the rewrite adds is built around it and keeps the names it is built with.
-/

namespace RouteWrap

/-- `callee(target, "route")`. -/
def wrapperCall (callee : String) (target : Tree) (route : Points) : Tree :=
  .expr .none (.call false false)
    [.ref .none .value callee, .absent, target, .expr .none (.string route) []]

def constDeclaration (name : String) (value : Tree) : Declaration :=
  .variable
    { span := .none, kind := .const, declare := false
      declarators :=
        [{ span := .none, definite := false, target := .bind .none .lexical name
           ascription := .absent, initial := some value }] }

def exportConst (name : String) (value : Tree) : Item :=
  .exportDeclaration .none (constDeclaration name value)

/-- `import { name as local, … } from "path"`. -/
def importNamed (specifiers : List (LinkName × String)) (path : Points) : Item :=
  .imports
    { span := .none, typeOnly := false, phase := .none
      specifiers := some (specifiers.map fun s =>
        ⟨.none, false, .name s.1, ⟨.none, s.2⟩⟩)
      request := ⟨.none, path, .absent⟩ }

namespace SpecifierPlan

def specifier (σ : Renaming) (isOwn : Bool) : SpecifierPlan → ExportSpecifier
  | keep s => if isOwn then { s with localName := s.localName.rename σ } else s
  | reExport s freshName _ => { s with exported := .name .none freshName }
  | moved s freshName _ =>
      { s with localName := .name .none freshName, exported := .name .none freshName }
  | aliased s _ freshName _ =>
      { s with localName := s.localName.rename σ, exported := .name .none freshName }

def imported : SpecifierPlan → List (LinkName × String)
  | reExport s freshName _ => [(s.localName, freshName)]
  | _ => []

/-- The constant behind the list, which exports the wrapped name. -/
def constant (route : Points) : SpecifierPlan → List Item
  | keep _ => []
  | reExport s freshName callee | moved s freshName callee =>
      [exportConst s.exported.text (wrapperCall callee (.ref .none .value freshName) route)]
  | aliased s source _ callee =>
      [exportConst s.exported.text (wrapperCall callee (.ref .none .value source) route)]

end SpecifierPlan

namespace Plan

/-- The import that a list of another module's names needs. The module is named by the text of the
specifier, in which nothing is escaped. -/
def requested (l : ExportList) (plans : List SpecifierPlan) : List Item :=
  match l.request, plans.flatMap SpecifierPlan.imported with
  | some r, s :: ss => [importNamed (s :: ss) r.specifier.unescaped]
  | _, _ => []

/-- What takes the item's place, with references renamed by `σ` and imports by `τ`. -/
def image (σ τ : Renaming) (route : Points) : Plan → List Item
  | keep i => [(i.rename σ).renameImports τ]
  | drop _ => []
  | initial span d first value callee =>
      let value := wrapperCall callee (value.rename σ) route
      let first := { first.rename σ with initial := some value }
      [.exportDeclaration span (.variable { d with declarators := [first] })]
  | function span d name callee =>
      let f := (d.rename σ).toExpression
      [.exportDeclaration span (constDeclaration name (wrapperCall callee f route))]
  | list l plans =>
      requested l plans
        ++ [.exportList { l with specifiers := plans.map (·.specifier σ l.request.isNone) }]
        ++ plans.flatMap (·.constant route)

end Plan

end RouteWrap
