import RouteWrap.FreshNames
import RouteWrap.Preset
import RouteWrap.Rewrite.Report
import RouteWrap.Scope.Surface

/-!
What becomes of each item of a module. A plan keeps the item, drops it, or names what takes its
place; the walk over the items threads the names still free, the wrappers bound so far, the
imports that move to an alias, and the report.
-/

namespace RouteWrap

inductive SpecifierPlan
  | keep (s : ExportSpecifier)
  /-- Exported from another module: taken under an alias, which is wrapped. -/
  | reExport (s : ExportSpecifier) (freshName callee : String)
  /-- An import under its own name: the import moves to the alias, which is wrapped. -/
  | moved (s : ExportSpecifier) (freshName callee : String)
  /-- An import under another name: exported under an alias, and itself wrapped. -/
  | aliased (s : ExportSpecifier) (source freshName callee : String)
deriving DecidableEq, Repr, Inhabited

inductive Plan
  | keep (i : Item)
  | drop (i : Item)
  | initial (span : Span) (d : VariableDecl) (first : Declarator) (value : Tree)
      (callee : String)
  | function (span : Span) (d : FunctionDecl) (name callee : String)
  | list (l : ExportList) (specifiers : List SpecifierPlan)
deriving Repr, Inhabited

structure Progress where
  names : FreshNames
  /-- Local names of the wrappers of each group and export, in the order of first use. -/
  wrappers : List ((Nat × String) × String)
  moves : List (String × String)
  report : Report
deriving Repr, Inhabited

abbrev Planning := StateM Progress

namespace Planning

def skip (name : String) (reason : SkipReason) : Planning Unit :=
  modify fun p => { p with report := p.report ++ ⟨[], [⟨name, reason⟩]⟩ }

def fresh (base : String) : Planning String :=
  modifyGet fun p =>
    let (n, names) := p.names.generate base
    (n, { p with names })

/-- The local name of the wrapper for an export, claimed on first use. -/
def wrapperLocal (preset : Preset) (group : Nat) (e : String) : Planning String :=
  modifyGet fun p =>
    match p.wrappers.lookup (group, e) with
    | some n => (n, p)
    | none =>
        let (n, names) := p.names.claim (preset.wrapperName e)
        (n, { p with names, wrappers := p.wrappers ++ [((group, e), n)] })

/-- Report an export as wrapped; the answer is what its wrapper is called. -/
def wrap (preset : Preset) (group : Nat) (e : String) (shape : ExportShape) :
    Planning String := do
  let callee ← wrapperLocal preset group e
  let g := preset.groups[group]?.getD default
  let entry : WrappedExport :=
    { name := e, shape, wrapper := preset.wrapperName e, wrapperLocal := callee
      group := g.name, runtimePath := g.runtimePath }
  modify fun p => { p with report := p.report ++ ⟨[entry], []⟩ }
  return callee

/-- The recognized names that a variable declaration binds, sorted, each once. -/
def recognizedIn (preset : Preset) (d : VariableDecl) : List String :=
  let names := (Declaration.boundNames (.variable d)).map Name.text
  (names.eraseDups.filter preset.recognizes).mergeSort fun a b => decide (a ≤ b)

def skipVariables (preset : Preset) (d : VariableDecl) (reason : SkipReason) : Planning Unit :=
  (recognizedIn preset d).forM fun n => skip n reason

/-! Items -/

def planVariables (preset : Preset) (span : Span) (d : VariableDecl) : Planning Plan := do
  let same := Plan.keep (.exportDeclaration span (.variable d))
  if d.declare then
    skipVariables preset d .missingInitializer
    return same
  match d.declarators with
  | [first] =>
      match first.target with
      | .bind _ _ name =>
          match preset.groupIndex name with
          | none => return same
          | some group =>
              match first.initial with
              | some value =>
                  let callee ← wrap preset group name .variableDeclaration
                  return .initial span d first value callee
              | none =>
                  skip name .missingInitializer
                  return same
      | _ =>
          skipVariables preset d .destructuredBinding
          return same
  | _ =>
      skipVariables preset d .multipleDeclarators
      return same

/-- A signature without a body is dropped where its function is exported, too. -/
def isOverload (preset : Preset) (surface : Surface) (d : FunctionDecl) : Bool :=
  d.body.isNone && !d.traits.declare
    && d.name.any fun n => preset.recognizes n.text && surface.implements n.text

def function (preset : Preset) (surface : Surface) (span : Span) (d : FunctionDecl) :
    Planning Plan := do
  let same := Item.exportDeclaration span (.function d)
  if isOverload preset surface d then return .drop same
  match d.name with
  | none => return .keep same
  | some n =>
      match preset.groupIndex n.text with
      | none => return .keep same
      | some group =>
          if d.body.isNone || d.traits.declare then
            skip n.text .missingBody
            return .keep same
          let callee ← wrap preset group n.text .functionDeclaration
          return .function span d n.text callee

def classes (preset : Preset) (d : ClassDecl) : Planning Unit :=
  match d.name with
  | some n => if preset.recognizes n.text then skip n.text .classDeclaration else pure ()
  | none => pure ()

def ownSpecifier (preset : Preset) (surface : Surface) (group : Nat) (e : String)
    (s : ExportSpecifier) : Planning SpecifierPlan := do
  match s.localName with
  | .string .. =>
      skip e .stringLiteralName
      return .keep s
  | .name _ source =>
      if !surface.imports source then
        skip e .localBinding
        return .keep s
      if source == e then
        let freshName ← fresh e
        modify fun p => { p with moves := p.moves ++ [(source, freshName)] }
        let callee ← wrap preset group e .importReExport
        return .moved s freshName callee
      if surface.binds e then
        skip e .nameCollision
        return .keep s
      let freshName ← fresh e
      let callee ← wrap preset group e .importReExport
      return .aliased s source freshName callee

def specifier (preset : Preset) (surface : Surface) (l : ExportList) (s : ExportSpecifier) :
    Planning SpecifierPlan := do
  match s.exported with
  | .string _ ps =>
      if preset.recognizes ps.text then skip ps.text .stringLiteralName
      return .keep s
  | .name _ e =>
      match preset.groupIndex e with
      | none => return .keep s
      | some group =>
          if l.typeOnly || s.typeOnly then
            skip e .typeOnly
            return .keep s
          if l.request.isSome then
            let freshName ← fresh e
            let callee ← wrap preset group e .reExport
            return .reExport s freshName callee
          else ownSpecifier preset surface group e s

def list (preset : Preset) (surface : Surface) (l : ExportList) : Planning Plan := do
  return .list l (← l.specifiers.mapM (specifier preset surface l))

def defaultName : DefaultValue → Option String
  | .declaration (.function d) => d.name.map Name.text
  | .declaration (.classes d) => d.name.map Name.text
  | .expression (.ref _ _ n) => some n
  | _ => none

def item (preset : Preset) (surface : Surface) (i : Item) : Planning Plan := do
  match i with
  | .exportDeclaration span (.variable d) => planVariables preset span d
  | .exportDeclaration span (.function d) => function preset surface span d
  | .exportDeclaration _ (.classes d) =>
      classes preset d
      return .keep i
  | .exportList l => list preset surface l
  | .exportDefault _ v =>
      match defaultName v with
      | some n => if preset.recognizes n then skip n .defaultExport
      | none => pure ()
      return .keep i
  | .exportAll e =>
      match e.exported with
      | some n => if preset.recognizes n.text then skip n.text .namespaceReExport
      | none => pure ()
      return .keep i
  | i => return .keep i

end Planning

end RouteWrap
