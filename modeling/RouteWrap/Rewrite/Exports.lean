import RouteWrap.Rewrite.Image

/-!
The rewrite of a module's exports. Every item is planned in order, then replaced by its image;
the wrapper imports come first, one for each group of the preset that wrapped something.
-/

namespace RouteWrap

namespace Progress

def initial (m : Module) : Progress :=
  { names := ⟨m.names⟩, wrappers := [], moves := [], report := .empty }

/-- References follow the last alias that their import moved to. -/
def references (p : Progress) : Renaming := p.moves.reverse

/-- Imports are bound under the first. -/
def imports (p : Progress) : Renaming := p.moves

/-- The wrappers of one group: exports and local names, in the order of first use. -/
def ofGroup (p : Progress) (group : Nat) : List (String × String) :=
  p.wrappers.filterMap fun w => if w.1.1 == group then some (w.1.2, w.2) else none

end Progress

def wrapperImport (preset : Preset) (p : Progress) (g : WrapperGroup × Nat) : List Item :=
  match p.ofGroup g.2 with
  | [] => []
  | w :: ws =>
      [importNamed ((w :: ws).map fun w => (.name .none (preset.wrapperName w.1), w.2))
        (.ofString g.1.runtimePath)]

def wrapperImports (preset : Preset) (p : Progress) : List Item :=
  preset.groups.zipIdx.flatMap (wrapperImport preset p)

def Module.plans (m : Module) (preset : Preset) : List Plan × Progress :=
  (m.items.mapM (Planning.item preset (Surface.ofItems m.items))).run (Progress.initial m)

def Module.rewriteExports (m : Module) (preset : Preset) (routeId : String) :
    Module × Report :=
  let (plans, p) := m.plans preset
  let images := plans.flatMap (Plan.image p.references p.imports (.ofString routeId))
  ({ m with items := wrapperImports preset p ++ images }, p.report)

end RouteWrap
