import RouteWrap.Config.Fault
import RouteWrap.Preset
import RouteWrap.PrintFormat

/-!
From settings to the configuration. Names are looked up in the order of their characters, so the
first fault in that order is the one reported; names that mean nothing are passed over.
-/

namespace RouteWrap

inductive PresetKind
  | dataFunctions
  | context
  | custom
deriving DecidableEq, Repr, Inhabited

namespace PresetKind

def name : PresetKind → String
  | dataFunctions => "data-functions"
  | context => "context"
  | custom => "custom"

def all : List PresetKind := [dataFunctions, context, custom]

end PresetKind

structure Config where
  preset : PresetKind
  /-- Takes the place of the naming of the preset. -/
  naming : Option WrapperNaming
  groups : List WrapperGroup
  /-- Whether the wrappers of the context preset are put around the others. -/
  injectContext : Bool
  quote : QuoteStyle
  minify : Bool
deriving DecidableEq, Repr, Inhabited

def Config.standard : Config :=
  { preset := .dataFunctions, naming := none, groups := [], injectContext := false
    quote := .double, minify := false }

namespace Setting

abbrev Decoded := Except ConfigFault

/-- What is found, as far as a message tells. -/
def found : Setting → Data
  | plain _ d => d
  | table _ _ => .table []

def wrong {α : Type} (s : Setting) (wanted : Wanted) : Decoded α :=
  .error ⟨.wrongType s.found wanted, [], some s.source⟩

def under {α : Type} (name : String) : Decoded α → Decoded α
  | .ok a => .ok a
  | .error f => .error (f.inside name)

def toBool (s : Setting) : Decoded Bool :=
  match s with
  | .plain _ (.boolean b) => .ok b
  | _ => s.wrong .boolean

def toText (s : Setting) : Decoded String :=
  match s with
  | .plain _ (.text t) => .ok t
  | .plain _ (.character c) => .ok (String.singleton c)
  | _ => s.wrong .text

def toListFrom {α : Type} (item : Setting → Decoded α) (source : Source) :
    Nat → List Data → Decoded (List α)
  | _, [] => .ok []
  | i, d :: ds => do
      let a ← under (toString i) (item (.ofData source d))
      return a :: (← toListFrom item source (i + 1) ds)

def toList {α : Type} (item : Setting → Decoded α) (s : Setting) : Decoded (List α) :=
  match s with
  | .plain source (.list ds) => toListFrom item source 0 ds
  | _ => s.wrong .sequence

/-- One of several named values. A table in its place is looked into, to say what is wrong. -/
def toChoice {α : Type} (named : List (String × α)) (wanted : Wanted) (s : Setting) : Decoded α :=
  let unknown := fun (name : String) => (.error
    ⟨.unknownName name (named.map Prod.fst), [], some s.source⟩ : Decoded α)
  match s with
  | .plain _ (.text t) =>
      match Entries.get? named t with
      | some a => .ok a
      | none => unknown t
  | .plain _ _ => s.wrong wanted
  | .table _ entries =>
      match Entries.least? entries with
      | none => s.wrong .choice
      | some (name, inner) =>
          if (Entries.get? named name).isSome then under name (inner.wrong .nothing)
          else unknown name

def field? {α : Type} (decode : Setting → Decoded α) (entries : Settings) (name : String) :
    Decoded (Option α) :=
  match entries.get? name with
  | some s => under name (some <$> decode s)
  | none => .ok none

def fieldOr {α : Type} (decode : Setting → Decoded α) (entries : Settings) (name : String)
    (standard : α) : Decoded α :=
  (Option.getD · standard) <$> field? decode entries name

def toNaming (s : Setting) : Decoded WrapperNaming :=
  match s with
  | .table _ entries => do
      let before ← fieldOr toText entries "prefix" WrapperNaming.standard.before
      let after ← fieldOr toText entries "suffix" WrapperNaming.standard.after
      return ⟨before, after⟩
  | .plain source (.list ds) => do
      let texts ← toListFrom toText source 0 (ds.take 2)
      match texts with
      | [] => return WrapperNaming.standard
      | [before] => return ⟨before, WrapperNaming.standard.after⟩
      | before :: after :: _ => return ⟨before, after⟩
  | _ => s.wrong .naming

def toGroup (s : Setting) : Decoded WrapperGroup :=
  match s with
  | .table source entries => do
      let exports ← field? (toList toText) entries "exports"
      let name ← field? toText entries "name"
      let runtimePath ← field? toText entries "runtime_path"
      let missing (field : String) : Decoded WrapperGroup :=
        .error ⟨.missingField field, [], some source⟩
      match name, runtimePath, exports with
      | some name, some runtimePath, some exports => return { name, runtimePath, exports }
      | none, _, _ => missing "name"
      | _, none, _ => missing "runtime_path"
      | _, _, none => missing "exports"
  | .plain source (.list ds) => do
      let short (n : Nat) : Decoded WrapperGroup := .error ⟨.tooShort n .group 3, [], some source⟩
      match ds with
      | name :: runtimePath :: exports :: _ =>
          let name ← under "0" (toText (.ofData source name))
          let runtimePath ← under "1" (toText (.ofData source runtimePath))
          let exports ← under "2" (toList toText (.ofData source exports))
          return { name, runtimePath, exports }
      | ds => do
          discard (toListFrom toText source 0 ds)
          short ds.length
  | _ => s.wrong .group

def toPresetKind : Setting → Decoded PresetKind :=
  toChoice (PresetKind.all.map fun k => (k.name, k)) .presetKind

def toQuoteStyle : Setting → Decoded QuoteStyle :=
  toChoice ([QuoteStyle.single, .double].map fun q => (q.name, q)) .quoteStyle

end Setting

open Setting in
/-- The configuration that settings make; what they leave open is standard. -/
def Config.ofSettings (entries : Settings) : Except ConfigFault Config := do
  let base := Config.standard
  let groups ← fieldOr (toList toGroup) entries "groups" base.groups
  let injectContext ← fieldOr toBool entries "inject_context" base.injectContext
  let minify ← fieldOr toBool entries "minify" base.minify
  let naming ← field? toNaming entries "naming"
  let preset ← fieldOr toPresetKind entries "preset" base.preset
  let quote ← fieldOr toQuoteStyle entries "quote_style" base.quote
  return { preset, naming, groups, injectContext, quote, minify }

end RouteWrap
