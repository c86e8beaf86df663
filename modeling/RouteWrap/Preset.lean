import RouteWrap.Text.Blank
import RouteWrap.Text.Identifier
import RouteWrap.Text.Uppercase

/-!
Presets: which exports are wrapped, what the wrappers are called and which module they come from.
`Preset.fault?` is the first thing that keeps a preset from being used; a preset without a fault
lists no export twice.
-/

namespace RouteWrap

structure WrapperNaming where
  before : String
  after : String
deriving DecidableEq, Repr, Inhabited

namespace WrapperNaming

def standard : WrapperNaming := ⟨"with", "Wrapper"⟩

def wrapperName (n : WrapperNaming) (export_ : String) : String :=
  n.before ++ Uppercase.capitalize export_ ++ n.after

end WrapperNaming

structure WrapperGroup where
  name : String
  runtimePath : String
  exports : List String
deriving DecidableEq, Repr, Inhabited

structure Preset where
  naming : WrapperNaming
  groups : List WrapperGroup
deriving DecidableEq, Repr, Inhabited

namespace Preset

def serverExports : List String := ["loader", "action"]
def clientExports : List String := ["clientLoader", "clientAction"]

def dataFunctions : Preset :=
  { naming := .standard
    groups :=
      [⟨"server", "react-router-devtools/server", serverExports⟩,
       ⟨"client", "react-router-devtools/client", clientExports⟩] }

def context : Preset :=
  { naming := ⟨"with", "ContextWrapper"⟩
    groups :=
      [⟨"context", "react-router-devtools/context", serverExports ++ clientExports⟩] }

/-- The group that lists an export; the first one counts. -/
def groupIndex (p : Preset) (e : String) : Option Nat :=
  p.groups.findIdx? fun g => g.exports.contains e

def recognizes (p : Preset) (e : String) : Bool :=
  (p.groupIndex e).isSome

def wrapperName (p : Preset) (e : String) : String :=
  p.naming.wrapperName e

end Preset

inductive PresetFault
  | noGroups
  | emptyPath (group : String)
  | noExports (group : String)
  | invalidExport (name : String)
  | repeatedExport (name : String)
  | invalidWrapper (name : String)
  /-- A configuration asks for its own groups and has none. -/
  | customWithoutGroups
deriving DecidableEq, Repr, Inhabited

namespace PresetFault

def message : PresetFault → String
  | noGroups => "Invalid preset: no wrapper groups defined"
  | emptyPath g => "Invalid preset: group '" ++ g ++ "' has an empty runtime path"
  | noExports g => "Invalid preset: group '" ++ g ++ "' lists no exports"
  | invalidExport n => "Invalid identifier: '" ++ n ++ "'"
  | repeatedExport n => "Invalid preset: export '" ++ n ++ "' is listed in more than one group"
  | invalidWrapper n =>
      "Invalid identifier: '" ++ n ++ "' - check the wrapper naming prefix and suffix"
  | customWithoutGroups =>
      "Invalid preset: preset = \"custom\" requires at least one [[groups]] entry"

/-- Whether a name is at fault, not the groups. -/
def isIdentifier : PresetFault → Bool
  | invalidExport _ | invalidWrapper _ => true
  | _ => false

end PresetFault

namespace Preset

/-- The first fault among exports, of which those in `seen` came before. -/
def exportFault? (naming : WrapperNaming) : List String → List String → Option PresetFault
  | _, [] => none
  | seen, e :: rest =>
      if !Identifier.isPlainName e then some (.invalidExport e)
      else if seen.contains e then some (.repeatedExport e)
      else if !Identifier.isPlainName (naming.wrapperName e) then
        some (.invalidWrapper (naming.wrapperName e))
      else exportFault? naming (e :: seen) rest

def groupFault? (naming : WrapperNaming) (seen : List String) (g : WrapperGroup) :
    Option PresetFault :=
  if Blank.allBlank g.runtimePath then some (.emptyPath g.name)
  else if g.exports.isEmpty then some (.noExports g.name)
  else exportFault? naming seen g.exports

def groupsFault? (naming : WrapperNaming) : List String → List WrapperGroup → Option PresetFault
  | _, [] => none
  | seen, g :: rest =>
      match groupFault? naming seen g with
      | some f => some f
      | none => groupsFault? naming (g.exports.reverse ++ seen) rest

def fault? (p : Preset) : Option PresetFault :=
  if p.groups.isEmpty then some .noGroups else groupsFault? p.naming [] p.groups

def validate (p : Preset) : Except PresetFault Unit :=
  match p.fault? with
  | some f => .error f
  | none => .ok ()

end Preset

end RouteWrap
