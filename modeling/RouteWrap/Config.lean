import RouteWrap.Config.Decode
import RouteWrap.Config.Variable
import RouteWrap.Files.Host
import RouteWrap.Files.Path
import RouteWrap.Toml.Document
import RouteWrap.Transform

/-!
The configuration in effect: what a file sets over the standard, and what variables set over both.
`Config.load` looks for the file of a project, and `Config.loadFile` demands a given one.
-/

namespace RouteWrap

namespace Config

def fileName : String := "rdt.toml"

def settingsOfText (shown text : String) : Except ConfigFault Settings :=
  match Toml.parse text with
  | .ok entries => .ok (Setting.ofEntries (.file shown) entries)
  | .error e => .error (.ofKind (.malformed e.line e.column))

def layered (file : Settings) (env : Environment) : Except ConfigFault Config :=
  Config.ofSettings (Setting.ontoEntries env.settings file)

section Host

variable {N : Type} [FileName N] {m : Type → Type} [Monad m]

def firstFile (host : Host N m) : List N → m (Option N)
  | [] => return none
  | p :: ps => do
      if ← host.isFile p then return some p else firstFile host ps

/-- The file that a path leads to. A path that does not begin at the root is looked for in the
working directory, and then in the directories above it. -/
def findFile (host : Host N m) (path : N) : m (Option N) := do
  if FileName.isAbsolute path then firstFile host [path]
  else
    let working ← host.workingDirectory
    firstFile host ((Path.ancestors working).map (FileName.within · path))

def loadFound (host : Host N m) (env : Environment) (path : N) :
    m (Except ConfigFault Config) := do
  match ← findFile host path with
  | none => return layered [] env
  | some p =>
      let shown := Path.relative (FileName.shown p) (← host.workingDirectory)
      match ← host.readText p with
      | .error e => return .error (.ofKind (.unreadable e.text))
      | .ok text => return (settingsOfText shown text).bind (layered · env)

def load (host : Host N m) (env : Environment) (root : String) : m (Except ConfigFault Config) :=
  loadFound host env (FileName.ofText (Path.join root fileName))

/-- The configuration of a file, which must be there. -/
def loadFile (host : Host N m) (env : Environment) (path : N) :
    m (Except ConfigFault Config) := do
  if ← host.isFile path then loadFound host env path
  else return .error (.ofKind (.missingFile (FileName.shown path)))

end Host

/-- The preset of the configuration, without the one of the context. -/
def toPreset (c : Config) : Except PresetFault Preset := do
  let base ← match c.preset with
    | .dataFunctions => .ok Preset.dataFunctions
    | .context => .ok Preset.context
    | .custom =>
        if c.groups.isEmpty then .error .customWithoutGroups
        else .ok ⟨.standard, c.groups⟩
  let preset := { base with naming := c.naming.getD base.naming }
  preset.validate
  return preset

def presets (c : Config) : Except PresetFault (List Preset) := do
  let preset ← c.toPreset
  return if c.injectContext && c.preset != .context then [preset, .context] else [preset]

def format (c : Config) : PrintFormat := ⟨c.quote, c.minify⟩

def instrumenter (c : Config) : Except PresetFault Instrumenter := do
  Instrumenter.ofPresets (← c.presets) c.format

end Config

end RouteWrap
