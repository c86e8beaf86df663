import RouteWrap.Files.Disk
import RouteWrap.Proofs.HostRuns

/-!
A disk as a host: it is steady and orderly, and the configuration that a command works with is what
the variables set over the file that is found, with a chosen preset in place of its own.
-/

namespace RouteWrap

namespace Disk

theorem steady_host (working : List String) : (host working).Steady :=
  ⟨fun _ _ => rfl, fun _ _ => rfl, fun _ => rfl⟩

variable (d : Disk) (working : List String)

theorem run_write (path content : String) :
    ((host working).write path content).run d =
      ((d.write working path content).map fun _ => (),
        (d.write working path content).toOption.getD d) := by
  rw [host, StateT.run_bind, StateT.run_get, pure_bind]
  cases d.write working path content <;> rfl

/-- All that a disk holds is its files. -/
theorem orderly_host : (host working).Orderly id where
  toSteady := steady_host working
  refused {d path content e} answer := by
    rw [Host.writes, run_write] at answer
    rw [Host.wrote, run_write]
    cases written : d.write working path content with
    | error => rfl
    | ok d' =>
        rw [written] at answer
        cases answer
  printed _ _ := rfl

/-! The file of the configuration -/

/-- The file that a path leads to, from the working directory or from one above it. -/
def found? (path : String) : Option String :=
  if Path.isAbsolute path then [path].find? (d.isFile working)
  else ((Path.ancestors (Path.ofSteps working)).map (Path.join · path)).find? (d.isFile working)

theorem run_firstFile (paths : List String) :
    (Config.firstFile (host working) paths).run d = (paths.find? (d.isFile working), d) := by
  induction paths with
  | nil => rfl
  | cons path rest ih =>
      have step : (Config.firstFile (host working) (path :: rest)).run d =
          if d.isFile working path then (some path, d)
          else (Config.firstFile (host working) rest).run d := by
        change (if d.isFile working path then pure (some path)
          else Config.firstFile (host working) rest : StateM Disk _).run d = _
        split <;> rfl
      rw [step, ih, List.find?_cons]
      cases d.isFile working path <;> rfl

theorem run_findFile (path : String) :
    (Config.findFile (host working) path).run d = (d.found? working path, d) := by
  have directory : (host working).workingDirectory = pure (Path.ofSteps working) := rfl
  have absolute : FileName.isAbsolute path = Path.isAbsolute path := rfl
  rw [Config.findFile, found?, directory, absolute]
  split
  · exact d.run_firstFile working [path]
  · rw [pure_bind]
    exact d.run_firstFile working _

/-- What the file that a path leads to sets, if it leads to one. -/
def foundSettings (path : String) : Except ConfigFault Settings :=
  match d.found? working path with
  | none => .ok []
  | some file =>
      match d.read working file with
      | .error e => .error (.ofKind (.unreadable e.text))
      | .ok text => Config.settingsOfText (Path.relative file (Path.ofSteps working)) text

theorem run_loadFound (env : Environment) (path : String) :
    (Config.loadFound (host working) env path).run d =
      (d.foundSettings working path >>= (Config.layered · env), d) := by
  rw [Config.loadFound, StateT.run_bind, run_findFile, foundSettings]
  cases d.found? working path with
  | none => rfl
  | some file =>
      change StateT.run (match d.read working file with
        | .error e => pure (.error (.ofKind (.unreadable e.text)))
        | .ok text => pure ((Config.settingsOfText (Path.relative file (Path.ofSteps working))
            text).bind (Config.layered · env))) d = _
      simp only
      cases d.read working file <;> rfl

/-- What a given file sets, which must be there, or the file of the working directory. -/
def settings : Option String → Except ConfigFault Settings
  | some file =>
      if d.isFile working file then d.foundSettings working file
      else .error (.ofKind (.missingFile file))
  | none => d.foundSettings working (Path.join "." Config.fileName)

/-- What the variables set over the settings of a file. -/
def loaded (env : Environment) (file : Option String) : Except ConfigFault Config :=
  d.settings working file >>= (Config.layered · env)

theorem run_load (env : Environment) :
    (Config.load (host working) env ".").run d = (d.loaded working env none, d) :=
  d.run_loadFound working env (Path.join "." Config.fileName)

theorem run_loadFile (env : Environment) (file : String) :
    (Config.loadFile (host working) env file).run d =
      (d.loaded working env (some file), d) := by
  change (if d.isFile working file then Config.loadFound (host working) env file
    else pure (.error (.ofKind (.missingFile file))) : StateM Disk _).run d = _
  rw [loaded, settings]
  split
  · exact d.run_loadFound working env file
  · rfl

/-- The configuration that a command works with, a chosen preset in place of its own. -/
def config (env : Environment) (file : Option String) (preset : Option PresetChoice) :
    Except CommandFault Config := do
  let c ← (d.loaded working env file).mapError .config
  return { c with preset := (preset.map PresetChoice.kind).getD c.preset }

theorem loads_host (env : Environment) (file : Option String) :
    (host working).loads d env file = d.loaded working env file := by
  cases file with
  | none => exact congrArg Prod.fst (d.run_load working env)
  | some file => exact congrArg Prod.fst (d.run_loadFile working env file)

theorem run_loadConfig (env : Environment) (color : Bool) (file : Option String)
    (preset : Option PresetChoice) :
    (Process.loadConfig ⟨host working, env, color⟩ file preset).run.run d =
      (d.config working env file preset, d) := by
  rw [(steady_host working).comesTo_loadConfig d env color file preset, loads_host, config]
  cases d.loaded working env file <;> rfl

end Disk

end RouteWrap
