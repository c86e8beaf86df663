import RouteWrap.Command.Fault
import RouteWrap.CommandLine.Arguments
import RouteWrap.Console

/-!
What both commands do: load the configuration, and wrap the exports of one file. A command reads
files as it goes and fails at the first fault.
-/

namespace RouteWrap

/-- What a run has printed in the end. -/
structure Printed where
  stdout : String
  stderr : String
  /-- Why the standard output did not take a report, which stops the program short. -/
  refused : Option FileError := none
deriving DecidableEq, Repr, Inhabited

structure Process (N : Type) (m : Type → Type) where
  host : Host N m
  environment : Environment
  color : Bool

abbrev CommandM (N : Type) [FileName N] (m : Type → Type) := ExceptT (CommandFault N) m

def PresetChoice.kind : PresetChoice → PresetKind
  | dataFunctions => .dataFunctions
  | context => .context

namespace Process

variable {N : Type} [FileName N] {m : Type → Type} [Monad m]

/-- The configuration of the given file, or of the working directory, with the chosen preset. -/
def loadConfig (p : Process N m) (file : Option N) (preset : Option PresetChoice) :
    CommandM N m Config := do
  let loaded : m (Except ConfigFault Config) := match file with
    | some path => Config.loadFile p.host p.environment path
    | none => Config.load p.host p.environment "."
  match ← loaded with
  | .error f => throw (.config f)
  | .ok c => return { c with preset := (preset.map PresetChoice.kind).getD c.preset }

def instrumenter (c : Config) : CommandM N m Instrumenter :=
  match c.instrumenter with
  | .error f => throw (.preset f)
  | .ok i => return i

/-- The route of a file, unless one is given: its path with slashes. -/
def defaultRouteId (path : N) : String :=
  (FileName.shown path).map fun c => if c == '\\' then '/' else c

/-- Read a file and wrap its exports; its name tells the dialect. -/
def transformFile (p : Process N m) (i : Instrumenter) (path : N) (routeId : String) :
    CommandM N m Transformed := do
  match ← p.host.readText path with
  | .error e => throw (.ofFileError path e)
  | .ok source =>
      match i.transform source routeId ⟨Dialect.ofPath (FileName.shown path), false⟩ with
      | .error e => throw (.module path source e)
      | .ok t => return t

def writeFile (p : Process N m) (path : N) (content : String) : CommandM N m Unit := do
  match ← p.host.write path content with
  | .error e => throw (.ofFileError path e)
  | .ok () => return ()

/-- What the standard output is called where a fault is one of it. -/
def stdoutName : N := FileName.ofText "<stdout>"

def print (p : Process N m) (text : String) : CommandM N m Unit := do
  match ← p.host.print text with
  | .error e => throw (.ofFileError stdoutName e)
  | .ok () => return ()

end Process

end RouteWrap
