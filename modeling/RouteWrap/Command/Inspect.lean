import RouteWrap.Command.Module
import RouteWrap.Text.PrettyJson

/-!
The command that reports what would be wrapped in modules, and changes nothing.
-/

namespace RouteWrap

structure FileReport (N : Type := String) where
  file : N
  routeId : String
  report : Report
deriving DecidableEq, Repr, Inhabited

namespace FileReport

variable {N : Type} [FileName N]

def wrappedJson (w : WrappedExport) : PrettyJson :=
  .object [("name", .text w.name), ("shape", .text w.shape.key), ("wrapper", .text w.wrapper),
    ("wrapper_local", .text w.wrapperLocal), ("group", .text w.group),
    ("runtime_path", .text w.runtimePath)]

def skippedJson (s : SkippedExport) : PrettyJson :=
  .object [("name", .text s.name), ("reason", .text s.reason.key)]

/-- The report in JSON, which only knows names that are texts. -/
def json (r : FileReport N) : Except (UnspelledName N) PrettyJson :=
  match spelled : FileName.text? r.file with
  | some file => .ok <| .object
      [("file", .text file), ("route_id", .text r.routeId),
       ("modified", .truth r.report.modified),
       ("wrapped", .list (r.report.wrapped.map wrappedJson)),
       ("skipped", .list (r.report.skipped.map skippedJson))]
  | none => .error ⟨r.file, spelled⟩

def padded (name : String) : String :=
  name ++ String.ofList (List.replicate (14 - name.length) ' ')

def line (parts : List String) : String := "  " ++ " ".intercalate parts ++ "\n"

def text (color : Bool) (r : FileReport N) : String :=
  let none := if r.report.wrapped.isEmpty && r.report.skipped.isEmpty then
      line [Console.paint color [.dim] "no data-function exports"]
    else ""
  let wrapped := r.report.wrapped.map fun w =>
    line [Console.paint color [.green] "wrap", padded w.name, w.wrapper, "from", w.runtimePath,
      "(" ++ w.shape.text ++ ")"]
  let skipped := r.report.skipped.map fun s =>
    line [Console.paint color [.yellow] "skip", padded s.name, s.reason.text]
  Console.paint color [.bold] (FileName.shown r.file) ++ "\n" ++ none ++ String.join wrapped ++
    String.join skipped

end FileReport

namespace InspectArguments

variable {N : Type} [FileName N] {m : Type → Type} [Monad m]

def inspectFile (p : Process N m) (i : Instrumenter) (path : N) : CommandM N m (FileReport N) := do
  let routeId := Process.defaultRouteId path
  let t ← p.transformFile i path routeId
  return ⟨path, routeId, t.report⟩

def reports (p : Process N m) (i : Instrumenter) : List N → CommandM N m (List (FileReport N))
  | [] => return []
  | path :: rest => do
      let r ← inspectFile p i path
      return r :: (← reports p i rest)

/-- What is printed of the reports. -/
def text (a : InspectArguments N) (color : Bool) (rs : List (FileReport N)) :
    Except (UnspelledName N) String :=
  if a.json then (rs.mapM FileReport.json).map fun vs => (PrettyJson.list vs).render ++ "\n"
  else .ok (String.join (rs.map (FileReport.text color)))

def present (a : InspectArguments N) (p : Process N m) (rs : List (FileReport N)) :
    CommandM N m Printed :=
  match a.text p.color rs with
  | .error n => throw (.json n.name n.unspelled)
  | .ok text => do
      match ← p.host.print text with
      | .ok () => return { stdout := text, stderr := "" }
      | .error e => return { stdout := "", stderr := "", refused := some e }

def run (a : InspectArguments N) (p : Process N m) (config : Option N) : CommandM N m Printed := do
  let c ← p.loadConfig config a.preset
  let i ← Process.instrumenter c
  a.present p (← reports p i a.files)

end InspectArguments

end RouteWrap
