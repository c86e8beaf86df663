import RouteWrap.Command.Module

/-!
The command that wraps the exports of a module.
-/

namespace RouteWrap.InstrumentArguments

variable {N : Type} [FileName N] {m : Type → Type} [Monad m]

def adjust (a : InstrumentArguments N) (c : Config) : Config :=
  { c with
    quote := if a.singleQuote then .single else c.quote
    minify := a.minify || c.minify }

def status (color : Bool) (out : N) (t : Transformed) : String :=
  if t.modified then
    Console.paint color [.green, .bold] "✓" ++ " Wrapped " ++ toString t.report.wrapped.length
      ++ " export(s), wrote " ++ FileName.shown out ++ "\n"
  else
    Console.paint color [.blue, .bold] "ℹ" ++ " No data-function exports, copied to "
      ++ FileName.shown out ++ "\n"

/-- The code of a module goes to its place, a file or the standard output. -/
def deliver (a : InstrumentArguments N) (p : Process N m) (t : Transformed) :
    CommandM N m Printed :=
  match a.out with
  | some out => do
      p.writeFile out t.code
      return { stdout := "", stderr := status p.color out t }
  | none => do
      p.print t.code
      return { stdout := t.code, stderr := "" }

def run (a : InstrumentArguments N) (p : Process N m) (config : Option N) :
    CommandM N m Printed := do
  let c ← p.loadConfig config a.preset
  let i ← Process.instrumenter (a.adjust c)
  a.deliver p (← p.transformFile i a.file (a.routeId.getD (Process.defaultRouteId a.file)))

end RouteWrap.InstrumentArguments
