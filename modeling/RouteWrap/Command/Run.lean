import RouteWrap.Command.Inspect
import RouteWrap.Command.Instrument
import RouteWrap.CommandLine.Reading

/-!
From a command line that was read to what the run prints, and how the program ends.
-/

namespace RouteWrap

variable {N : Type} [FileName N] {m : Type → Type} [Monad m]

def Command.run (c : Command N) (p : Process N m) (config : Option N) : CommandM N m Printed :=
  match c with
  | .instrument a => a.run p config
  | .inspect a => a.run p config

/-- Run the command of a line; colour is used only if neither the line nor the environment is
against it. -/
def CommandLine.run (l : CommandLine N) (host : Host N m) (env : Environment) (terminal : Bool) :
    m (Except (CommandFault N) Printed) :=
  let color := !l.noColor && Console.wantsColor env terminal
  (l.command.run ⟨host, env, color⟩ l.config).run

/-- How the program ends: the code that it ends with, and what it says on the standard error. -/
structure Ending where
  exitCode : UInt32
  stderr : String
deriving DecidableEq, Repr, Inhabited

def Ending.ofRun : Except (CommandFault N) Printed → Ending
  | .ok p =>
      match p.refused with
      | none => ⟨0, p.stderr⟩
      | some e => ⟨101, p.stderr ++ "failed printing to stdout: " ++ e.text ++ "\n"⟩
  | .error f => ⟨1, f.report.text⟩

end RouteWrap
