import RouteWrap.Command.Run

/-!
The program itself: the command line, the files and the environment of the process it runs in.
-/

namespace RouteWrap

def FileError.ofSystem : IO.Error → FileError
  | .noFileOrDirectory _ _ _ => .notFound
  | e => .other (toString e)

def systemHost : Host String IO where
  read path := do
    try
      return .ok (← IO.FS.readBinFile path)
    catch e => return .error (.ofSystem e)
  write path content := do
    try
      IO.FS.writeFile path content
      return .ok ()
    catch e => return .error (.ofSystem e)
  isFile path := do
    try
      discard (IO.FS.readBinFile path)
      return true
    catch _ => return false
  workingDirectory := return (← IO.currentDir).toString
  print text := do
    try
      let out ← IO.getStdout
      out.putStr text
      out.flush
      return .ok ()
    catch e => return .error (.ofSystem e)

/-- The variables of the process; each ends with the character zero. -/
def systemEnvironment : IO Environment := do
  let text := (String.fromUTF8? (← IO.FS.readBinFile "/proc/self/environ")).getD ""
  return (text.splitOn "\x00").filterMap fun entry =>
    match entry.splitOn "=" with
    | name :: value :: more => some (name, "=".intercalate (value :: more))
    | _ => none

def usage : String :=
  "Usage: rdt instrument FILE [--route-id ID] [-p PRESET] [-o FILE] [--single-quote] [--minify]\n"
    ++ "       rdt inspect FILE... [-p PRESET] [--json]\n"
    ++ "Everywhere: [-v | -q] [--no-color] [-c PATH] [-h]\n"

def runLine (l : CommandLine) : IO UInt32 := do
  let env ← try systemEnvironment catch _ => pure []
  let terminal ← (← IO.getStderr).isTty
  let ending := Ending.ofRun (← l.run systemHost env terminal)
  IO.eprint ending.stderr
  return ending.exitCode

end RouteWrap

open RouteWrap in
def main (words : List String) : IO UInt32 := do
  match CommandLine.parse words with
  | .ok l => runLine l
  | .error .version =>
      IO.println "rdt"
      return 0
  | .error f =>
      if f.exitCode == 0 then IO.print usage else IO.eprint usage
      return f.exitCode.toUInt32
